import Connector.Event.Bus
import Connector.Policy.Basic
import Connector.Site.Note
import Connector.Store.Counted
import Connector.Store.DataPlanes
import Connector.Transfer.Id

/-!
# A connector at work

A site is what a running connector knows: the time, the stores, the bus, the policies bound to
agreements, and the notes it took.  An access to a store can be arranged to fail once, and a
listing of data planes to be followed at once by a report of life of each of them.
-/

namespace Connector

/-- The ways the stores are accessed. -/
inductive Access where
  | create
  | findById
  | findByRequest
  | claim
  | update
  | release
  | signal
  | counts
  | query
  | saveDataPlane
  | findDataPlane
  | listDataPlanes
  | deleteDataPlane
  | touchDataPlane
  | deleteStale
  /-- Every data plane reports life right after it was listed. -/
  | touchAfterList
  deriving DecidableEq, Repr, Inhabited

/-- A running connector. -/
structure Site where
  now : Instant
  /-- The number of ids drawn. -/
  drawn : Nat
  transfers : Transfers
  dataPlanes : DataPlanes
  policies : Table ResolvedPolicy
  bus : Bus
  /-- How long a data plane may go unseen, in nanoseconds. -/
  liveness : Option Int
  /-- The accesses that fail next, with the text of the failure. -/
  failing : List (Access × String)
  /-- The notes, the newest first. -/
  notes : List Note
  deriving Inhabited

/-- What is done at a site. -/
abbrev SiteM := StateM Site

namespace Site

/-- A new site. -/
def create (now : Instant) (capacity : Nat) (liveness : Option Int) : Site where
  now := now
  drawn := 0
  transfers := .empty
  dataPlanes := .empty
  policies := []
  bus := .create capacity
  liveness := liveness
  failing := []
  notes := []

/-- A new site, if there is a bus of the capacity. -/
def create? (now : Instant) (capacity : Nat) (liveness : Option Int) : Option Site :=
  (Bus.create? capacity).map fun bus => { create now capacity liveness with bus := bus }

/-- The site with one more note. -/
def noted (s : Site) (n : Note) : Site := { s with notes := n :: s.notes }

/-- The list without the first failure of an access, and the text of that failure. -/
def takeFailure (a : Access) : List (Access × String) → Option (String × List (Access × String))
  | [] => none
  | (b, text) :: rest =>
      if a = b then some (text, rest)
      else (takeFailure a rest).map fun r => (r.1, (b, text) :: r.2)

end Site

namespace SiteM

/-- Takes a note. -/
def note (level : Level) (message : String) (fields : List (String × String)) : SiteM Unit :=
  modify fun s => s.noted ⟨level, message, fields⟩

/-- The failure arranged for an access, if there is one; it happens once. -/
def failure? (a : Access) : SiteM (Option String) := fun s =>
  match Site.takeFailure a s.failing with
  | some (text, rest) => (some text, { s with failing := rest })
  | none => (none, s)

/-- Publishes an event. -/
def publish (e : Event) : SiteM Unit := do
  let s ← get
  if s.bus.isHeard then set { s with bus := s.bus.publish e }
  else note .debug "No subscribers listening to event" []

/-- The next event for a receiver; a note is taken of events that were lost. -/
def receive (r : Receiver) : SiteM (Except ReceiveFault Event × Receiver) := do
  let answer := (← get).bus.receive r
  match answer.1 with
  | .error (.lagged lost) => note .warn s!"Event receiver lagged by {lost} events" []
  | _ => pure ()
  return answer

/-- What a receiver gets until nothing is left: events, and numbers of lost ones. -/
def drain : Nat → Receiver → SiteM (List (Except Nat Event) × Receiver)
  | 0, r => return ([], r)
  | fuel + 1, r => do
      match ← receive r with
      | (.ok e, r) =>
          let (more, r) ← drain fuel r
          return (.ok e :: more, r)
      | (.error (.lagged lost), r) =>
          let (more, r) ← drain fuel r
          return (.error lost :: more, r)
      | (.error _, r) => return ([], r)

/-- Everything that a receiver can get. -/
def drainAll (r : Receiver) : SiteM (List (Except Nat Event) × Receiver) := do
  drain ((← get).bus.kept.length + 2) r

/-- An access to a store, unless it was arranged to fail. -/
def access {α : Type} (a : Access) (run : SiteM (Except StoreFault α)) :
    SiteM (Except StoreFault α) := do
  match ← failure? a with
  | some text => return .error (.database text)
  | none => run

end SiteM
end Connector
