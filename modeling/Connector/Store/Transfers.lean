import Connector.Transfer.Basic
import Connector.Store.Fault

/-!
# The store of transfers

Records under their ids.  Workers take records on lease and write them back; what they write must
carry the version they were given and a lease of the same holder, else nothing happens.  Signals
change a record whoever holds it.  Every claim, write and effective signal makes the version grow.
Here the clock and the versions never end; `Connector.Store.Counted` says what happens where they
do.

Statements:

* `lease?_eq` — there is a lease exactly if the clock covers its end;
* `find?_create` — what was created is found;
* `find?_update`, `find?_update_of_ne` — what a write leaves, and that it leaves other records
  alone.
-/

namespace Connector

/-- A request for records on lease: by whom, as of when, and for how long. -/
structure Claim where
  holder : String
  now : Instant
  /-- In nanoseconds. -/
  duration : Int
  deriving DecidableEq, Repr, Inhabited

namespace Claim

/-- The end of the lease, on a clock without end. -/
def expiresAt (c : Claim) : Instant := ⟨c.now.nanos + c.duration⟩

/-- The lease that a claim gives, on a clock without end. -/
def lease (c : Claim) : Lease := ⟨c.holder, c.expiresAt⟩

/-- The lease that a claim gives, if the clock covers its end. -/
def lease? (c : Claim) : Option Lease :=
  (c.now.later? c.duration).map fun expiresAt => ⟨c.holder, expiresAt⟩

theorem lease?_eq (c : Claim) :
    c.lease? = if c.expiresAt.inRange = true then some c.lease else none := by
  cases h : c.expiresAt.inRange <;> simp_all [lease?, Instant.later?, lease, expiresAt]

theorem lease?_eq_none_or (c : Claim) : c.lease? = none ∨ c.lease? = some c.lease := by
  rw [lease?_eq]
  split
  · exact Or.inr rfl
  · exact Or.inl rfl

end Claim

/-- Which records are asked for; what is left open fits every record. -/
structure Query where
  states : List Transfer.State
  role : Option Transfer.Role
  agreementId : Option String
  limit : Option Nat
  deriving Repr, Inhabited

namespace Query

/-- All records. -/
def all : Query := ⟨[], none, none, none⟩

/-- Whether a record is asked for. -/
def fits (q : Query) (p : Transfer) : Bool :=
  (q.states.isEmpty || q.states.contains p.state)
    && q.role.all (· == p.role)
    && q.agreementId.all (· == p.request.agreementId)

/-- The first records up to the limit. -/
def cut (q : Query) (ps : List Transfer) : List Transfer :=
  match q.limit with
  | some n => ps.take n
  | none => ps

end Query

/-- The order of two times, and of two ids at one time. -/
def Instant.before (t : Instant) (id : String) (t' : Instant) (id' : String) : Bool :=
  decide (t < t') || (decide (t.nanos = t'.nanos) && decide (id ≤ id'))

namespace Transfer

/-- The record on lease, under its next version. -/
def leased (p : Transfer) (c : Claim) : Transfer :=
  { p with lease := some c.lease, version := p.version + 1 }

/-- The record as it is written back: without lease, under the version after the stored one. -/
def written (p : Transfer) (stored : Transfer) : Transfer :=
  { p with lease := none, version := stored.version + 1 }

/-- The record without lease. -/
def withoutLease (p : Transfer) : Transfer := { p with lease := none }

/-- The record under its next version. -/
def bumped (p : Transfer) : Transfer := { p with version := p.version + 1 }

/-- Whether both records are on lease to one holder. -/
def sameHolder (stored p : Transfer) : Bool :=
  match stored.lease, p.lease with
  | some a, some b => a.holder == b.holder
  | _, _ => false

end Transfer

/-- The records under their ids. -/
structure Transfers where
  records : Table Transfer
  deriving Repr, Inhabited

namespace Transfers

/-- No records. -/
def empty : Transfers := ⟨[]⟩

/-- The record of an id. -/
def find? (s : Transfers) (id : String) : Option Transfer := Table.get? id s.records

/-- Adds a record under a new id. -/
def create (s : Transfers) (p : Transfer) : Except StoreFault Transfers :=
  match s.find? p.id with
  | some _ => .error (.alreadyExists p.id)
  | none => .ok ⟨Table.put p.id p s.records⟩

/-- A record of a request's id. -/
def findByRequest? (s : Transfers) (requestId : String) : Option Transfer :=
  s.records.values.find? fun p => p.request.id == requestId

/-- Whether a claim may take a record. -/
def isCandidate (states : List Transfer.State) (c : Claim) (p : Transfer) : Bool :=
  states.contains p.state && p.isClaimable c.now

/-- The order in which records are claimed: the oldest state first. -/
def claimOrder (a b : Transfer) : Bool := a.stateTimestamp.before a.id b.stateTimestamp b.id

/-- The records that a claim takes, as they are before. -/
def chosen (s : Transfers) (states : List Transfer.State) (batch : Nat) (c : Claim) :
    List Transfer :=
  ((s.records.values.filter (isCandidate states c)).mergeSort claimOrder).take batch

/-- Takes up to a number of records on lease, with a clock and versions that never end. -/
def claim (s : Transfers) (states : List Transfer.State) (batch : Nat) (c : Claim) :
    List Transfer × Transfers :=
  let taken := s.chosen states batch c
  (taken.map (·.leased c),
   ⟨s.records.mapValues fun p => if taken.any (·.id == p.id) then p.leased c else p⟩)

/-- Writes a record back that was taken on lease. -/
def update (s : Transfers) (p : Transfer) : Except StoreFault Transfers :=
  match s.find? p.id with
  | none => .error (.notFound p.id)
  | some stored =>
      if stored.version = p.version ∧ stored.sameHolder p = true then
        .ok ⟨Table.put p.id (p.written stored) s.records⟩
      else .error (.conflict p.id)

/-- Gives a lease back; nothing happens to the lease of another. -/
def release (s : Transfers) (id holder : String) : Transfers :=
  match s.find? id with
  | some stored =>
      if stored.lease.any (·.holder == holder) then ⟨Table.put id stored.withoutLease s.records⟩
      else s
  | none => s

/-- Delivers a signal, and gives the record as it is then. -/
def signal (s : Transfers) (id : String) (x : Transfer.Signal) :
    Except StoreFault (Transfer × Transfers) :=
  match s.find? id with
  | none => .error (.notFound id)
  | some stored =>
      match stored.accept x with
      | .error e => .error (.rejected e)
      | .ok none => .ok (stored, s)
      | .ok (some next) => .ok (next.bumped, ⟨Table.put id next.bumped s.records⟩)

/-- How many records are in each state that has any. -/
def counts (s : Transfers) : List (Transfer.State × Nat) :=
  let count (st : Transfer.State) := (s.records.values.filter fun p => p.state == st).length
  (Transfer.State.all.map fun st => (st, count st)).filter
    fun e => e.2 != 0

/-- The records asked for, the oldest first. -/
def query (s : Transfers) (q : Query) : List Transfer :=
  q.cut ((s.records.values.filter q.fits).mergeSort fun a b =>
    a.createdAt.before a.id b.createdAt b.id)

theorem find?_create {s t : Transfers} {p : Transfer} (h : s.create p = .ok t) :
    t.find? p.id = some p := by
  unfold create at h
  split at h
  · cases h
  · cases h
    exact Table.get?_put_self _ _ _

theorem find?_update {s t : Transfers} {p : Transfer} (h : s.update p = .ok t) :
    ∃ stored, s.find? p.id = some stored ∧ stored.version = p.version ∧
      t.find? p.id = some (p.written stored) := by
  unfold update at h
  split at h
  · cases h
  · rename_i stored hs
    split at h
    · rename_i hv
      cases h
      exact ⟨stored, hs, hv.1, Table.get?_put_self _ _ _⟩
    · cases h

theorem find?_update_of_ne {s t : Transfers} {p : Transfer} {id : String} (hne : id ≠ p.id)
    (h : s.update p = .ok t) : t.find? id = s.find? id := by
  unfold update at h
  split at h
  · cases h
  · split at h
    · cases h
      exact Table.get?_put_of_ne hne _ _
    · cases h

end Transfers
end Connector
