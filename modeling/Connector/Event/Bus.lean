import Connector.Event.Basic
import Connector.Explained

/-!
# The event bus

Events go to everybody who listens.  The bus keeps the last of them, as many as the power of two
that its capacity is rounded up to; a receiver that fell behind is told once how many events it
lost and goes on with the oldest one kept.  An event that nobody listens to is not kept.

A position is the number of events published before.  Statements: `receive_lagged` and
`receive_kept` — what a receiver gets, and where it stands afterwards.
-/

namespace Connector

/-- The last events, and who listens. -/
structure Bus where
  /-- The number of events that are kept. -/
  room : Nat
  /-- The position of the oldest event kept. -/
  first : Nat
  kept : List Event
  /-- The number of receivers. -/
  subscribers : Nat
  isOpen : Bool
  deriving Repr, Inhabited

/-- Where a receiver stands. -/
structure Receiver where
  position : Nat
  deriving DecidableEq, Repr, Inhabited

/-- Why a receiver got no event. -/
inductive ReceiveFault where
  | closed
  | empty
  | lagged (lost : Nat)
  deriving DecidableEq, Repr

/-- The wording of a receiver's fault. -/
def ReceiveFault.message : ReceiveFault → String
  | closed => "Event bus is closed"
  | empty => "No events available"
  | lagged lost => s!"Receiver lagged by {lost} events (events were dropped)"

instance : Explained ReceiveFault where
  kind
    | .closed => "Closed"
    | .empty => "Empty"
    | .lagged _ => "Lagged"
  message := ReceiveFault.message

namespace Bus

/-- The least power of two that is not less than a number. -/
def powerOfTwo (n : Nat) : Nat := if n ≤ 1 then 1 else Nat.pow 2 (Nat.log2 (n - 1) + 1)

/-- A bus of a capacity. -/
def create (capacity : Nat) : Bus := ⟨powerOfTwo capacity, 0, [], 0, true⟩

/-- The greatest capacity that can be asked for. -/
def greatestCapacity : Nat := 9223372036854775807

/-- A bus of a capacity; none for nothing, and none beyond the greatest capacity. -/
def create? (capacity : Nat) : Option Bus :=
  if 0 < capacity ∧ capacity ≤ greatestCapacity then some (create capacity) else none

/-- The capacity of a bus that names none. -/
def defaultCapacity : Nat := 1000

/-- There is a bus where nothing is said about its capacity. -/
theorem create?_defaultCapacity : create? defaultCapacity = some (create defaultCapacity) := rfl

/-- The position after the newest event. -/
def next (b : Bus) : Nat := b.first + b.kept.length

/-- A receiver of what is published from now on. -/
def subscribe (b : Bus) : Receiver × Bus := (⟨b.next⟩, { b with subscribers := b.subscribers + 1 })

/-- One receiver less. -/
def unsubscribe (b : Bus) : Bus := { b with subscribers := b.subscribers - 1 }

/-- Closes the bus; what is kept can still be received. -/
def close (b : Bus) : Bus := { b with isOpen := false }

/-- Whether anybody listens. -/
def isHeard (b : Bus) : Bool := b.subscribers != 0

/-- Publishes an event to those who listen; the oldest one gives way if there is no room. -/
def publish (b : Bus) (e : Event) : Bus :=
  if b.isHeard then
    if b.kept.length < b.room then { b with kept := b.kept ++ [e] }
    else { b with first := b.first + 1, kept := b.kept.drop 1 ++ [e] }
  else b

/-- The next event for a receiver. -/
def receive (b : Bus) (r : Receiver) : Except ReceiveFault Event × Receiver :=
  if r.position < b.first then
    (.error (.lagged (b.first - r.position)), ⟨b.first⟩)
  else
    match b.kept[r.position - b.first]? with
    | some e => (.ok e, ⟨r.position + 1⟩)
    | none => (.error (if b.isOpen then .empty else .closed), r)

/-- The next event about a transfer for a receiver, others passed over; the number bounds how many
are looked at. -/
def receiveAbout (b : Bus) (id : String) :
    Nat → Receiver → Except ReceiveFault TransferEvent × Receiver
  | 0, r => (.error .empty, r)
  | fuel + 1, r =>
      match b.receive r with
      | (.error e, r) => (.error e, r)
      | (.ok e, r) =>
          match e.concerns id with
          | some t => (.ok t, r)
          | none => receiveAbout b id fuel r

/-- The next event about a transfer for a receiver. -/
def receiveTransfer (b : Bus) (id : String) (r : Receiver) :
    Except ReceiveFault TransferEvent × Receiver :=
  b.receiveAbout id (b.kept.length + 1) r

theorem receive_lagged {b : Bus} {r : Receiver} (h : r.position < b.first) :
    b.receive r = (.error (.lagged (b.first - r.position)), ⟨b.first⟩) := by
  simp [receive, h]

theorem receive_kept {b : Bus} {r : Receiver} {e : Event} (h : b.first ≤ r.position)
    (he : b.kept[r.position - b.first]? = some e) :
    b.receive r = (.ok e, ⟨r.position + 1⟩) := by
  simp [receive, Nat.not_lt.2 h, he]

end Bus
end Connector
