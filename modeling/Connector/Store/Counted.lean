import Connector.Store.Transfers

/-!
# The store in words and on the clock

The end of a lease is an instant of the clock, and a version is a word of 64 bits.  Where a claim
would leave the clock, or any access would count beyond the word, the program breaks off in the
midst of it: a claim puts the records on lease one after the other, and those it got to before
stay on lease.

Statements:

* `lendAll_of_overdue`, `lendAll_of_last`, `lendAll_of_next` — what a claim does when it gets to a
  record;
* `claimOnClock_of_overdue`, `claimOnClock_of_fits` — when a claim breaks off, if versions never
  end.
-/

namespace Connector

/-- Why a program breaks off. -/
inductive Overrun where
  /-- An instant beyond the end of the clock. -/
  | clock
  /-- A count beyond its word. -/
  | word
  deriving DecidableEq, Repr

namespace Transfer

/-- The last version that a word holds. -/
def lastVersion : Nat := 18446744073709551615

/-- Whether there is a version after that of the record. -/
def hasNextVersion (p : Transfer) : Bool := decide (p.version < lastVersion)

/-- The record on a lease, under the same version yet. -/
def withLease (p : Transfer) (lease : Lease) : Transfer := { p with lease := some lease }

/-- The result of a step, unless it counts beyond a word. -/
def counted : Except Refusal Transfer → Except Overrun (Except Refusal Transfer)
  | .ok p => if p.fitsWords then .ok (.ok p) else .error .word
  | .error e => .ok (.error e)

end Transfer

namespace Transfers

/-- Whether the counters of all records fit the words they are kept in. -/
def fitsWords (s : Transfers) : Bool := s.records.values.all Transfer.fitsWords

/-- Takes the records of some ids on lease, one after the other. -/
def lendAll (c : Claim) : List String → Transfers → Except Overrun (List Transfer) × Transfers
  | [], s => (.ok [], s)
  | id :: rest, s =>
      match s.find? id with
      | none => lendAll c rest s
      | some p =>
          match c.lease? with
          | none => (.error .clock, s)
          | some lease =>
              if p.hasNextVersion then
                let q := (p.withLease lease).bumped
                let r := lendAll c rest ⟨Table.put id q s.records⟩
                (r.1.map (q :: ·), r.2)
              else (.error .word, ⟨Table.put id (p.withLease lease) s.records⟩)

/-- Takes up to a number of records on lease. -/
def lend (s : Transfers) (states : List Transfer.State) (batch : Nat) (c : Claim) :
    Except Overrun (List Transfer) × Transfers :=
  lendAll c ((s.chosen states batch c).map (·.id)) s

/-- Takes up to a number of records on lease, with versions that never end. -/
def claimOnClock (s : Transfers) (states : List Transfer.State) (batch : Nat) (c : Claim) :
    Except Overrun (List Transfer) × Transfers :=
  if (s.chosen states batch c).isEmpty then (.ok [], s)
  else
    match c.lease? with
    | none => (.error .clock, s)
    | some _ => (.ok (s.claim states batch c).1, (s.claim states batch c).2)

/-- Writes a record back that was taken on lease. -/
def writeBack (s : Transfers) (p : Transfer) : Except Overrun (Except StoreFault Transfers) :=
  match s.update p with
  | .error e => .ok (.error e)
  | .ok t => if (t.find? p.id).all Transfer.fitsWords then .ok (.ok t) else .error .word

/-- Delivers a signal, and gives the record as it is then. -/
def notify (s : Transfers) (id : String) (x : Transfer.Signal) :
    Except Overrun (Except StoreFault (Transfer × Transfers)) :=
  match s.signal id x with
  | .error e => .ok (.error e)
  | .ok r => if r.1.fitsWords then .ok (.ok r) else .error .word

section
variable {s : Transfers} {c : Claim} {lease : Lease} {p : Transfer} {id : String}
  {rest : List String}

@[simp] theorem lendAll_nil (c : Claim) (s : Transfers) : lendAll c [] s = (.ok [], s) := rfl

theorem lendAll_of_overdue (h : s.find? id = some p) (overdue : c.lease? = none) :
    lendAll c (id :: rest) s = (.error .clock, s) := by
  simp only [lendAll, h, overdue]

theorem lendAll_of_last (h : s.find? id = some p) (hlease : c.lease? = some lease)
    (last : p.hasNextVersion = false) :
    lendAll c (id :: rest) s =
      (.error .word, ⟨Table.put id (p.withLease lease) s.records⟩) := by
  simp [lendAll, h, hlease, last]

theorem lendAll_of_next (h : s.find? id = some p) (hlease : c.lease? = some lease)
    (next : p.hasNextVersion = true) :
    lendAll c (id :: rest) s =
      (let q := (p.withLease lease).bumped
       let r := lendAll c rest ⟨Table.put id q s.records⟩
       (r.1.map (q :: ·), r.2)) := by
  simp only [lendAll, h, hlease, next, if_true]

end

section
variable {s : Transfers} {states : List Transfer.State} {batch : Nat} {c : Claim}

/-- What is claimed where nothing is chosen leaves the store as it is. -/
theorem claim_of_chosen_eq_nil (h : s.chosen states batch c = []) :
    (s.claim states batch c).2 = s := by
  have hsame : s.records.mapValues (fun p : Transfer => p) = s.records := List.map_id' _
  simp only [claim, h, List.any_nil, Bool.false_eq_true, if_false, hsame]

theorem claimOnClock_of_overdue (hsome : (s.claim states batch c).1 ≠ [])
    (late : c.expiresAt.inRange = false) : s.claimOnClock states batch c = (.error .clock, s) := by
  have hchosen : (s.chosen states batch c).isEmpty = false := by
    cases h : s.chosen states batch c with
    | nil => exact absurd (by rw [claim, h]; rfl) hsome
    | cons => rfl
  simp [claimOnClock, hchosen, Claim.lease?_eq, late]

theorem claimOnClock_of_fits
    (h : (s.claim states batch c).1 = [] ∨ c.expiresAt.inRange = true) :
    s.claimOnClock states batch c =
      (.ok (s.claim states batch c).1, (s.claim states batch c).2) := by
  by_cases hempty : s.chosen states batch c = []
  · have htaken : (s.claim states batch c).1 = [] := by rw [claim, hempty]; rfl
    rw [htaken, claim_of_chosen_eq_nil hempty]
    simp [claimOnClock, hempty]
  · have hrange := h.resolve_left fun htaken => hempty (List.map_eq_nil_iff.1 htaken)
    simp [claimOnClock, hempty, Claim.lease?_eq, hrange]

end

end Transfers
end Connector
