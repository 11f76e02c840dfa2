import Connector.Transfer.Basic

/-!
# What may be claimed

Three things keep a record from being claimed: it is at its end or suspended until somebody resumes
it, it is on lease, or it is to be left alone for a while and not urgent.  Whoever needs to know why
a record may be claimed, or may not, reads it off these.  Statements:

* `isClaimable_iff` — what may be claimed;
* `isClaimable_mono` — what may be claimed may be claimed later.
-/

namespace Connector.Transfer

variable {r : Transfer} {t u : Instant}

/-- Nobody has the record on lease at an instant. -/
def IsFreeAt (r : Transfer) (t : Instant) : Prop :=
  ∀ lease, r.lease = some lease → lease.expiresAt ≤ t

/-- The record is not to be left alone any longer at an instant. -/
def IsDueAt (r : Transfer) (t : Instant) : Prop := ∀ u, r.retryAt = some u → u ≤ t

/-- The record is neither at its end nor suspended until somebody resumes it. -/
structure IsLive (r : Transfer) : Prop where
  going : r.state.isTerminal = false
  commanded : r.state = .suspended → r.pendingCommand ≠ none

/-- **What may be claimed:** live records, on lease to nobody, which are urgent or due. -/
theorem isClaimable_iff :
    r.isClaimable t = true ↔ r.IsLive ∧ r.IsFreeAt t ∧ (r.isUrgent = true ∨ r.IsDueAt t) := by
  have hfree : (r.lease.any fun lease => lease.isActive t) = false ↔ r.IsFreeAt t := by
    simp only [Option.any_eq_false, Lease.isActive, decide_eq_false_iff_not, IsFreeAt]
    exact forall₂_congr fun lease _ => Int.not_lt
  have hdue : (r.retryAt.all fun u => decide (u ≤ t)) = true ↔ r.IsDueAt t := by
    simp only [Option.all_eq_true, decide_eq_true_eq, IsDueAt]
  have hcommanded : (r.state == .suspended && r.pendingCommand.isNone) = false ↔
      (r.state = .suspended → r.pendingCommand ≠ none) := by
    cases hpending : r.pendingCommand <;> simp
  simp only [isClaimable, Bool.and_eq_true, Bool.not_eq_true', Bool.or_eq_true, hfree, hdue,
    hcommanded, and_assoc]
  constructor
  · rintro ⟨going, free, commanded, due⟩
    exact ⟨⟨going, commanded⟩, free, due⟩
  · rintro ⟨⟨going, commanded⟩, free, due⟩
    exact ⟨going, free, commanded, due⟩

/-- What may be claimed may be claimed later. -/
theorem isClaimable_mono (h : r.isClaimable t = true) (later : t ≤ u) :
    r.isClaimable u = true := by
  obtain ⟨live, free, due⟩ := isClaimable_iff.1 h
  refine isClaimable_iff.2 ⟨live, fun lease hl => Int.le_trans (free lease hl) later, ?_⟩
  exact due.imp_right fun hdue at' hat => Int.le_trans (hdue at' hat) later

end Connector.Transfer
