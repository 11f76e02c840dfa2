import Connector.Proofs.Store.Operation
import Connector.Proofs.Transfer.Claimability

/-!
# What a claim takes

The candidates of a claim are put in line, those first that have been in their state for longest,
and ids decide between records of one instant.  A claim takes them from the front of the line.
Since no two records have one id, the line is strict: of two candidates exactly one stands before
the other, and so what is taken does not depend on the order in which the records are kept.
Statements:

* `Transfer.Precedes.trans`, `Transfer.precedes_or_precedes` — the line is strict, and records with
  two ids never stand side by side;
* `line_eq` — there is one line only;
* `pairwise_precedes_chosen`, `length_chosen` — what is chosen stands in line, and there is as much
  of it as can be;
* `precedes_of_left_out` — nothing that is left out stands before what is chosen;
* `find?_claim_of_mem`, `find?_claim_of_notMem` — what is stored after a claim;
* `not_claimed_again` — while its lease lasts, a record is not handed out again.
-/

namespace Connector

namespace Transfer

variable {p q r : Transfer}

/-- A record stands before another in the line of those that wait. -/
def Precedes (p q : Transfer) : Prop :=
  p.stateTimestamp < q.stateTimestamp ∨ p.stateTimestamp = q.stateTimestamp ∧ p.id < q.id

instance (p q : Transfer) : Decidable (p.Precedes q) := inferInstanceAs (Decidable (_ ∨ _))

theorem Precedes.le (h : p.Precedes q) : p.stateTimestamp ≤ q.stateTimestamp := by
  rcases h with h | ⟨h, -⟩
  · exact Int.le_of_lt h
  · rw [h]
    exact Int.le_refl _

theorem Precedes.id_ne (h : p.Precedes q) (hsame : p.stateTimestamp = q.stateTimestamp) :
    p.id ≠ q.id := by
  rcases h with h | ⟨-, h⟩
  · rw [hsame] at h
    exact absurd h (Int.lt_irrefl _)
  · exact String.ne_of_lt h

theorem not_precedes_self (p : Transfer) : ¬ p.Precedes p := fun h => h.id_ne rfl rfl

theorem Precedes.trans (hpq : p.Precedes q) (hqr : q.Precedes r) : p.Precedes r := by
  rcases hpq with hpq | ⟨hpq, hid⟩
  · exact Or.inl (Int.lt_of_lt_of_le hpq hqr.le)
  · rcases hqr with hqr | ⟨hqr, hid'⟩
    · exact Or.inl (by rwa [hpq])
    · exact Or.inr ⟨hpq.trans hqr, String.lt_trans hid hid'⟩

theorem Precedes.asymm (h : p.Precedes q) : ¬ q.Precedes p :=
  fun h' => not_precedes_self p (h.trans h')

theorem precedes_or_precedes (h : p.id ≠ q.id) : p.Precedes q ∨ q.Precedes p := by
  rcases Int.lt_trichotomy p.stateTimestamp.nanos q.stateTimestamp.nanos with hlt | heq | hlt
  · exact Or.inl (Or.inl hlt)
  · have hsame : p.stateTimestamp = q.stateTimestamp := congrArg Instant.mk heq
    rcases String.le_total p.id q.id with hle | hle
    · exact Or.inl (Or.inr ⟨hsame, String.not_le.1 fun hge => h (String.le_antisymm hle hge)⟩)
    · exact Or.inr (Or.inr ⟨hsame.symm,
        String.not_le.1 fun hge => h (String.le_antisymm hge hle)⟩)
  · exact Or.inr (Or.inl hlt)

/-- The line depends on instants and ids only. -/
theorem precedes_congr {p' q' : Transfer} (hp : p'.stateTimestamp = p.stateTimestamp)
    (hpid : p'.id = p.id) (hq : q'.stateTimestamp = q.stateTimestamp) (hqid : q'.id = q.id) :
    p'.Precedes q' ↔ p.Precedes q := by
  unfold Precedes
  rw [hp, hpid, hq, hqid]

theorem precedes_leased_iff (c c' : Claim) :
    (p.leased c).Precedes (q.leased c') ↔ p.Precedes q :=
  precedes_congr rfl rfl rfl rfl

end Transfer

namespace Transfers

open Transfer (Precedes)

variable {s : Transfers} {states : List Transfer.State} {batch : Nat} {c : Claim}
  {p q : Transfer}

/-- Claiming goes by the line, but puts records of one instant and one id side by side. -/
theorem claimOrder_iff :
    claimOrder p q = true ↔
      p.Precedes q ∨ p.stateTimestamp = q.stateTimestamp ∧ p.id = q.id := by
  have hsame : p.stateTimestamp.nanos = q.stateTimestamp.nanos ↔
      p.stateTimestamp = q.stateTimestamp := ⟨congrArg Instant.mk, congrArg Instant.nanos⟩
  simp only [claimOrder, Instant.before, Bool.or_eq_true, Bool.and_eq_true, decide_eq_true_eq,
    hsame, Precedes]
  constructor
  · rintro (h | ⟨h, hid⟩)
    · exact Or.inl (Or.inl h)
    · by_cases heq : p.id = q.id
      · exact Or.inr ⟨h, heq⟩
      · exact Or.inl (Or.inr ⟨h, String.not_le.1 fun hge => heq (String.le_antisymm hid hge)⟩)
  · rintro ((h | ⟨h, hid⟩) | ⟨h, hid⟩)
    · exact Or.inl h
    · exact Or.inr ⟨h, String.not_lt.1 fun hge => String.lt_irrefl _ (String.lt_trans hid hge)⟩
    · exact Or.inr ⟨h, hid ▸ String.le_refl _⟩

theorem claimOrder_trans (a b d : Transfer) (hab : claimOrder a b = true)
    (hbd : claimOrder b d = true) : claimOrder a d = true := by
  rw [claimOrder_iff] at hab hbd ⊢
  rcases hab with hab | ⟨htime, hid⟩
  · rcases hbd with hbd | ⟨htime, hid⟩
    · exact Or.inl (hab.trans hbd)
    · exact Or.inl ((Transfer.precedes_congr rfl rfl htime hid).1 hab)
  · rcases hbd with hbd | ⟨htime', hid'⟩
    · exact Or.inl ((Transfer.precedes_congr htime hid rfl rfl).2 hbd)
    · exact Or.inr ⟨htime.trans htime', hid.trans hid'⟩

theorem claimOrder_total (a b : Transfer) : (claimOrder a b || claimOrder b a) = true := by
  rw [Bool.or_eq_true, claimOrder_iff, claimOrder_iff]
  by_cases hid : a.id = b.id
  · rcases Int.lt_trichotomy a.stateTimestamp.nanos b.stateTimestamp.nanos with hlt | heq | hlt
    · exact Or.inl (Or.inl (Or.inl hlt))
    · exact Or.inl (Or.inr ⟨congrArg Instant.mk heq, hid⟩)
    · exact Or.inr (Or.inl (Or.inl hlt))
  · rcases Transfer.precedes_or_precedes hid with h | h
    · exact Or.inl (Or.inl h)
    · exact Or.inr (Or.inl h)

/-- The records that a claim may take. -/
def candidates (s : Transfers) (states : List Transfer.State) (c : Claim) : List Transfer :=
  s.records.values.filter (isCandidate states c)

/-- The candidates in line. -/
def line (s : Transfers) (states : List Transfer.State) (c : Claim) : List Transfer :=
  (s.candidates states c).mergeSort claimOrder

theorem chosen_eq (s : Transfers) (states : List Transfer.State) (batch : Nat) (c : Claim) :
    s.chosen states batch c = (s.line states c).take batch := rfl

theorem mem_candidates_iff (hs : s.IsKeyed) :
    p ∈ s.candidates states c ↔
      s.find? p.id = some p ∧ p.state ∈ states ∧ p.isClaimable c.now = true := by
  rw [candidates, List.mem_filter, mem_values_iff hs, isCandidate, Bool.and_eq_true,
    List.contains_iff_mem]

theorem mem_line_iff : p ∈ s.line states c ↔ p ∈ s.candidates states c := List.mem_mergeSort

theorem pairwise_precedes_line (hs : s.IsKeyed) (states : List Transfer.State) (c : Claim) :
    (s.line states c).Pairwise Precedes := by
  have hsorted := List.pairwise_mergeSort claimOrder_trans claimOrder_total (s.candidates states c)
  -- A claim of everything chooses the whole line, and chooses no id twice.
  have hids : (s.line states c).Pairwise fun p q => p.id ≠ q.id := by
    have hall := pairwise_id_chosen hs states (s.line states c).length c
    rwa [chosen_eq, List.take_length] at hall
  refine (hsorted.and hids).imp ?_
  rintro a b ⟨horder, hid⟩
  exact (claimOrder_iff.1 horder).resolve_right fun h => hid h.2

/-- There is one line only, in whatever order the candidates are kept. -/
theorem line_eq (hs : s.IsKeyed) {ps : List Transfer} (hperm : ps.Perm (s.candidates states c))
    (hline : ps.Pairwise Precedes) : s.line states c = ps := by
  refine List.Perm.eq_of_pairwise (fun p q _ _ hpq hqp => absurd hqp hpq.asymm)
    (pairwise_precedes_line hs states c) hline ?_
  exact (List.mergeSort_perm _ _).trans hperm.symm

theorem pairwise_precedes_chosen (hs : s.IsKeyed) (states : List Transfer.State) (batch : Nat)
    (c : Claim) : (s.chosen states batch c).Pairwise Precedes :=
  (pairwise_precedes_line hs states c).sublist (List.take_sublist _ _)

theorem length_chosen (s : Transfers) (states : List Transfer.State) (batch : Nat) (c : Claim) :
    (s.chosen states batch c).length = min batch (s.candidates states c).length := by
  rw [chosen_eq, List.length_take, line, List.length_mergeSort]

/-- What is left out stands behind what is chosen. -/
theorem precedes_of_left_out (hs : s.IsKeyed) (hp : p ∈ s.chosen states batch c)
    (hq : q ∈ s.candidates states c) (hout : q ∉ s.chosen states batch c) : p.Precedes q := by
  have hline := pairwise_precedes_line hs states c
  rw [← List.take_append_drop batch (s.line states c), List.pairwise_append] at hline
  have hmem : q ∈ s.line states c := mem_line_iff.2 hq
  rw [← List.take_append_drop batch (s.line states c), List.mem_append] at hmem
  exact hline.2.2 p hp q (hmem.resolve_left hout)

/-- Of two stored records of one id there is just one. -/
theorem eq_of_mem_chosen (hs : s.IsKeyed) (hp : p ∈ s.chosen states batch c)
    (hq : s.find? p.id = some q) : p = q := by
  have hstored := find?_of_mem_chosen hs hp
  exact Option.some.inj (hstored.symm.trans hq)

/-- What a claim hands out is stored from then on. -/
theorem find?_claim_of_mem (hs : s.IsKeyed) (hp : p ∈ s.chosen states batch c) :
    (s.claim states batch c).2.find? p.id = some (p.leased c) := by
  rw [find?_claim hs, find?_of_mem_chosen hs hp, Option.map_some, if_pos hp]

/-- What a claim does not hand out is stored as before. -/
theorem find?_claim_of_notMem (hs : s.IsKeyed) {id : String}
    (hid : ∀ q ∈ (s.claim states batch c).1, q.id ≠ id) :
    (s.claim states batch c).2.find? id = s.find? id := by
  rw [find?_claim hs]
  cases hp : s.find? id with
  | none => rfl
  | some p =>
      have hpid : p.id = id := id_of_find? hs hp
      have hout : p ∉ s.chosen states batch c := fun hmem =>
        hid (p.leased c) (mem_claim_iff.2 ⟨p, hmem, rfl⟩) hpid
      rw [Option.map_some, if_neg hout]

/-- While the leases of a claim last, no other claim hands those records out. -/
theorem not_claimed_again (hs : s.IsKeyed) (hq : q ∈ (s.claim states batch c).1)
    (states' : List Transfer.State) (batch' : Nat) {c' : Claim} (hlasts : c'.now < c.expiresAt) :
    ∀ q' ∈ ((s.claim states batch c).2.claim states' batch' c').1, q'.id ≠ q.id := by
  intro q' hq' hid
  obtain ⟨p, hp, rfl⟩ := mem_claim_iff.1 hq
  obtain ⟨p', hp', rfl⟩ := mem_claim_iff.1 hq'
  have hstored : (s.claim states batch c).2.find? p'.id = some (p.leased c) := by
    rw [show p'.id = p.id from hid]
    exact find?_claim_of_mem hs hp
  obtain rfl := eq_of_mem_chosen (isKeyed_claim hs states batch c) hp' hstored
  have hfree := (Transfer.isClaimable_iff.1 (mem_chosen hp').2.2).2.1
  exact absurd (hfree c.lease rfl) (Int.not_le.2 hlasts)

end Transfers
end Connector
