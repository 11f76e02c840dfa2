import Connector.Proofs.Store.Claiming

/-!
# Waiting in line

A record waits for those that stand before it in the line.  A claim that passes it over takes a full
batch of them; and once these have gone to the back the record waits for that many less.
Statements:

* `precedes_of_passed_over` — a claim that passes a record over takes a full batch from before it;
* `length_ahead_add` — how many stand before a record once some of them do so no more.
-/

namespace Connector

/-- What may be claimed is in a state in which there may be something to do. -/
theorem Transfer.mem_actionable_of_isClaimable {r : Transfer} {now : Instant}
    (claimable : r.isClaimable now = true) : r.state ∈ Transfer.State.actionable := by
  have hlive : r.state.isTerminal = false := (isClaimable_iff.1 claimable).1.going
  cases hstate : r.state <;> rw [hstate] at hlive <;> first | decide | cases hlive

namespace Transfers

open Transfer (Precedes)

variable {s t : Transfers} {r : Transfer} {id : String}

/-- A claim that passes a candidate over takes a full batch, all of it from before the
candidate. -/
theorem precedes_of_passed_over (hs : s.IsKeyed) {states : List Transfer.State} {batch : Nat}
    {c : Claim} (hr : r ∈ s.candidates states c) (hout : r ∉ s.chosen states batch c) :
    (s.chosen states batch c).length = batch ∧ ∀ p ∈ s.chosen states batch c, p.Precedes r := by
  refine ⟨?_, fun p hp => precedes_of_left_out hs hp hr hout⟩
  rw [length_chosen]
  refine Nat.min_eq_left (Nat.le_of_not_lt fun hshort => hout ?_)
  -- Where there are fewer candidates than asked for, all of them are taken.
  have hline : (s.line states c).length ≤ batch := by
    rw [line, List.length_mergeSort]
    exact Nat.le_of_lt hshort
  rw [chosen_eq, List.take_of_length_le hline]
  exact mem_line_iff.2 hr

/-- The records that stand before a record in the line. -/
def ahead (s : Transfers) (r : Transfer) : List Transfer :=
  s.records.values.filter fun p => p.Precedes r

/-- The record of an id stands before a record in the line. -/
def IsAhead (s : Transfers) (r : Transfer) (id : String) : Prop :=
  ∃ p, s.find? id = some p ∧ p.Precedes r

/-- A claim leaves everybody's place in the line. -/
theorem isAhead_claim_iff (hs : s.IsKeyed) {states : List Transfer.State} {batch : Nat}
    {c : Claim} : (s.claim states batch c).2.IsAhead r id ↔ s.IsAhead r id := by
  have hplace : ∀ p : Transfer,
      (if p ∈ s.chosen states batch c then p.leased c else p).Precedes r ↔ p.Precedes r := by
    intro p
    split
    · exact Transfer.precedes_congr rfl rfl rfl rfl
    · exact Iff.rfl
  simp only [IsAhead, find?_claim hs, Option.map_eq_some_iff]
  constructor
  · rintro ⟨_, ⟨p, hp, rfl⟩, hprecedes⟩
    exact ⟨p, hp, (hplace p).1 hprecedes⟩
  · rintro ⟨p, hp, hprecedes⟩
    exact ⟨_, ⟨p, hp, rfl⟩, (hplace p).2 hprecedes⟩

theorem mem_ids_ahead_iff (hs : s.IsKeyed) :
    id ∈ (s.ahead r).map Transfer.id ↔ s.IsAhead r id := by
  simp only [ahead, IsAhead, List.mem_map, List.mem_filter, decide_eq_true_eq, mem_values_iff hs]
  constructor
  · rintro ⟨p, ⟨hp, hprecedes⟩, rfl⟩
    exact ⟨p, hp, hprecedes⟩
  · rintro ⟨p, hp, hprecedes⟩
    have hid : p.id = id := id_of_find? hs hp
    exact ⟨p, ⟨hid ▸ hp, hprecedes⟩, hid⟩

theorem nodup_ids_ahead (hs : s.IsKeyed) (r : Transfer) :
    ((s.ahead r).map Transfer.id).Nodup :=
  List.pairwise_map.2 ((pairwise_id_values hs).filter _)

/-- **How many stand before a record** once just those of a batch, which stood there, do so no
more. -/
theorem length_ahead_add (hs : s.IsKeyed) (ht : t.IsKeyed) {batch : List Transfer}
    (distinct : batch.Pairwise fun p q => p.id ≠ q.id) (hbatch : ∀ q ∈ batch, s.IsAhead r q.id)
    (hleft : ∀ id, t.IsAhead r id ↔ s.IsAhead r id ∧ ∀ q ∈ batch, q.id ≠ id) :
    (t.ahead r).length + batch.length = (s.ahead r).length := by
  have hids : ∀ id, id ∈ (t.ahead r).map Transfer.id ++ batch.map Transfer.id ↔
      id ∈ (s.ahead r).map Transfer.id := by
    intro id
    rw [List.mem_append, mem_ids_ahead_iff ht, mem_ids_ahead_iff hs, hleft, List.mem_map]
    constructor
    · rintro (⟨hahead, -⟩ | ⟨q, hq, rfl⟩)
      · exact hahead
      · exact hbatch q hq
    · intro hahead
      by_cases hmem : ∃ q ∈ batch, q.id = id
      · exact Or.inr hmem
      · exact Or.inl ⟨hahead, fun q hq hid => hmem ⟨q, hq, hid⟩⟩
  have hnodup : ((t.ahead r).map Transfer.id ++ batch.map Transfer.id).Nodup := by
    refine List.nodup_append.2 ⟨nodup_ids_ahead ht r, List.pairwise_map.2 distinct, ?_⟩
    rintro a ha b hb rfl
    obtain ⟨q, hq, hid⟩ := List.mem_map.1 hb
    exact ((hleft a).1 ((mem_ids_ahead_iff ht).1 ha)).2 q hq hid
  have hperm := (List.perm_ext_iff_of_nodup hnodup (nodup_ids_ahead hs r)).2 hids
  have hlength := hperm.length_eq
  rwa [List.length_append, List.length_map, List.length_map, List.length_map] at hlength

end Transfers
end Connector
