import Connector.Proofs.Transfer.Signal
import Connector.Store.Transfers

/-!
# Accesses to the store of transfers

Five accesses change the store: a record is created, records are claimed, a record is written
back, a lease is given back, a signal is delivered.  A refused access leaves the store alone, so
a history of the store is a list of accesses, made by anybody in any order.

An access does at most one thing to the record of an id, and `Effect` lists what that can be.
Statements:

* `isKeyed_after` — through every history a record stays under its own id, in the order of ids;
* `find?_claim` — a claim puts exactly the chosen records on lease;
* `find?_apply` — the record of an id after an access is the one before, or the effect on it;
* `find?_apply_of_eq_none` — a record comes into being by creation only.
-/

namespace Connector

/-- An access that may change the store of transfers. -/
inductive Operation where
  | create (p : Transfer)
  | claim (states : List Transfer.State) (batch : Nat) (c : Claim)
  | update (p : Transfer)
  | release (id holder : String)
  | signal (id : String) (x : Transfer.Signal)

namespace Operation

/-- The id that an access names; a claim names none. -/
def subject? : Operation → Option String
  | create p => some p.id
  | claim _ _ _ => none
  | update p => some p.id
  | release id _ => some id
  | signal id _ => some id

theorem eq_claim_of_subject?_eq_none {op : Operation} (h : op.subject? = none) :
    ∃ states batch c, op = .claim states batch c := by
  cases op with
  | claim states batch c => exact ⟨states, batch, c, rfl⟩
  | create | update | release | signal => cases h

end Operation

namespace Transfers

/-- The store after an access; a refused one leaves it as it is. -/
def apply (s : Transfers) : Operation → Transfers
  | .create p =>
      match s.create p with
      | .ok t => t
      | .error _ => s
  | .claim states batch c => (s.claim states batch c).2
  | .update p =>
      match s.update p with
      | .ok t => t
      | .error _ => s
  | .release id holder => s.release id holder
  | .signal id x =>
      match s.signal id x with
      | .ok (_, t) => t
      | .error _ => s

theorem apply_create_of_ok {s t : Transfers} {p : Transfer} (h : s.create p = .ok t) :
    s.apply (.create p) = t := by
  simp only [apply, h]

theorem apply_update_of_ok {s t : Transfers} {p : Transfer} (h : s.update p = .ok t) :
    s.apply (.update p) = t := by
  simp only [apply, h]

theorem apply_signal_of_ok {s t : Transfers} {id : String} {x : Transfer.Signal} {p : Transfer}
    (h : s.signal id x = .ok (p, t)) : s.apply (.signal id x) = t := by
  simp only [apply, h]

/-- The store after a history. -/
def after (s : Transfers) (ops : List Operation) : Transfers := ops.foldl apply s

/-- Every record is under its own id, and the ids increase. -/
structure IsKeyed (s : Transfers) : Prop where
  isSorted : s.records.IsSorted
  id_eq : ∀ e ∈ s.records, e.2.id = e.1

theorem isKeyed_empty : empty.IsKeyed :=
  ⟨Table.isSorted_nil, by simp [empty]⟩

theorem id_of_find? {s : Transfers} (hs : s.IsKeyed) {id : String} {p : Transfer}
    (h : s.find? id = some p) : p.id = id :=
  hs.id_eq _ (Table.mem_of_get?_eq_some h)

/-- The records of the store are those found under their ids. -/
theorem mem_values_iff {s : Transfers} (hs : s.IsKeyed) {p : Transfer} :
    p ∈ s.records.values ↔ s.find? p.id = some p := by
  constructor
  · intro h
    obtain ⟨e, he, rfl⟩ := List.mem_map.1 h
    rw [hs.id_eq e he]
    exact (Table.get?_eq_some_iff hs.isSorted).2 he
  · intro h
    exact List.mem_map.2 ⟨_, Table.mem_of_get?_eq_some h, rfl⟩

theorem find?_put (s : Transfers) (id other : String) (p : Transfer) :
    find? ⟨Table.put id p s.records⟩ other = if other = id then some p else s.find? other :=
  Table.get?_put id other p s.records

theorem isKeyed_put {s : Transfers} (hs : s.IsKeyed) {id : String} {p : Transfer}
    (hp : p.id = id) : IsKeyed ⟨Table.put id p s.records⟩ := by
  refine ⟨Table.isSorted_put hs.isSorted, ?_⟩
  intro e he
  rcases Table.mem_put he with rfl | he
  · exact hp
  · exact hs.id_eq e he

/-! ## What each access answers -/

theorem create_eq_ok_iff {s t : Transfers} {p : Transfer} :
    s.create p = .ok t ↔ s.find? p.id = none ∧ t = ⟨Table.put p.id p s.records⟩ := by
  unfold create
  cases s.find? p.id with
  | none => simp [eq_comm]
  | some q => simp

/-- Writing back succeeds for the version that is stored, from the holder of its lease. -/
theorem update_eq_ok_iff {s t : Transfers} {p : Transfer} :
    s.update p = .ok t ↔ ∃ r, s.find? p.id = some r ∧ r.version = p.version ∧
      r.sameHolder p = true ∧ t = ⟨Table.put p.id (p.written r) s.records⟩ := by
  unfold update
  cases s.find? p.id with
  | none => simp
  | some r =>
      by_cases h : r.version = p.version ∧ r.sameHolder p = true
      · simp only [h, and_self, if_true, Except.ok.injEq]
        constructor
        · rintro rfl
          exact ⟨r, rfl, h.1, h.2, rfl⟩
        · rintro ⟨q, hq, -, -, rfl⟩
          cases hq
          rfl
      · simp only [h, if_false, reduceCtorEq, false_iff]
        rintro ⟨q, hq, hv, hl, -⟩
        cases hq
        exact h ⟨hv, hl⟩

theorem update_eq_conflict {s : Transfers} {p r : Transfer} (hr : s.find? p.id = some r)
    (h : ¬ (r.version = p.version ∧ r.sameHolder p = true)) :
    s.update p = .error (.conflict p.id) := by
  simp only [update, hr, h, if_false]

theorem signal_eq_ok_iff {s t : Transfers} {id : String} {x : Transfer.Signal} {p : Transfer} :
    s.signal id x = .ok (p, t) ↔ ∃ r, s.find? id = some r ∧
      ((r.accept x = .ok none ∧ p = r ∧ t = s) ∨
        ∃ q, r.accept x = .ok (some q) ∧ p = q.bumped ∧
          t = ⟨Table.put id q.bumped s.records⟩) := by
  unfold signal
  cases s.find? id with
  | none => simp
  | some r =>
      cases hx : r.accept x with
      | error e => simp [hx]
      | ok next => cases next <;> simp [hx, eq_comm]

theorem mem_chosen {s : Transfers} {states : List Transfer.State} {batch : Nat} {c : Claim}
    {p : Transfer} (h : p ∈ s.chosen states batch c) :
    p ∈ s.records.values ∧ p.state ∈ states ∧ p.isClaimable c.now = true := by
  have hsorted := List.mem_of_mem_take h
  have hfilter := List.mem_filter.1 (List.mem_mergeSort.1 hsorted)
  have hcandidate : states.contains p.state = true ∧ p.isClaimable c.now = true := by
    simpa [isCandidate] using hfilter.2
  exact ⟨hfilter.1, by simpa using hcandidate.1, hcandidate.2⟩

theorem find?_of_mem_chosen {s : Transfers} (hs : s.IsKeyed) {states : List Transfer.State}
    {batch : Nat} {c : Claim} {p : Transfer} (h : p ∈ s.chosen states batch c) :
    s.find? p.id = some p :=
  (mem_values_iff hs).1 (mem_chosen h).1

/-- A claim hands out the chosen records, on lease. -/
theorem mem_claim_iff {s : Transfers} {states : List Transfer.State} {batch : Nat} {c : Claim}
    {q : Transfer} :
    q ∈ (s.claim states batch c).1 ↔ ∃ p ∈ s.chosen states batch c, p.leased c = q := by
  simp [claim]

/-- Every record is stored under one id. -/
theorem pairwise_id_values {s : Transfers} (hs : s.IsKeyed) :
    s.records.values.Pairwise fun p q => p.id ≠ q.id := by
  refine List.pairwise_map.2 (hs.isSorted.imp_of_mem ?_)
  intro d e hd he hlt
  rw [hs.id_eq d hd, hs.id_eq e he]
  intro heq
  rw [heq] at hlt
  exact String.lt_irrefl _ hlt

/-- A claim chooses every record once. -/
theorem pairwise_id_chosen {s : Transfers} (hs : s.IsKeyed) (states : List Transfer.State)
    (batch : Nat) (c : Claim) :
    (s.chosen states batch c).Pairwise fun p q => p.id ≠ q.id := by
  have hsorted := (List.Perm.pairwise_iff (fun h => Ne.symm h)
    (List.mergeSort_perm (s.records.values.filter (isCandidate states c)) claimOrder)).2
    ((pairwise_id_values hs).filter _)
  exact hsorted.sublist (List.take_sublist _ _)

/-- A claim hands out every record once. -/
theorem pairwise_id_claim {s : Transfers} (hs : s.IsKeyed) (states : List Transfer.State)
    (batch : Nat) (c : Claim) :
    (s.claim states batch c).1.Pairwise fun p q => p.id ≠ q.id :=
  List.pairwise_map.2 (pairwise_id_chosen hs states batch c)

/-- A claim puts exactly the chosen records on lease. -/
theorem find?_claim {s : Transfers} (hs : s.IsKeyed) (states : List Transfer.State) (batch : Nat)
    (c : Claim) (id : String) :
    (s.claim states batch c).2.find? id =
      (s.find? id).map fun p => if p ∈ s.chosen states batch c then p.leased c else p := by
  have hany : ∀ p, s.find? id = some p →
      ((s.chosen states batch c).any (·.id == p.id) = true ↔ p ∈ s.chosen states batch c) := by
    intro p hp
    rw [List.any_eq_true]
    constructor
    · rintro ⟨q, hq, heq⟩
      -- Both are stored, so that having one id makes them one record.
      have hstored := find?_of_mem_chosen hs hq
      rw [beq_iff_eq.1 heq, id_of_find? hs hp, hp] at hstored
      rwa [Option.some.inj hstored]
    · intro h
      exact ⟨p, h, beq_self_eq_true _⟩
  have hget := Table.get?_mapValues
    (fun p : Transfer => if (s.chosen states batch c).any (·.id == p.id) then p.leased c else p)
    id s.records
  refine hget.trans ?_
  cases hp : s.find? id with
  | none =>
      have hnone : Table.get? id s.records = none := hp
      simp [hnone]
  | some p =>
      have hsome : Table.get? id s.records = some p := hp
      rw [hsome]
      simp only [Option.map_some, hany p hp]

theorem isKeyed_claim {s : Transfers} (hs : s.IsKeyed) (states : List Transfer.State)
    (batch : Nat) (c : Claim) : (s.claim states batch c).2.IsKeyed := by
  have hsorted : (s.claim states batch c).2.records.IsSorted := by
    simp only [claim]
    exact Table.isSorted_mapValues hs.isSorted
  refine ⟨hsorted, ?_⟩
  intro e he
  obtain ⟨d, hd, rfl⟩ := List.mem_map.1 he
  have hid := hs.id_eq d hd
  dsimp only
  split
  · exact hid
  · exact hid

/-! ## What an access does to one record -/

/-- What an access does to a record of the store. -/
inductive Effect (s : Transfers) (r : Transfer) : Operation → Transfer → Prop where
  | leased {states : List Transfer.State} {batch : Nat} {c : Claim}
      (chosen : r ∈ s.chosen states batch c) : Effect s r (.claim states batch c) (r.leased c)
  | written {p : Transfer} (id_eq : p.id = r.id) (version_eq : r.version = p.version)
      (holder_eq : r.sameHolder p = true) : Effect s r (.update p) (p.written r)
  | released {holder : String} (held : r.lease.any (·.holder == holder) = true) :
      Effect s r (.release r.id holder) r.withoutLease
  | signalled {x : Transfer.Signal} {q : Transfer} (accepted : r.accept x = .ok (some q)) :
      Effect s r (.signal r.id x) q.bumped

theorem Effect.id_eq {s : Transfers} {r r' : Transfer} {op : Operation} (h : Effect s r op r') :
    r'.id = r.id := by
  cases h with
  | leased | released => rfl
  | written id_eq => exact id_eq
  | signalled accepted => exact (Transfer.id_of_accept accepted :)

theorem Effect.subject_eq {s : Transfers} {r r' : Transfer} {op : Operation} {id : String}
    (h : Effect s r op r') (hop : op.subject? = some id) : id = r.id := by
  cases h with
  | leased => cases hop
  | written id_eq =>
      cases hop
      exact id_eq
  | released | signalled =>
      cases hop
      rfl

/-- An access does nothing, or it puts one record into the store: a new one, or what it made of the
one stored. -/
def Puts (s : Transfers) (op : Operation) (id : String) : Prop :=
  (s.apply op = s ∧ ∀ r r', s.find? id = some r → ¬ Effect s r op r') ∨
    ∃ p, p.id = id ∧ s.apply op = ⟨Table.put id p s.records⟩ ∧
      ((op = .create p ∧ s.find? id = none) ∨ ∃ r, s.find? id = some r ∧ Effect s r op p)

theorem puts_create (s : Transfers) (p : Transfer) : s.Puts (.create p) p.id := by
  cases hp : s.find? p.id with
  | none =>
      have hc := create_eq_ok_iff.2 ⟨hp, rfl⟩
      exact Or.inr ⟨p, rfl, apply_create_of_ok hc, Or.inl ⟨rfl, hp⟩⟩
  | some q =>
      refine Or.inl ⟨by simp only [apply, create, hp], ?_⟩
      intro r r' _ h
      cases h

theorem puts_update {s : Transfers} (hs : s.IsKeyed) (p : Transfer) :
    s.Puts (.update p) p.id := by
  cases hp : s.find? p.id with
  | none =>
      refine Or.inl ⟨by simp only [apply, update, hp], ?_⟩
      intro r r' hr
      rw [hp] at hr
      cases hr
  | some q =>
      by_cases h : q.version = p.version ∧ q.sameHolder p = true
      · have hu := update_eq_ok_iff.2 ⟨q, hp, h.1, h.2, rfl⟩
        refine Or.inr ⟨p.written q, rfl, apply_update_of_ok hu, Or.inr ⟨q, hp, ?_⟩⟩
        exact .written (id_of_find? hs hp).symm h.1 h.2
      · refine Or.inl ⟨by simp only [apply, update_eq_conflict hp h], ?_⟩
        intro r r' hr he
        rw [hp] at hr
        cases hr
        cases he with
        | written _ version_eq holder_eq => exact h ⟨version_eq, holder_eq⟩

theorem puts_release {s : Transfers} (hs : s.IsKeyed) (id holder : String) :
    s.Puts (.release id holder) id := by
  cases hq : s.find? id with
  | none =>
      refine Or.inl ⟨by simp only [apply, release, hq], ?_⟩
      intro r r' hr
      rw [hq] at hr
      cases hr
  | some q =>
      obtain rfl : q.id = id := id_of_find? hs hq
      by_cases h : q.lease.any (·.holder == holder) = true
      · have heq : s.apply (.release q.id holder) = ⟨Table.put q.id q.withoutLease s.records⟩ := by
          simp only [apply, release, hq, h, if_true]
        exact Or.inr ⟨q.withoutLease, rfl, heq, Or.inr ⟨q, hq, .released h⟩⟩
      · refine Or.inl ⟨by simp only [apply, release, hq, h]; rfl, ?_⟩
        intro r r' hr he
        rw [hq] at hr
        cases hr
        cases he with
        | released held => exact h held

theorem puts_signal {s : Transfers} (hs : s.IsKeyed) (id : String) (x : Transfer.Signal) :
    s.Puts (.signal id x) id := by
  cases hq : s.find? id with
  | none =>
      refine Or.inl ⟨by simp only [apply, signal, hq], ?_⟩
      intro r r' hr
      rw [hq] at hr
      cases hr
  | some q =>
      obtain rfl : q.id = id := id_of_find? hs hq
      by_cases h : ∃ next, q.accept x = .ok (some next)
      · obtain ⟨next, hnext⟩ := h
        have htaken := signal_eq_ok_iff.2 ⟨q, hq, Or.inr ⟨next, hnext, rfl, rfl⟩⟩
        exact Or.inr ⟨next.bumped, (Transfer.id_of_accept hnext :), apply_signal_of_ok htaken,
          Or.inr ⟨q, hq, .signalled hnext⟩⟩
      · refine Or.inl ⟨?_, ?_⟩
        · cases hx : q.accept x with
          | error e => simp only [apply, signal, hq, hx]
          | ok next =>
              cases next with
              | none => simp only [apply, signal, hq, hx]
              | some next => exact absurd ⟨next, hx⟩ h
        · intro r r' hr he
          rw [hq] at hr
          cases hr
          cases he with
          | signalled accepted => exact h ⟨_, accepted⟩

/-- **What an access that names an id does to the store.**  It does nothing, or it puts one record
into the store. -/
theorem apply_of_subject {s : Transfers} (hs : s.IsKeyed) {op : Operation} {id : String}
    (hop : op.subject? = some id) : s.Puts op id := by
  cases op with
  | create p =>
      cases hop
      exact puts_create s p
  | claim => cases hop
  | update p =>
      cases hop
      exact puts_update hs p
  | release id' holder =>
      cases hop
      exact puts_release hs id holder
  | signal id' x =>
      cases hop
      exact puts_signal hs id x

/-- An access that names an id leaves the records of the others alone. -/
theorem find?_apply_of_subject_ne {s : Transfers} (hs : s.IsKeyed) {op : Operation}
    {id other : String} (hop : op.subject? = some id) (hne : other ≠ id) :
    (s.apply op).find? other = s.find? other := by
  rcases apply_of_subject hs hop with ⟨heq, -⟩ | ⟨p, -, heq, -⟩
  · rw [heq]
  · rw [heq, find?_put, if_neg hne]

/-- **One thing at most.**  The record of an id after an access is what the access made of it, or
else it is as before and the access has no effect on it. -/
theorem find?_apply {s : Transfers} (hs : s.IsKeyed) {id : String} {r : Transfer}
    (hr : s.find? id = some r) (op : Operation) :
    (∃ r', Effect s r op r' ∧ (s.apply op).find? id = some r') ∨
      ((∀ r', ¬ Effect s r op r') ∧ (s.apply op).find? id = some r) := by
  cases hop : op.subject? with
  | none =>
      obtain ⟨states, batch, c, rfl⟩ := op.eq_claim_of_subject?_eq_none hop
      have hfind := find?_claim hs states batch c id
      by_cases hmem : r ∈ s.chosen states batch c
      · exact Or.inl ⟨_, .leased hmem, by simpa [apply, hr, hmem] using hfind⟩
      · refine Or.inr ⟨fun _ h => ?_, by simpa [apply, hr, hmem] using hfind⟩
        cases h with
        | leased chosen => exact hmem chosen
  | some subject =>
      -- An effect on the record of `id` would make `id` the one that the access names.
      have hother : id ≠ subject → ∀ r', ¬ Effect s r op r' := fun hne r' h =>
        hne ((id_of_find? hs hr).symm.trans (h.subject_eq hop).symm)
      rcases apply_of_subject hs hop with ⟨heq, hno⟩ | ⟨p, -, heq, hcase⟩
      · refine Or.inr ⟨fun r' => ?_, by rw [heq, hr]⟩
        by_cases hid : id = subject
        · exact hno r r' (hid ▸ hr)
        · exact hother hid r'
      · by_cases hid : id = subject
        · subst hid
          rcases hcase with ⟨-, hnone⟩ | ⟨q, hq, heff⟩
          · rw [hr] at hnone
            cases hnone
          · rw [hr] at hq
            cases hq
            exact Or.inl ⟨p, heff, by simp only [heq, find?_put, if_true]⟩
        · exact Or.inr ⟨hother hid, by simp only [heq, find?_put, hid, if_false, hr]⟩

/-- A record comes into being by creation only. -/
theorem find?_apply_of_eq_none {s : Transfers} (hs : s.IsKeyed) {id : String}
    (hr : s.find? id = none) (op : Operation) {r : Transfer}
    (h : (s.apply op).find? id = some r) : op = .create r ∧ r.id = id := by
  cases hop : op.subject? with
  | none =>
      obtain ⟨states, batch, c, rfl⟩ := op.eq_claim_of_subject?_eq_none hop
      have hfind := find?_claim hs states batch c id
      rw [hr] at hfind
      exact absurd (hfind.symm.trans h) (by simp)
  | some subject =>
      rcases apply_of_subject hs hop with ⟨heq, -⟩ | ⟨p, hp, heq, hcase⟩
      · rw [heq, hr] at h
        cases h
      · by_cases hid : id = subject
        · subst hid
          simp only [heq, find?_put, if_true, Option.some.injEq] at h
          subst h
          rcases hcase with ⟨rfl, -⟩ | ⟨q, hq, -⟩
          · exact ⟨rfl, hp⟩
          · rw [hr] at hq
            cases hq
        · simp only [heq, find?_put, hid, if_false, hr] at h
          cases h

/-! ## Histories -/

theorem isKeyed_apply {s : Transfers} (hs : s.IsKeyed) (op : Operation) :
    (s.apply op).IsKeyed := by
  cases hop : op.subject? with
  | none =>
      obtain ⟨states, batch, c, rfl⟩ := op.eq_claim_of_subject?_eq_none hop
      exact isKeyed_claim hs states batch c
  | some subject =>
      rcases apply_of_subject hs hop with ⟨heq, -⟩ | ⟨p, hp, heq, -⟩
      · rwa [heq]
      · rw [heq]
        exact isKeyed_put hs hp

theorem isKeyed_after {s : Transfers} (hs : s.IsKeyed) (ops : List Operation) :
    (s.after ops).IsKeyed := by
  induction ops generalizing s with
  | nil => exact hs
  | cons op ops ih => exact ih (isKeyed_apply hs op)

end Transfers
end Connector
