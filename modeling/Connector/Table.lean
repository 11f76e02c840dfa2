/-!
# Tables

Values under names, kept in increasing order of the names.  Names are compared by code points.
Statements:

* `get?_put` — a value is found under the name it was put under, and putting it leaves the other
  names alone;
* `get?_remove` — removing a name leaves the other names alone;
* `isSorted_put`, `isSorted_remove`, `isSorted_mapValues` — the order of the names is kept;
* `get?_eq_some_iff` — in a table in order, what is found under a name is the entry of that name;
* `eq_of_get?` — tables in order are the same if they have the same under every name.
-/

namespace Connector

/-- Values under names, the names increasing. -/
abbrev Table (α : Type u) := List (String × α)

namespace Table

variable {α : Type u} {β : Type v}

/-- The value under a name. -/
def get? (name : String) : Table α → Option α
  | [] => none
  | (k, v) :: rest => if k = name then some v else get? name rest

/-- The table with a value under a name, in place of an earlier one. -/
def put (name : String) (value : α) : Table α → Table α
  | [] => [(name, value)]
  | (k, v) :: rest =>
      if name < k then (name, value) :: (k, v) :: rest
      else if k = name then (name, value) :: rest
      else (k, v) :: put name value rest

/-- The table without a name. -/
def remove (name : String) (t : Table α) : Table α := t.filter fun e => e.1 != name

/-- The table of some entries, a later one in place of an earlier one of its name. -/
def ofEntries (entries : List (String × α)) : Table α :=
  entries.foldl (fun t e => put e.1 e.2 t) []

/-- Whether a name is in the table. -/
def has (name : String) (t : Table α) : Bool := (get? name t).isSome

/-- The values in the order of their names. -/
def values (t : Table α) : List α := t.map (·.2)

/-- Every value mapped. -/
def mapValues (f : α → β) (t : Table α) : Table β := t.map fun e => (e.1, f e.2)

/-- The names increase strictly. -/
def IsSorted (t : Table α) : Prop := t.Pairwise fun a b => a.1 < b.1

theorem get?_put_self (name : String) (value : α) (t : Table α) :
    get? name (put name value t) = some value := by
  induction t with
  | nil => simp [put, get?]
  | cons e rest ih =>
      obtain ⟨k, v⟩ := e
      by_cases h : name < k
      · simp [put, get?, h]
      · by_cases hk : k = name
        · simp [put, get?, hk]
        · simp [put, get?, h, hk, ih]

theorem get?_put_of_ne {name other : String} (h : other ≠ name) (value : α) (t : Table α) :
    get? other (put name value t) = get? other t := by
  induction t with
  | nil => simp [put, get?, Ne.symm h]
  | cons e rest ih =>
      obtain ⟨k, v⟩ := e
      by_cases hl : name < k
      · simp [put, get?, hl, Ne.symm h]
      · by_cases hk : k = name
        · subst hk; simp [put, get?, Ne.symm h]
        · simp [put, get?, hl, hk, ih]

theorem get?_put (name other : String) (value : α) (t : Table α) :
    get? other (put name value t) = if other = name then some value else get? other t := by
  split
  · rename_i h
    rw [h, get?_put_self]
  · rename_i h
    rw [get?_put_of_ne h]

theorem get?_remove_of_ne {name other : String} (h : other ≠ name) (t : Table α) :
    get? other (remove name t) = get? other t := by
  induction t with
  | nil => rfl
  | cons e rest ih =>
      obtain ⟨k, v⟩ := e
      by_cases hk : k = name
      · subst hk
        simpa [remove, get?, Ne.symm h] using ih
      · by_cases ho : k = other
        · simp [remove, get?, ho, h]
        · simpa [remove, get?, hk, ho] using ih

theorem get?_remove_self (name : String) (t : Table α) : get? name (remove name t) = none := by
  induction t with
  | nil => rfl
  | cons e rest ih =>
      obtain ⟨k, v⟩ := e
      by_cases hk : k = name
      · simpa [remove, hk] using ih
      · simpa [remove, get?, hk] using ih

theorem get?_remove (name other : String) (t : Table α) :
    get? other (remove name t) = if other = name then none else get? other t := by
  split
  · rename_i h
    rw [h, get?_remove_self]
  · rename_i h
    rw [get?_remove_of_ne h]

theorem mem_put {name : String} {value : α} {t : Table α} {e : String × α}
    (h : e ∈ put name value t) : e = (name, value) ∨ e ∈ t := by
  induction t with
  | nil => simpa [put] using h
  | cons d rest ih =>
      obtain ⟨k, v⟩ := d
      simp only [put] at h
      split at h
      · simpa using h
      · split at h
        · simp only [List.mem_cons] at h ⊢
          rcases h with h | h
          · exact Or.inl h
          · exact Or.inr (Or.inr h)
        · simp only [List.mem_cons] at h ⊢
          rcases h with h | h
          · exact Or.inr (Or.inl h)
          · rcases ih h with h | h
            · exact Or.inl h
            · exact Or.inr (Or.inr h)

theorem isSorted_put {name : String} {value : α} {t : Table α} (h : IsSorted t) :
    IsSorted (put name value t) := by
  induction t with
  | nil => simp [put, IsSorted]
  | cons d rest ih =>
      obtain ⟨k, v⟩ := d
      have hcons := List.pairwise_cons.1 h
      simp only [put]
      split
      · rename_i hl
        refine List.pairwise_cons.2 ⟨?_, h⟩
        intro e he
        rcases List.mem_cons.1 he with rfl | he
        · exact hl
        · exact String.lt_trans hl (hcons.1 e he)
      · rename_i hl
        split
        · rename_i hk
          subst hk
          exact List.pairwise_cons.2 ⟨hcons.1, hcons.2⟩
        · rename_i hk
          refine List.pairwise_cons.2 ⟨?_, ih hcons.2⟩
          intro e he
          rcases mem_put he with rfl | he
          · exact String.not_le.1 fun hle => hk (String.le_antisymm (String.not_lt.1 hl) hle)
          · exact hcons.1 e he

theorem isSorted_remove {name : String} {t : Table α} (h : IsSorted t) :
    IsSorted (remove name t) :=
  List.Pairwise.filter _ h

theorem isSorted_nil : IsSorted ([] : Table α) := List.Pairwise.nil

theorem isSorted_ofEntries (entries : List (String × α)) : IsSorted (ofEntries entries) := by
  have hput : ∀ t : Table α, IsSorted t →
      IsSorted (entries.foldl (fun t e => put e.1 e.2 t) t) := by
    induction entries with
    | nil => exact fun _ ht => ht
    | cons e rest ih => exact fun t ht => ih _ (isSorted_put ht)
  exact hput [] isSorted_nil

theorem get?_mapValues (f : α → β) (name : String) (t : Table α) :
    get? name (mapValues f t) = (get? name t).map f := by
  induction t with
  | nil => rfl
  | cons e rest ih =>
      obtain ⟨k, v⟩ := e
      by_cases hk : k = name
      · simp [mapValues, get?, hk]
      · simpa [mapValues, get?, hk] using ih

theorem isSorted_mapValues {f : α → β} {t : Table α} (h : IsSorted t) :
    IsSorted (mapValues f t) := by
  unfold IsSorted mapValues
  exact List.pairwise_map.2 h

theorem mem_of_get?_eq_some {name : String} {value : α} {t : Table α}
    (h : get? name t = some value) : (name, value) ∈ t := by
  induction t with
  | nil => simp [get?] at h
  | cons e rest ih =>
      obtain ⟨k, v⟩ := e
      by_cases hk : k = name
      · simp only [get?, hk, if_true, Option.some.injEq] at h
        simp [hk, h]
      · simp only [get?, hk, if_false] at h
        exact List.mem_cons_of_mem _ (ih h)

theorem get?_eq_some_iff {name : String} {value : α} {t : Table α} (hs : IsSorted t) :
    get? name t = some value ↔ (name, value) ∈ t := by
  refine ⟨mem_of_get?_eq_some, ?_⟩
  intro h
  induction t with
  | nil => cases h
  | cons e rest ih =>
      obtain ⟨k, v⟩ := e
      have hcons := List.pairwise_cons.1 hs
      rcases List.mem_cons.1 h with heq | hmem
      · cases heq
        simp [get?]
      · have hne : k ≠ name := fun hk =>
          String.lt_irrefl name (by simpa [hk] using hcons.1 _ hmem)
        simpa [get?, hne] using ih hcons.2 hmem

theorem IsSorted.nodup {t : Table α} (ht : IsSorted t) : t.Nodup := by
  refine List.Pairwise.imp ?_ ht
  rintro a b hlt rfl
  exact String.lt_irrefl _ hlt

/-- Tables in order are the same if they have the same under every name. -/
theorem eq_of_get? {s t : Table α} (hs : IsSorted s) (ht : IsSorted t)
    (h : ∀ name, get? name s = get? name t) : s = t := by
  have hmem : ∀ e, e ∈ s ↔ e ∈ t := by
    intro e
    rw [← get?_eq_some_iff hs, h, get?_eq_some_iff ht]
  have hperm : s.Perm t := (List.perm_ext_iff_of_nodup hs.nodup ht.nodup).2 hmem
  exact hperm.eq_of_pairwise
    (fun a b _ _ hab hba => absurd (String.lt_trans hab hba) (String.lt_irrefl _)) hs ht

/-- Putting what is there already changes nothing. -/
theorem put_of_get? {name : String} {value : α} {t : Table α} (ht : IsSorted t)
    (h : get? name t = some value) : put name value t = t := by
  refine eq_of_get? (isSorted_put ht) ht ?_
  intro other
  rw [get?_put]
  split
  · rename_i heq
    rw [heq, h]
  · rfl

end Table
end Connector
