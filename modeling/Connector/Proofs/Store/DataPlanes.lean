import Connector.Store.DataPlanes

/-!
# Accesses to the store of data planes

Four accesses change the store, each of them the entry of one id: a data plane is saved, deleted,
touched, or deleted if it is stale.  Statements:

* `find?_saved`, `find?_deleted`, `find?_touched` — what each of them leaves under every id;
* `deleteIfStale_eq` — deleting what is stale is deleting, or nothing;
* `isKeyed_save`, `isKeyed_delete`, `isKeyed_touch` — a data plane stays under its own id, in the
  order of ids;
* `mem_list_iff`, `pairwise_list` — the list of a store has each of its entries once, in order.
-/

namespace Connector

namespace DataPlane

/-- The data plane as it registers at an instant. -/
def registered (d : DataPlane) (now : Instant) : DataPlane :=
  { d with registeredAt := now, lastSeen := now }

/-- The data plane after a report of life. -/
def seen (d : DataPlane) (now : Instant) (load : Option Nat) : DataPlane :=
  { d with lastSeen := now, load := load.or d.load }

/-- What makes a descriptor well formed does not depend on when it was seen. -/
theorem validate_registered (d : DataPlane) (now : Instant) :
    (d.registered now).validate = d.validate :=
  rfl

theorem validate_seen (d : DataPlane) (now : Instant) (load : Option Nat) :
    (d.seen now load).validate = d.validate :=
  rfl

end DataPlane

namespace DataPlanes

/-- Every data plane is under its own id, and the ids increase. -/
structure IsKeyed (s : DataPlanes) : Prop where
  isSorted : s.records.IsSorted
  id_eq : ∀ e ∈ s.records, e.2.id = e.1

theorem isKeyed_empty : empty.IsKeyed :=
  ⟨Table.isSorted_nil, by simp [empty]⟩

variable {s : DataPlanes} {id other : String} {d : DataPlane}

theorem id_of_find? (hs : s.IsKeyed) (h : s.find? id = some d) : d.id = id :=
  hs.id_eq _ (Table.mem_of_get?_eq_some h)

/-! ## What is found after an access -/

theorem find?_put (s : DataPlanes) (id other : String) (d : DataPlane) :
    find? ⟨Table.put id d s.records⟩ other = if other = id then some d else s.find? other :=
  Table.get?_put id other d s.records

theorem find?_saved (s : DataPlanes) (d : DataPlane) (other : String) :
    (s.save d).2.find? other = if other = d.id then some d else s.find? other :=
  find?_put s d.id other d

theorem find?_deleted (s : DataPlanes) (id other : String) :
    (s.delete id).2.find? other = if other = id then none else s.find? other :=
  Table.get?_remove id other s.records

/-- A report of life reaches the data plane that is there, and adds none. -/
theorem find?_touched (s : DataPlanes) (id : String) (now : Instant) (load : Option Nat)
    (other : String) :
    (s.touch id now load).2.find? other =
      if other = id then (s.find? id).map (·.seen now load) else s.find? other := by
  cases h : s.find? id with
  | none =>
      rw [touch_of_find?_eq_none h]
      split
      · rename_i heq
        rw [heq, h, Option.map_none]
      · rfl
  | some d =>
      have htouch : (s.touch id now load).2 = ⟨Table.put id (d.seen now load) s.records⟩ := by
        simp only [touch, h, DataPlane.seen]
      rw [htouch, find?_put, Option.map_some]

theorem touch_fst (s : DataPlanes) (id : String) (now : Instant) (load : Option Nat) :
    (s.touch id now load).1 = (s.find? id).isSome := by
  unfold touch
  cases s.find? id <;> rfl

/-- Whether the entry of an id is there and was last seen before an instant. -/
def isStale (s : DataPlanes) (id : String) (cutoff : Instant) : Bool :=
  (s.find? id).any fun d => decide (d.lastSeen < cutoff)

theorem isStale_iff {cutoff : Instant} :
    s.isStale id cutoff = true ↔ ∃ d, s.find? id = some d ∧ d.lastSeen < cutoff := by
  simp [isStale, Option.any_eq_true]

/-- Deleting what is stale is deleting, or nothing. -/
theorem deleteIfStale_eq (s : DataPlanes) (id : String) (cutoff : Instant) :
    s.deleteIfStale id cutoff = if s.isStale id cutoff then s.delete id else (false, s) := by
  unfold deleteIfStale isStale delete
  cases s.find? id with
  | none => rfl
  | some d =>
      by_cases h : d.lastSeen < cutoff
      · simp [h]
      · simp [h]

theorem delete_fst_of_isStale {cutoff : Instant} (h : s.isStale id cutoff = true) :
    (s.delete id).1 = true := by
  obtain ⟨d, hd, -⟩ := isStale_iff.1 h
  simp [delete, hd]

/-! ## Order -/

theorem isKeyed_put (hs : s.IsKeyed) (hid : d.id = id) : IsKeyed ⟨Table.put id d s.records⟩ := by
  refine ⟨Table.isSorted_put hs.isSorted, ?_⟩
  intro e he
  rcases Table.mem_put he with rfl | he
  · exact hid
  · exact hs.id_eq e he

theorem isKeyed_save (hs : s.IsKeyed) (d : DataPlane) : (s.save d).2.IsKeyed :=
  isKeyed_put hs rfl

theorem isKeyed_delete (hs : s.IsKeyed) (id : String) : (s.delete id).2.IsKeyed :=
  ⟨Table.isSorted_remove hs.isSorted, fun e he => hs.id_eq e (List.mem_filter.1 he).1⟩

theorem isKeyed_touch (hs : s.IsKeyed) (id : String) (now : Instant) (load : Option Nat) :
    (s.touch id now load).2.IsKeyed := by
  unfold touch
  cases h : s.find? id with
  | none => exact hs
  | some d =>
      have hid : d.id = id := id_of_find? hs h
      exact isKeyed_put hs hid

/-- The list of a store has the entries that are found. -/
theorem mem_list_iff (hs : s.IsKeyed) : d ∈ s.list ↔ s.find? d.id = some d := by
  constructor
  · intro h
    obtain ⟨e, he, rfl⟩ := List.mem_map.1 h
    rw [hs.id_eq e he]
    exact (Table.get?_eq_some_iff hs.isSorted).2 he
  · intro h
    exact List.mem_map.2 ⟨_, Table.mem_of_get?_eq_some h, rfl⟩

/-- The list of a store is in the order of ids. -/
theorem pairwise_list (hs : s.IsKeyed) : s.list.Pairwise fun d e => d.id < e.id := by
  refine List.pairwise_map.2 (hs.isSorted.imp_of_mem ?_)
  intro d e hd he hlt
  rwa [hs.id_eq d hd, hs.id_eq e he]

end DataPlanes
end Connector
