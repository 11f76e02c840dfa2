import Connector.Proofs.Sql.DataPlanes
import Connector.Sql.Schema
import Mathlib.Data.List.Nodup

/-!
# Reports of life in a database and in memory

The table of data planes and the store in memory are changed by the same accesses.  Whatever was
saved, seen and dropped before, the rows are those of the store's entries (`represents_after`): what
holds of one access (`simulates`) holds of a history, by induction on it.

A database keeps when a data plane was seen last twice, in the document to the nanosecond and in a
column to the microsecond.  The store compares what the document says, a statement that drops what
is stale compares the column.  A report of life changes both, so that they tell of one instant.

* `touch_agrees` — what a report of life leaves in the database is what it leaves in memory, and
  what goes by the column goes by the document, to the microsecond.
-/

namespace Connector.Sql.DataPlaneTable

/-- Some data planes are the entries of a store, each once. -/
structure Lists (ps : List DataPlane) (s : DataPlanes) : Prop where
  keyed : s.IsKeyed
  distinct : (ps.map (·.id)).Nodup
  mem_iff : ∀ p, p ∈ ps ↔ s.find? p.id = some p
  typed : ∀ p ∈ ps, p.IsTyped

/-- The rows of a database are those of the entries of a store. -/
def Represents (d : Database) (s : DataPlanes) : Prop := ∃ ps, Stands d ps ∧ Lists ps s

/-- An access that changes what is stored. -/
inductive Access where
  | save (p : DataPlane)
  | touch (id : String) (seen : Instant) (load : Option Nat)
  | delete (id : String)

namespace Access

/-- The access at a database. -/
def session : Access → Session Bool
  | .save p => DataPlaneTable.save p
  | .touch id seen load => DataPlaneTable.touch id seen load
  | .delete id => DataPlaneTable.delete id

/-- The access in memory. -/
def inMemory (s : DataPlanes) : Access → Bool × DataPlanes
  | .save p => s.save p
  | .touch id seen load => s.touch id seen load
  | .delete id => s.delete id

/-- What is stored fits its type. -/
def IsTyped : Access → Prop
  | .save p => p.IsTyped
  | .touch _ seen load => seen.inRange = true ∧ DataPlane.LoadFits load
  | .delete _ => True

end Access

/-- The database after a history. -/
def after (d : Database) (history : List Access) : Database :=
  history.foldl (fun d a => (Session.perform d a.session).2) d

/-- The store after a history. -/
def remembered (s : DataPlanes) (history : List Access) : DataPlanes :=
  history.foldl (fun s a => (a.inMemory s).2) s

variable {d : Database} {s : DataPlanes} {p : DataPlane} {ps : List DataPlane} {id : String}
  {seen cutoff : Instant} {load : Option Nat} {a : Access} {history : List Access}

/-! ## Entries -/

namespace Lists

/-- The entry of an id is the one of the id. -/
theorem find?_eq_some_iff (h : Lists ps s) : s.find? id = some p ↔ p ∈ ps ∧ p.id = id := by
  constructor
  · intro hp
    have hid : p.id = id := DataPlanes.id_of_find? h.keyed hp
    exact ⟨(h.mem_iff p).2 (hid ▸ hp), hid⟩
  · rintro ⟨hp, rfl⟩
    exact (h.mem_iff p).1 hp

/-- What is looked for by its id is the entry of the id. -/
theorem find?_eq (h : Lists ps s) (id : String) :
    (ps.find? fun p => decide (p.id = id)) = s.find? id := by
  apply Option.ext
  intro p
  rw [h.find?_eq_some_iff]
  constructor
  · intro hp
    exact ⟨List.mem_of_find?_eq_some hp, by simpa using List.find?_some hp⟩
  · rintro ⟨hp, hid⟩
    cases hq : ps.find? fun p => decide (p.id = id) with
    | none => exact absurd (decide_eq_true hid) (List.find?_eq_none.1 hq p hp)
    | some q =>
        have hmem : q ∈ ps := List.mem_of_find?_eq_some hq
        have hsame : q.id = id := by simpa using List.find?_some hq
        rw [List.inj_on_of_nodup_map h.distinct hmem hp (hsame.trans hid.symm)]

theorem any_eq (h : Lists ps s) (id : String) :
    (ps.any fun p => decide (p.id = id)) = (s.find? id).isSome := by
  rw [← h.find?_eq, Bool.eq_iff_iff, List.any_eq_true, List.find?_isSome]

theorem empty : Lists [] DataPlanes.empty :=
  ⟨DataPlanes.isKeyed_empty, List.nodup_nil, fun _ => iff_of_false List.not_mem_nil nofun, nofun⟩

end Lists

/-- Whoever is saved is there, and everybody else of another id who was. -/
theorem mem_savedIn {q : DataPlane} : q ∈ savedIn ps p ↔ q = p ∨ q ∈ ps ∧ q.id ≠ p.id := by
  unfold savedIn
  split
  · rename_i hany
    obtain ⟨old, hold, hid⟩ := List.any_eq_true.1 hany
    rw [decide_eq_true_iff] at hid
    rw [List.mem_map]
    constructor
    · rintro ⟨o, ho, rfl⟩
      by_cases hsame : o.id = p.id
      · exact Or.inl (if_pos hsame)
      · rw [if_neg hsame]
        exact Or.inr ⟨ho, hsame⟩
    · rintro (rfl | ⟨hq, hne⟩)
      · exact ⟨old, hold, if_pos hid⟩
      · exact ⟨q, hq, if_neg hne⟩
  · rename_i hnone
    rw [List.mem_append, List.mem_singleton, or_comm]
    refine or_congr_right (iff_self_and.2 ?_)
    intro hq hid
    exact hnone (List.any_eq_true.2 ⟨q, hq, decide_eq_true hid⟩)

/-- An id is there once, also after a data plane of it was saved. -/
theorem nodup_savedIn (distinct : (ps.map (·.id)).Nodup) (p : DataPlane) :
    ((savedIn ps p).map (·.id)).Nodup := by
  unfold savedIn
  split
  · have hids : (ps.map fun q => if q.id = p.id then p else q).map (·.id) = ps.map (·.id) := by
      rw [List.map_map]
      refine List.map_congr_left fun q _ => ?_
      rw [Function.comp]
      split
      · exact Eq.symm ‹_›
      · rfl
    rw [hids]
    exact distinct
  · rename_i hnone
    rw [List.map_append, List.map_singleton, List.nodup_append]
    refine ⟨distinct, List.nodup_singleton _, ?_⟩
    rintro v hv w hw rfl
    obtain ⟨q, hq, hid⟩ := List.mem_map.1 hv
    rw [List.mem_singleton.1 hw] at hid
    exact hnone (List.any_eq_true.2 ⟨q, hq, decide_eq_true hid⟩)

/-- A report of life leaves every id where it is. -/
theorem ids_touchedIn (ps : List DataPlane) (id : String) (seen : Instant) (load : Option Nat) :
    (touchedIn ps id seen load).map (·.id) = ps.map (·.id) := by
  rw [touchedIn, List.map_map]
  refine List.map_congr_left fun p _ => ?_
  rw [Function.comp]
  split
  · rfl
  · rfl

namespace Lists

theorem saved (h : Lists ps s) (typed : p.IsTyped) : Lists (savedIn ps p) (s.save p).2 where
  keyed := DataPlanes.isKeyed_save h.keyed p
  distinct := nodup_savedIn h.distinct p
  mem_iff q := by
    rw [mem_savedIn, DataPlanes.find?_saved, h.mem_iff]
    by_cases hid : q.id = p.id
    · simp [hid, @eq_comm _ p q]
    · have hne : q ≠ p := fun heq => hid (congrArg _ heq)
      simp [hid, hne]
  typed q hq := by
    rcases mem_savedIn.1 hq with rfl | ⟨hq, -⟩
    · exact typed
    · exact h.typed q hq

theorem touched (h : Lists ps s) (id : String) (hseen : seen.inRange = true)
    (hload : DataPlane.LoadFits load) :
    Lists (touchedIn ps id seen load) (s.touch id seen load).2 where
  keyed := DataPlanes.isKeyed_touch h.keyed id seen load
  distinct := by
    rw [ids_touchedIn]
    exact h.distinct
  mem_iff q := by
    rw [touchedIn, List.mem_map, DataPlanes.find?_touched]
    constructor
    · rintro ⟨p, hp, rfl⟩
      have hthere := (h.mem_iff p).1 hp
      have hsame : (if p.id = id then p.seen seen load else p).id = p.id := by split <;> rfl
      rw [hsame]
      by_cases hid : p.id = id
      · rw [if_pos hid, if_pos hid, ← hid, hthere, Option.map_some]
      · rw [if_neg hid, if_neg hid, hthere]
    · intro hq
      by_cases hid : q.id = id
      · rw [if_pos hid, Option.map_eq_some_iff] at hq
        obtain ⟨p, hp, rfl⟩ := hq
        obtain ⟨hmem, hsame⟩ := h.find?_eq_some_iff.1 hp
        exact ⟨p, hmem, if_pos hsame⟩
      · rw [if_neg hid] at hq
        exact ⟨q, (h.mem_iff q).2 hq, if_neg hid⟩
  typed q hq := by
    obtain ⟨p, hp, rfl⟩ := List.mem_map.1 hq
    split
    · exact (h.typed p hp).seen hseen hload
    · exact h.typed p hp

theorem deleted (h : Lists ps s) (id : String) :
    Lists (ps.filter fun p => !decide (p.id = id)) (s.delete id).2 where
  keyed := DataPlanes.isKeyed_delete h.keyed id
  distinct := h.distinct.sublist (List.filter_sublist.map _)
  mem_iff q := by
    rw [List.mem_filter, DataPlanes.find?_deleted, h.mem_iff]
    by_cases hid : q.id = id
    · simp [hid]
    · simp [hid]
  typed q hq := h.typed q (List.mem_filter.1 hq).1

end Lists

/-! ## Histories -/

/-- An access gives in memory what it gives at the database, and leaves the entries whose rows it
leaves there. -/
theorem simulates (h : Represents d s) (typed : a.IsTyped) :
    ∃ d', Session.perform d a.session = (.ok (a.inMemory s).1, d') ∧
      Represents d' (a.inMemory s).2 := by
  obtain ⟨ps, hstands, hlists⟩ := h
  cases a with
  | save p =>
      obtain ⟨d', hperform, hstands'⟩ := leaves_save hstands p
      rw [hlists.any_eq] at hperform
      exact ⟨d', hperform, _, hstands', hlists.saved typed⟩
  | touch id seen load =>
      obtain ⟨d', hperform, hstands'⟩ := leaves_touch hstands id seen load
      rw [hlists.any_eq, ← DataPlanes.touch_fst s id seen load] at hperform
      exact ⟨d', hperform, _, hstands', hlists.touched id typed.1 typed.2⟩
  | delete id =>
      obtain ⟨d', hperform, hstands'⟩ := leaves_delete hstands id
      rw [hlists.any_eq] at hperform
      exact ⟨d', hperform, _, hstands', hlists.deleted id⟩

theorem represents_empty : Represents Database.empty DataPlanes.empty := ⟨[], rfl, Lists.empty⟩

/-- Whatever happened before, the rows are those of the entries. -/
theorem represents_after (h : Represents d s) (typed : ∀ a ∈ history, a.IsTyped) :
    Represents (after d history) (remembered s history) := by
  induction history generalizing d s with
  | nil => exact h
  | cons a rest ih =>
      obtain ⟨ha, hrest⟩ := List.forall_mem_cons.1 typed
      obtain ⟨d', hperform, hrepresents⟩ := simulates h ha
      rw [after, remembered, List.foldl_cons, List.foldl_cons, hperform]
      exact ih hrepresents hrest

/-! ## What the rows say -/

theorem Stands.mem_iff (h : Stands d ps) {r : Row} :
    r ∈ d.rows name ↔ ∃ p ∈ ps, rowOf p = r := by
  rw [h, List.mem_map]

/-- The rows have the ids of the data planes, in their order. -/
theorem Stands.identities (h : Stands d ps) :
    (d.rows name).map identity = (ps.map (·.id)).map Value.text := by
  rw [h, List.map_map, List.map_map]
  refine List.map_congr_left fun p _ => ?_
  show (rowOf p).value "id" = .text p.id
  simp [value_rowOf]

/-- A statement that drops what is stale by the column drops what is stale by the document, to the
microsecond. -/
theorem deleteIfStale_spec (hstands : Stands d ps) (hlists : Lists ps s) (id : String)
    (cutoff : Instant) :
    ∃ b d', Session.perform d (deleteIfStale id cutoff) = (.ok b, d') ∧
      (b = true ↔ ∃ p, s.find? id = some p ∧ toMicros p.lastSeen < toMicros cutoff) ∧
      (d'.rows name).Sublist (d.rows name) ∧
      ∀ r ∈ d.rows name, ∀ p, ofRow r = .ok p →
        (r ∈ d'.rows name ↔ ¬ (p.id = id ∧ toMicros p.lastSeen < toMicros cutoff)) := by
  have hstale : ∀ p, isStaleAt id cutoff p = true ↔
      p.id = id ∧ toMicros p.lastSeen < toMicros cutoff := by
    intro p
    rw [isStaleAt, Bool.and_eq_true, decide_eq_true_iff, decide_eq_true_iff]
  obtain ⟨d', hperform, hstands'⟩ := leaves_deleteIfStale hstands id cutoff
  refine ⟨_, d', hperform, ?_, ?_, ?_⟩
  · simp only [List.any_eq_true, hstale, hlists.find?_eq_some_iff, and_assoc]
  · rw [hstands, hstands']
    exact List.filter_sublist.map _
  · intro r hr p hread
    obtain ⟨q, hq, rfl⟩ := hstands.mem_iff.1 hr
    -- Whatever has this row is the one that the row reads as.
    have hsame : ∀ o ∈ ps, rowOf o = rowOf q → o = p := by
      intro o ho hrow
      rw [← hrow, ofRow_rowOf (hlists.typed o ho)] at hread
      exact Except.ok.inj hread
    have hqp : q = p := hsame q hq rfl
    subst hqp
    rw [hstands'.mem_iff, ← hstale, Bool.not_eq_true]
    constructor
    · rintro ⟨o, ho, hrow⟩
      obtain ⟨hmem, hfresh⟩ := List.mem_filter.1 ho
      rw [hsame o hmem hrow] at hfresh
      simpa using hfresh
    · intro hfresh
      exact ⟨q, List.mem_filter.2 ⟨hq, by rw [hfresh, Bool.not_false]⟩, rfl⟩

/-! ## A report of life -/

/-- **A report of life is the same in a database as in memory.**  Let data planes be saved, seen and
dropped in a database and in memory, in any order.  Then a report of life from whatever id gives the
same truth value at both, and afterwards
* the entry of the id is as it was, but for when it was seen last, and for its load if one is
  reported; all other entries are as they were;
* every row reads as the entry of its id, and its columns say what the document says, the instant to
  the microsecond; every entry has a row, no id has two, and there are the rows of the same ids as
  before;
* what is looked up under an id is the entry in memory;
* a statement that drops what is stale drops the row of its id if and only if the data plane that it
  reads as was seen last before the cutoff, both to the microsecond, and it drops no other row. -/
theorem touch_agrees (typed : ∀ a ∈ history, a.IsTyped) (id : String)
    (hseen : seen.inRange = true) (hload : DataPlane.LoadFits load) :
    let d := after Database.empty history
    let s := remembered DataPlanes.empty history
    let t := (s.touch id seen load).2
    ∃ d', Session.perform d (touch id seen load) = (.ok (s.touch id seen load).1, d') ∧
      (∀ other, t.find? other =
        if other = id then
          (s.find? id).map fun p => { p with lastSeen := seen, load := load.or p.load }
        else s.find? other) ∧
      (∀ r ∈ d'.rows name, ∃ p, ofRow r = .ok p ∧ t.find? p.id = some p ∧
        r.value "id" = .text p.id ∧ r.value "url" = .text p.url ∧
        r.value "last_seen" = .ofInstant p.lastSeen) ∧
      (∀ other p, t.find? other = some p → ∃ r ∈ d'.rows name, ofRow r = .ok p) ∧
      (d'.rows name).map identity = (d.rows name).map identity ∧
      ((d'.rows name).map identity).Nodup ∧
      (∀ other, Session.perform d' (find other) = (.ok (t.find? other), d')) ∧
      ∀ other cutoff, ∃ b d'', Session.perform d' (deleteIfStale other cutoff) = (.ok b, d'') ∧
        (b = true ↔ ∃ p, t.find? other = some p ∧ toMicros p.lastSeen < toMicros cutoff) ∧
        (d''.rows name).Sublist (d'.rows name) ∧
        ∀ r ∈ d'.rows name, ∀ p, ofRow r = .ok p →
          (r ∈ d''.rows name ↔ ¬ (p.id = other ∧ toMicros p.lastSeen < toMicros cutoff)) := by
  intro d s t
  obtain ⟨ps, hstands, hlists⟩ : Represents d s := represents_after represents_empty typed
  obtain ⟨d', hperform, hstands'⟩ := leaves_touch hstands id seen load
  have hlists' : Lists (touchedIn ps id seen load) t := hlists.touched id hseen hload
  rw [hlists.any_eq, ← DataPlanes.touch_fst s id seen load] at hperform
  refine ⟨d', hperform, fun other => DataPlanes.find?_touched s id seen load other, ?_, ?_, ?_, ?_,
    ?_, fun other cutoff => deleteIfStale_spec hstands' hlists' other cutoff⟩
  · intro r hr
    obtain ⟨p, hp, rfl⟩ := hstands'.mem_iff.1 hr
    exact ⟨p, ofRow_rowOf (hlists'.typed p hp), (hlists'.mem_iff p).1 hp, by simp [value_rowOf],
      by simp [value_rowOf], by simp [value_rowOf]⟩
  · intro other p hp
    obtain ⟨hmem, -⟩ := hlists'.find?_eq_some_iff.1 hp
    exact ⟨rowOf p, hstands'.mem_iff.2 ⟨p, hmem, rfl⟩, ofRow_rowOf (hlists'.typed p hmem)⟩
  · rw [hstands'.identities, hstands.identities, ids_touchedIn]
  · rw [hstands'.identities]
    exact hlists'.distinct.map fun _ _ hsame => Value.text.inj hsame
  · intro other
    rw [perform_find hstands' hlists'.typed other, hlists'.find?_eq]

/-- Two data planes are saved, and one of them reports a load.  It reports life again without one,
and keeps it.  A cutoff within the same microsecond does not drop it, one at the next does. -/
theorem touch_agrees_without_load :
    let plane (id : String) : DataPlane :=
      ⟨id, "http://" ++ id, [⟨"s3", "http"⟩], [], ⟨0⟩, ⟨1500⟩, none⟩
    let history : List Access :=
      [.save (plane "a"), .save (plane "b"), .touch "a" ⟨2500⟩ (some 4)]
    let moment (nanos : Int) : Instant := ⟨epoch + nanos⟩
    let d := after Database.empty history
    (∀ a ∈ history, a.IsTyped) ∧ (moment 5200).inRange = true ∧ DataPlane.LoadFits none ∧
      ∃ d', Session.perform d (touch "a" (moment 5200) none) = (.ok true, d') ∧
        Session.perform d' (find "a") =
          (.ok (some { plane "a" with lastSeen := moment 5200, load := some 4 }), d') ∧
        (Session.perform d' (deleteIfStale "a" (moment 5900))).1 = .ok false ∧
        (Session.perform d' (deleteIfStale "a" (moment 6000))).1 = .ok true := by
  intro plane history moment d
  have hplane : ∀ id, (plane id).IsTyped := fun _ =>
    ⟨nofun, (by decide : (⟨0⟩ : Instant).inRange = true),
      (by decide : (⟨1500⟩ : Instant).inRange = true)⟩
  have hfour : DataPlane.LoadFits (some 4) := by
    intro n hn
    cases hn
    decide
  have typed : ∀ a ∈ history, a.IsTyped := by
    simp only [history, List.forall_mem_cons]
    exact ⟨hplane "a", hplane "b", ⟨by decide, hfour⟩, nofun⟩
  have hseen : (moment 5200).inRange = true := by decide
  have hload : DataPlane.LoadFits none := nofun
  obtain ⟨d', hperform, -, -, -, -, -, hfind, hdrop⟩ := touch_agrees typed "a" hseen hload
  have htouched : ((remembered DataPlanes.empty history).touch "a" (moment 5200) none).1 = true := by
    decide +kernel
  have hfound : ((remembered DataPlanes.empty history).touch "a" (moment 5200) none).2.find? "a" =
      some { plane "a" with lastSeen := moment 5200, load := some 4 } := by
    decide +kernel
  obtain ⟨b, e, hearly, hb, -⟩ := hdrop "a" (moment 5900)
  obtain ⟨c, f, hlate, hc, -⟩ := hdrop "a" (moment 6000)
  have hspared : b = false := by
    rw [Bool.eq_false_iff, ne_eq, hb, hfound]
    rintro ⟨p, hp, hlt⟩
    cases hp
    exact absurd hlt (by decide)
  have hdropped : c = true := hc.2 ⟨_, hfound, by decide⟩
  refine ⟨typed, hseen, hload, d', ?_, ?_, ?_, ?_⟩
  · rw [hperform, htouched]
  · rw [hfind, hfound]
  · rw [hearly, hspared]
  · rw [hlate, hdropped]

end Connector.Sql.DataPlaneTable
