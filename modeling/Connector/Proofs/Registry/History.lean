import Mathlib.Data.List.Induction
import Connector.Proofs.Registry.Roster

/-!
# What the registry tells of its history

What is answered at the registry makes a history: that a data plane registered, left, was seen, or
was dropped.  The entry of an id is what this history says of the id and nothing else: it is there
if it was registered and has neither left nor been dropped since; its descriptor is the one that
was registered last; when it was seen and its load are as reported last since.

One deed adds at most one notice, and does to each entry what the notice says (`find?_act`); so the
entry after a run is found by going through the notices (`find?_run`).  What remains is to tell of
a list of notices which of them count (`exists_registration`, `entryAfter_some`).

* `registry_tells_history` — the entries of the registry after every run.
-/

namespace Connector

/-- What became known of a data plane. -/
inductive Notice where
  /-- It registered at an instant. -/
  | registered (d : DataPlane) (at' : Instant)
  /-- It left, if it was there. -/
  | deregistered (id : String)
  /-- It reported life at an instant. -/
  | seen (id : String) (load : Option Nat) (at' : Instant)
  /-- It was dropped by a sweep. -/
  | evicted (id : String)
  deriving DecidableEq

namespace Notice

variable {n : Notice} {id : String}

/-- Whether the data plane of an id is gone after a notice. -/
def removes (id : String) : Notice → Bool
  | deregistered id' | evicted id' => id' == id
  | registered _ _ | seen _ _ _ => false

/-- Whether the data plane of an id registered. -/
def registers (id : String) : Notice → Bool
  | registered d _ => d.id == id
  | deregistered _ | seen _ _ _ | evicted _ => false

/-- When the data plane of an id reported life. -/
def sight? (id : String) : Notice → Option Instant
  | seen id' _ t => if id' = id then some t else none
  | registered _ _ | deregistered _ | evicted _ => none

/-- The load that the data plane of an id reported. -/
def load? (id : String) : Notice → Option Nat
  | seen id' load _ => if id' = id then load else none
  | registered _ _ | deregistered _ | evicted _ => none

/-- The entry of an id after a notice. -/
def leaves (id : String) (entry : Option DataPlane) : Notice → Option DataPlane
  | registered d t => if id = d.id then some (d.registered t) else entry
  | deregistered id' | evicted id' => if id = id' then none else entry
  | seen id' load t => if id = id' then entry.map (·.seen t load) else entry

/-- An entry is there after a notice if it was registered by it, or was there and is not removed. -/
theorem isSome_leaves_iff (n : Notice) (id : String) (entry : Option DataPlane) :
    (n.leaves id entry).isSome = true ↔
      n.registers id = true ∨ (entry.isSome = true ∧ n.removes id = false) := by
  cases n with
  | registered d t =>
      by_cases h : id = d.id
      · simp [leaves, registers, h]
      · simp [leaves, registers, removes, h, Ne.symm h]
  | deregistered id' | evicted id' =>
      by_cases h : id = id'
      · simp [leaves, registers, removes, h]
      · simp [leaves, registers, removes, h, Ne.symm h]
  | seen id' load t =>
      by_cases h : id = id'
      · simp [leaves, registers, removes, h]
      · simp [leaves, registers, removes, h]

/-- An entry that is neither removed nor registered anew keeps its descriptor. -/
theorem leaves_some (n : Notice) (e : DataPlane) (hremoves : n.removes id = false)
    (hregisters : n.registers id = false) :
    n.leaves id (some e) =
      some { e with
        lastSeen := (n.sight? id).getD e.lastSeen
        load := (n.load? id).or e.load } := by
  cases n with
  | registered d t =>
      have h : ¬ d.id = id := by simpa [registers] using hregisters
      simp [leaves, sight?, load?, Ne.symm h]
  | deregistered id' | evicted id' =>
      have h : ¬ id' = id := by simpa [removes] using hremoves
      simp [leaves, sight?, load?, Ne.symm h]
  | seen id' load t =>
      by_cases h : id' = id
      · simp [leaves, sight?, load?, h, DataPlane.seen]
      · simp [leaves, sight?, load?, h, Ne.symm h]

end Notice

/-! ## Lists of notices -/

/-- The entry of an id after some notices. -/
def entryAfter (id : String) (entry : Option DataPlane) (notices : List Notice) :
    Option DataPlane :=
  notices.foldl (fun e n => n.leaves id e) entry

section Notices
variable {id : String} {notices : List Notice}

theorem entryAfter_append (entry : Option DataPlane) (before after : List Notice) :
    entryAfter id entry (before ++ after) = entryAfter id (entryAfter id entry before) after :=
  List.foldl_append

/-- An entry stays as long as no notice removes it. -/
theorem isSome_entryAfter {entry : Option DataPlane} (hentry : entry.isSome = true)
    (hstays : ∀ n ∈ notices, n.removes id = false) :
    (entryAfter id entry notices).isSome = true := by
  induction notices generalizing entry with
  | nil => exact hentry
  | cons n rest ih =>
      obtain ⟨hfirst, hrest⟩ := List.forall_mem_cons.1 hstays
      exact ih ((Notice.isSome_leaves_iff n id entry).2 (Or.inr ⟨hentry, hfirst⟩)) hrest

/-- A data plane that is there after some notices, and was not there before, has a last
registration among them, and was not removed after it. -/
theorem exists_registration (h : (entryAfter id none notices).isSome = true) :
    ∃ before d t after, notices = before ++ .registered d t :: after ∧ d.id = id ∧
      ∀ n ∈ after, n.removes id = false ∧ n.registers id = false := by
  induction notices using List.reverseRecOn with
  | nil => cases h
  | append_singleton notices n ih =>
      -- The last registration is this notice, or the last one before, which nothing undid since.
      rw [entryAfter_append] at h
      cases hregisters : n.registers id with
      | true =>
          cases n with
          | registered d t =>
              exact ⟨notices, d, t, [], rfl, beq_iff_eq.1 hregisters, nofun⟩
          | deregistered | seen | evicted => cases hregisters
      | false =>
          obtain ⟨hthere, hstays⟩ :=
            ((Notice.isSome_leaves_iff n id _).1 h).resolve_left (by simp [hregisters])
          obtain ⟨before, d, t, after, rfl, hid, hafter⟩ := ih hthere
          refine ⟨before, d, t, after ++ [n], by simp, hid, ?_⟩
          intro m hm
          rcases List.mem_append.1 hm with hm | hm
          · exact hafter m hm
          · rw [List.mem_singleton.1 hm]
            exact ⟨hstays, hregisters⟩

/-- What is there has a well formed descriptor, if what registers has one. -/
theorem validate_entryAfter {entry : Option DataPlane}
    (hentry : ∀ e, entry = some e → e.validate = .ok ())
    (hnotices : ∀ d t, .registered d t ∈ notices → d.validate = .ok ()) :
    ∀ e, entryAfter id entry notices = some e → e.validate = .ok () := by
  induction notices generalizing entry with
  | nil => exact hentry
  | cons n rest ih =>
      show ∀ e, entryAfter id (n.leaves id entry) rest = some e → e.validate = .ok ()
      refine ih ?_ fun d t hmem => hnotices d t (List.mem_cons_of_mem _ hmem)
      intro e he
      cases n with
      | registered d t =>
          simp only [Notice.leaves] at he
          split at he
          · cases he
            exact (DataPlane.validate_registered d t).trans (hnotices d t List.mem_cons_self)
          · exact hentry e he
      | deregistered id' | evicted id' =>
          simp only [Notice.leaves] at he
          split at he
          · cases he
          · exact hentry e he
      | seen id' load t =>
          simp only [Notice.leaves] at he
          split at he
          · obtain ⟨d, hd, rfl⟩ := Option.map_eq_some_iff.1 he
            exact (DataPlane.validate_seen d t load).trans (hentry d hd)
          · exact hentry e he

/-- Through notices that neither remove nor register it, an entry keeps its descriptor; when it was
seen and its load are as reported last. -/
theorem entryAfter_some (e : DataPlane)
    (hcalm : ∀ n ∈ notices, n.removes id = false ∧ n.registers id = false) :
    entryAfter id (some e) notices =
      some { e with
        lastSeen := (notices.filterMap (Notice.sight? id)).getLast?.getD e.lastSeen
        load := (notices.filterMap (Notice.load? id)).getLast?.or e.load } := by
  induction notices generalizing e with
  | nil => simp [entryAfter]
  | cons n rest ih =>
      obtain ⟨hfirst, hrest⟩ := List.forall_mem_cons.1 hcalm
      rw [show entryAfter id (some e) (n :: rest) = entryAfter id (n.leaves id (some e)) rest from
        rfl, Notice.leaves_some n e hfirst.1 hfirst.2, ih _ hrest]
      simp only [List.filterMap_cons]
      -- What is reported later takes the place of what this notice reports.
      cases n.sight? id <;> cases n.load? id <;> simp [List.getLast?_cons]

theorem entryAfter_registered (entry : Option DataPlane) (before after : List Notice)
    (d : DataPlane) (t : Instant) :
    entryAfter d.id entry (before ++ .registered d t :: after) =
      entryAfter d.id (some (d.registered t)) after := by
  rw [entryAfter_append, entryAfter, List.foldl_cons, Notice.leaves, if_pos rfl]
  rfl

end Notices

namespace Roster

variable {w : Roster} {a : Deed}

/-- What becomes known by a deed, from what is answered. -/
def told (w : Roster) : Deed → List Notice
  | .register d =>
      match (SiteM.register d w.site).1 with
      | .ok _ => [.registered d w.site.now]
      | .error _ => []
  | .deregister id =>
      match (SiteM.deregister id w.site).1 with
      | .ok () => [.deregistered id]
      | .error _ => []
  | .heartbeat id load =>
      match (SiteM.heartbeat id load w.site).1 with
      | .ok () => [.seen id load w.site.now]
      | .error _ => []
  | .goOn i => (w.dropped? i).toList.map .evicted
  | .sweep _ | .pass _ | .upkeep _ => []

/-- What becomes known in a run, in its order. -/
def history (w : Roster) : List Deed → List Notice
  | [] => []
  | a :: rest => w.told a ++ (w.act a).history rest

/-- A report of life becomes known if it comes from a data plane that is there. -/
theorem told_heartbeat (hw : w.IsOrderly) (id : String) (load : Option Nat) :
    w.told (.heartbeat id load) =
      if (w.find? id).isSome then [.seen id load w.site.now] else [] := by
  rw [told, SiteM.heartbeat_spec hw.calm, show w.site.dataPlanes.find? id = w.find? id from rfl]
  cases (w.find? id).isSome <;> rfl

/-- Only a data plane whose descriptor is well formed registers. -/
theorem validate_of_told_registered (hw : w.IsOrderly) {d : DataPlane} {t : Instant}
    (h : .registered d t ∈ w.told a) : d.validate = .ok () := by
  cases a with
  | register d' =>
      cases hvalid : d'.validate with
      | ok =>
          simp only [told, (SiteM.register_of_ok hw.calm hvalid).1, List.mem_singleton,
            Notice.registered.injEq] at h
          rw [h.1, hvalid]
      | error defect => simp [told, SiteM.register_of_error hvalid] at h
  | deregister id => simp [told, (SiteM.deregister_spec hw.calm id).1] at h
  | heartbeat id load =>
      rw [told_heartbeat hw] at h
      cases hthere : (w.find? id).isSome <;> simp [hthere] at h
  | goOn i => simp [told] at h
  | sweep | pass | upkeep => cases h

theorem validate_of_registered (hw : w.IsOrderly) {deeds : List Deed} {d : DataPlane}
    {t : Instant} (h : .registered d t ∈ w.history deeds) : d.validate = .ok () := by
  induction deeds generalizing w with
  | nil => cases h
  | cons a rest ih =>
      rcases List.mem_append.1 h with h | h
      · exact validate_of_told_registered hw h
      · exact ih (isOrderly_act hw a) h

/-- A deed does to each entry what becomes known by it. -/
theorem find?_act (hw : w.IsOrderly) (a : Deed) (id : String) :
    (w.act a).find? id = entryAfter id (w.find? id) (w.told a) := by
  rw [find?, (act_spec hw.calm a).1]
  cases a with
  | register d =>
      cases hvalid : d.validate with
      | ok =>
          simp only [accessed, hvalid, told, (SiteM.register_of_ok hw.calm hvalid).1, entryAfter,
            List.foldl_cons, List.foldl_nil, Notice.leaves]
          exact DataPlanes.find?_saved _ _ _
      | error defect =>
          simp only [accessed, hvalid, told, SiteM.register_of_error hvalid]
          rfl
  | deregister id' =>
      simp only [accessed, told, (SiteM.deregister_spec hw.calm id').1, entryAfter,
        List.foldl_cons, List.foldl_nil, Notice.leaves]
      exact DataPlanes.find?_deleted _ _ _
  | heartbeat id' load =>
      rw [accessed, DataPlanes.find?_touched, told_heartbeat hw]
      cases hfound : w.find? id' with
      | some d =>
          rw [Option.isSome_some, if_pos rfl]
          simp only [entryAfter, List.foldl_cons, List.foldl_nil, Notice.leaves]
          split
          · rename_i heq
            rw [heq]
            rfl
          · rfl
      | none =>
          rw [Option.isSome_none, if_neg Bool.false_ne_true]
          show _ = w.find? id
          split
          · rename_i heq
            rw [heq, hfound, show w.site.dataPlanes.find? id' = none from hfound, Option.map_none]
          · rfl
  | goOn i =>
      cases hdropped : w.dropped? i with
      | some id' =>
          simp only [accessed, hdropped, told, Option.toList_some, List.map_cons, List.map_nil,
            entryAfter, List.foldl_cons, List.foldl_nil, Notice.leaves]
          exact DataPlanes.find?_deleted _ _ _
      | none =>
          simp only [accessed, hdropped, told, Option.toList_none, List.map_nil]
          rfl
  | sweep | pass | upkeep => rfl

/-- The entry of an id after a run is what the history of the run says of it. -/
theorem find?_run (hw : w.IsOrderly) (deeds : List Deed) (id : String) :
    (w.run deeds).find? id = entryAfter id (w.find? id) (w.history deeds) := by
  induction deeds generalizing w with
  | nil => rfl
  | cons a rest ih =>
      rw [run_cons, ih (isOrderly_act hw a), find?_act hw, history, entryAfter, entryAfter,
        entryAfter, List.foldl_append]

/-- **The registry is what its history tells.**  Let data planes register, leave and report life,
and let sweeps begin and go on, in any order from an empty registry.  Then
* every entry is under its own id, with a well formed descriptor;
* an id is there exactly if after its last registration it has neither left nor been dropped;
* its entry has the descriptor of that registration, was seen when it was reported last since, at
  the registration if never, and has the load that was reported last since, the registered one if
  none was;
* a report of life is taken exactly if the id is there at that moment, and changes nothing if it
  is not. -/
theorem registry_tells_history (now : Instant) (capacity : Nat) (liveness : Option Int)
    (deeds : List Deed) :
    let t := (start now capacity liveness).run deeds
    let notices := (start now capacity liveness).history deeds
    (∀ e ∈ t.site.dataPlanes.records, e.2.id = e.1 ∧ e.2.validate = .ok ()) ∧
    (∀ id, (t.find? id).isSome = true ↔
      ∃ before d at' after, notices = before ++ .registered d at' :: after ∧ d.id = id ∧
        ∀ n ∈ after, n.removes id = false) ∧
    (∀ id e, t.find? id = some e →
      ∃ before d at' after, notices = before ++ .registered d at' :: after ∧ d.id = id ∧
        (∀ n ∈ after, n.removes id = false ∧ n.registers id = false) ∧
        e = { d with
          registeredAt := at'
          lastSeen := (after.filterMap (Notice.sight? id)).getLast?.getD at'
          load := (after.filterMap (Notice.load? id)).getLast?.or d.load }) ∧
    ∀ id load,
      ((SiteM.heartbeat id load t.site).1 = .ok () ↔ (t.find? id).isSome = true) ∧
      (t.find? id = none → (SiteM.heartbeat id load t.site).2 = t.site) := by
  intro t notices
  have hstart := isOrderly_start now capacity liveness
  have ht : t.IsOrderly := isOrderly_run hstart deeds
  have hfind : ∀ id, t.find? id = entryAfter id none notices := find?_run hstart deeds
  refine ⟨?_, ?_, ?_, ?_⟩
  · intro e he
    refine ⟨ht.isKeyed.id_eq e he, ?_⟩
    have hfound : t.find? e.1 = some e.2 := (Table.get?_eq_some_iff ht.isKeyed.isSorted).2 he
    rw [hfind] at hfound
    exact validate_entryAfter (fun _ he => by cases he)
      (fun d at' => validate_of_registered hstart) e.2 hfound
  · intro id
    rw [hfind]
    constructor
    · intro h
      obtain ⟨before, d, at', after, heq, hid, hafter⟩ := exists_registration h
      exact ⟨before, d, at', after, heq, hid, fun n hn => (hafter n hn).1⟩
    · rintro ⟨before, d, at', after, heq, rfl, hafter⟩
      rw [heq, entryAfter_registered]
      exact isSome_entryAfter rfl hafter
  · intro id e he
    rw [hfind] at he
    obtain ⟨before, d, at', after, heq, rfl, hafter⟩ :=
      exists_registration (by rw [he]; rfl)
    refine ⟨before, d, at', after, heq, rfl, hafter, ?_⟩
    rw [heq, entryAfter_registered, entryAfter_some _ hafter] at he
    exact (Option.some.inj he).symm
  · intro id load
    rw [SiteM.heartbeat_spec ht.calm]
    refine ⟨?_, ?_⟩
    · show (if (t.find? id).isSome then (.ok () : Except RegistryFault Unit)
        else .error (.unknown id)) = .ok () ↔ _
      cases (t.find? id).isSome <;> simp
    · intro hnone
      rw [DataPlanes.touch_of_find?_eq_none hnone]

/-- A data plane registers anew while the sweep that listed it as stale is still on its way, and is
spared; it leaves, a late report of life does not bring it back, and the entry of its third
registration has what that said and the load that was reported since. -/
theorem registry_tells_history_of_late_report :
    let url (u : String) : DataPlane := ⟨"a", u, [⟨"s3", "http"⟩], [], ⟨0⟩, ⟨0⟩, none⟩
    let deeds : List Deed :=
      [.register (url "http://one"), .pass ⟨200⟩, .sweep ⟨200⟩, .register (url "http://two"),
        .goOn 0, .deregister "a", .heartbeat "a" (some 7), .register (url "http://three"),
        .pass ⟨300⟩, .heartbeat "a" (some 3)]
    let begun := start ⟨0⟩ 4 (some 100)
    begun.history deeds =
        [.registered (url "http://one") ⟨0⟩, .registered (url "http://two") ⟨200⟩,
          .deregistered "a", .registered (url "http://three") ⟨200⟩, .seen "a" (some 3) ⟨300⟩] ∧
      ∃ e, (begun.run deeds).find? "a" = some e ∧ e.url = "http://three" ∧ e.load = some 3 ∧
        ∃ before d at' after, begun.history deeds = before ++ .registered d at' :: after ∧
          d.id = "a" ∧ (∀ n ∈ after, n.removes "a" = false ∧ n.registers "a" = false) ∧
          e = { d with
            registeredAt := at'
            lastSeen := (after.filterMap (Notice.sight? "a")).getLast?.getD at'
            load := (after.filterMap (Notice.load? "a")).getLast?.or d.load } := by
  intro url deeds begun
  have hhistory : begun.history deeds =
      [.registered (url "http://one") ⟨0⟩, .registered (url "http://two") ⟨200⟩,
        .deregistered "a", .registered (url "http://three") ⟨200⟩,
        .seen "a" (some 3) ⟨300⟩] := by
    decide +kernel
  have hfound : (begun.run deeds).find? "a" =
      some { url "http://three" with
        registeredAt := ⟨200⟩, lastSeen := ⟨300⟩, load := some 3 } := by
    decide +kernel
  obtain ⟨-, -, hentry, -⟩ := registry_tells_history ⟨0⟩ 4 (some 100) deeds
  exact ⟨hhistory, _, hfound, rfl, rfl, hentry "a" _ hfound⟩

end Roster
end Connector
