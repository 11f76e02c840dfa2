import Connector.Proofs.Registry.Roster

/-!
# What a sweep drops, whoever comes between

A sweep tests twice whether a data plane is stale: by the distance from when it was seen as it was
listed, and by a cutoff for the one that is there when its turn comes.  The two comparisons agree
(`not_isLive_iff`), so the second test decides alone: a data plane that reported life or registered
anew since the listing is spared.

What the sweep has as its result follows from an invariant of its steps (`isOn_run`): the list is
what was looked at and what is still ahead, and the dropped ids are among those looked at, in their
order.  A data plane that nobody touches is found as it was listed when its turn comes
(`mem_removals_of_untouched`).

* `eviction_exact` — which ids a sweep drops, has as its result and tells of.
-/

namespace Connector

/-- A sweep as of an instant has looked at some of what it listed, and dropped the data planes of
some ids, which it has as its result. -/
structure Sweep.IsOn (x : Sweep) (now cutoff : Instant) (listed done : List DataPlane)
    (ids : List String) : Prop where
  now_eq : x.now = now
  cutoff_eq : x.cutoff = cutoff
  listed_eq : listed = done ++ x.rest
  result_eq : x.result = .ok ids
  sublist : ids.Sublist (done.map (·.id))

/-- The ids that a sweep has as its result are in the order of the list, each once. -/
theorem Sweep.IsOn.pairwise {x : Sweep} {now cutoff : Instant} {listed done : List DataPlane}
    {ids : List String} (hon : x.IsOn now cutoff listed done ids)
    (hlisted : listed.Pairwise fun d e => d.id < e.id) : ids.Pairwise (· < ·) := by
  have hdone : done.Pairwise fun d e => d.id < e.id := by
    rw [hon.listed_eq] at hlisted
    exact (List.pairwise_append.1 hlisted).1
  exact (List.pairwise_map.2 hdone).sublist hon.sublist

/-- The two tests for what is stale agree. -/
theorem DataPlane.not_isLive_iff {now cutoff : Instant} {timeout : Int}
    (hcutoff : now.later? (-timeout) = some cutoff) (d : DataPlane) :
    d.isLive now (some timeout) = false ↔ d.lastSeen < cutoff := by
  have hnanos : cutoff.nanos = now.nanos + -timeout := Instant.later?_nanos hcutoff
  have hlt : d.lastSeen < cutoff ↔ d.lastSeen.nanos < cutoff.nanos := Iff.rfl
  rw [isLive, Option.all_some, decide_eq_false_iff_not, Int.not_le, hlt, Instant.since]
  omega

namespace Roster

/-- The id that the sweep of a number drops by a deed. -/
def removal (w : Roster) (i : Nat) : Deed → List String
  | .goOn j => if j = i then (w.dropped? i).toList else []
  | .register _ | .deregister _ | .heartbeat _ _ | .sweep _ | .pass _ | .upkeep _ => []

/-- The ids that the sweep of a number drops in a run, in the order of its steps. -/
def removals (w : Roster) (i : Nat) : List Deed → List String
  | [] => []
  | a :: rest => w.removal i a ++ (w.act a).removals i rest

variable {w : Roster} {a : Deed} {i : Nat} {x : Sweep} {now cutoff : Instant} {timeout : Int}
  {listed done : List DataPlane} {ids : List String} {d : DataPlane}

/-! ## Steps -/

/-- Whatever else happens leaves a sweep where it is. -/
theorem sweeps_act_of_ne (ha : a ≠ .goOn i) (hx : w.sweeps[i]? = some x) :
    (w.act a).sweeps[i]? = some x ∧ w.removal i a = [] := by
  cases a with
  | goOn j =>
      have hne : j ≠ i := fun h => ha (h ▸ rfl)
      refine ⟨?_, if_neg hne⟩
      simp only [act, goOn]
      cases w.sweeps[j]? with
      | none => exact hx
      | some y => exact (List.getElem?_set_ne hne).trans hx
  | sweep now =>
      have hlt : i < w.sweeps.length := (List.getElem?_eq_some_iff.1 hx).1
      exact ⟨(List.getElem?_append_left hlt).trans hx, rfl⟩
  | register | deregister | heartbeat | pass | upkeep => exact ⟨hx, rfl⟩

/-- The next step of a sweep as of an instant, which has listed another data plane: it drops that
data plane if it was stale as listed and is so now, and passes it over otherwise. -/
theorem isOn_goOn {rest : List DataPlane} (hw : w.IsOrderly)
    (hlive : w.site.liveness = some timeout) (hcutoff : now.later? (-timeout) = some cutoff)
    (hx : w.sweeps[i]? = some x) (hon : x.IsOn now cutoff listed done ids)
    (hrest : x.rest = d :: rest) :
    ∃ y, (w.act (.goOn i)).sweeps[i]? = some y ∧ y.rest = rest ∧
      y.IsOn now cutoff listed (done ++ [d]) (ids ++ w.removal i (.goOn i)) ∧
      (w.removal i (.goOn i) = [d.id] ↔
        d.lastSeen < cutoff ∧ w.site.dataPlanes.isStale d.id cutoff = true) := by
  have hset : ∀ y, (w.sweeps.set i y)[i]? = some y := fun y =>
    List.getElem?_set_self (List.getElem?_eq_some_iff.1 hx).1
  have hlisted : listed = done ++ [d] ++ rest := by
    rw [hon.listed_eq, hrest, List.append_assoc, List.singleton_append]
  have hremoval : w.removal i (.goOn i) = (w.dropped? i).toList := if_pos rfl
  have hstale := DataPlane.not_isLive_iff hcutoff d
  rcases goOn_cases hw.calm hx hrest with
    ⟨⟨hdead, hthere⟩, hdropped, hsweeps, -⟩ | ⟨hspared, hnone, heq⟩
  · rw [hlive, hon.now_eq] at hdead
    rw [hon.cutoff_eq] at hthere
    rw [hremoval, hdropped, hsweeps]
    refine ⟨_, hset _, rfl, ⟨hon.now_eq, hon.cutoff_eq, hlisted, ?_, ?_⟩, ?_⟩
    · rw [Sweep.advanced, hon.result_eq]
      rfl
    · rw [List.map_append]
      exact hon.sublist.append (List.Sublist.refl _)
    · exact iff_of_true rfl ⟨hstale.1 hdead, hthere⟩
  · rw [hlive, hon.now_eq, hon.cutoff_eq] at hspared
    rw [hremoval, hnone, heq]
    refine ⟨_, hset _, rfl, ⟨hon.now_eq, hon.cutoff_eq, hlisted, ?_, ?_⟩, ?_⟩
    · rw [Sweep.advanced, hon.result_eq]
      rfl
    · rw [List.map_append, Option.toList_none, List.append_nil]
      exact hon.sublist.trans (List.sublist_append_left _ _)
    · refine iff_of_false nofun ?_
      rintro ⟨hlt, hthere⟩
      rcases hspared with hlives | hfresh
      · rw [hstale.2 hlt] at hlives
        cases hlives
      · rw [hthere] at hfresh
        cases hfresh

/-- Every run takes a sweep further through its list, by what it drops in the run. -/
theorem isOn_run (hw : w.IsOrderly) (hlive : w.site.liveness = some timeout)
    (hcutoff : now.later? (-timeout) = some cutoff) (hx : w.sweeps[i]? = some x)
    (hon : x.IsOn now cutoff listed done ids) (deeds : List Deed) :
    ∃ y done', (w.run deeds).sweeps[i]? = some y ∧
      y.IsOn now cutoff listed done' (ids ++ w.removals i deeds) := by
  induction deeds generalizing w x done ids with
  | nil => exact ⟨x, done, hx, by rwa [removals, List.append_nil]⟩
  | cons a rest ih =>
      have hact := isOrderly_act hw a
      have hlive' := (liveness_act hw a).trans hlive
      rw [run_cons, removals, ← List.append_assoc]
      -- The sweep's own steps take it further; whatever else happens leaves it where it is.
      by_cases ha : a = .goOn i
      · subst ha
        cases hrest : x.rest with
        | nil =>
            obtain ⟨hsame, hnone⟩ := goOn_of_nil hx hrest
            have hremoval : w.removal i (.goOn i) = [] := by
              rw [removal, if_pos rfl, hnone, Option.toList_none]
            rw [hremoval, List.append_nil]
            exact ih hact hlive' (by rwa [hsame]) hon
        | cons d more =>
            obtain ⟨y, hy, -, hony, -⟩ := isOn_goOn hw hlive hcutoff hx hon hrest
            exact ih hact hlive' hy hony
      · obtain ⟨hsame, hnone⟩ := sweeps_act_of_ne ha hx
        rw [hnone, List.append_nil]
        exact ih hact hlive' hsame hon

/-- What the next step of a sweep does to the registry: nothing, or it takes out one data plane that
is stale at that moment, and tells of it. -/
theorem site_goOn (hw : w.IsOrderly) (hcutoff : now.later? (-timeout) = some cutoff)
    (hx : w.sweeps[i]? = some x) (hon : x.IsOn now cutoff listed done ids) :
    (w.removal i (.goOn i) = [] ∧ (w.act (.goOn i)).site = w.site) ∨
      ∃ d ∈ listed, ∃ e, w.removal i (.goOn i) = [d.id] ∧ w.find? d.id = some e ∧
        e.lastSeen < cutoff ∧ timeout < now.since e.lastSeen ∧
        (∀ id, (w.act (.goOn i)).find? id = if id = d.id then none else w.find? id) ∧
        (w.act (.goOn i)).site.bus =
          w.site.bus.publish (.dataPlane (.evicted d.id d.lastSeen now)) := by
  have hremoval : w.removal i (.goOn i) = (w.dropped? i).toList := if_pos rfl
  cases hrest : x.rest with
  | nil =>
      obtain ⟨hsame, hnone⟩ := goOn_of_nil hx hrest
      exact Or.inl ⟨by rw [hremoval, hnone, Option.toList_none], by rw [hsame]⟩
  | cons d rest =>
      rcases goOn_cases hw.calm hx hrest with ⟨⟨-, hthere⟩, hdropped, -, hsite⟩ | ⟨-, hnone, heq⟩
      · obtain ⟨e, he, hlt⟩ := DataPlanes.isStale_iff.1 hthere
        rw [hon.cutoff_eq] at hlt
        have hdead : e.isLive now (some timeout) = false :=
          (DataPlane.not_isLive_iff hcutoff e).2 hlt
        rw [DataPlane.isLive, Option.all_some, decide_eq_false_iff_not, Int.not_le] at hdead
        refine Or.inr ⟨d, ?_, e, ?_, he, hlt, hdead, ?_, ?_⟩
        · rw [hon.listed_eq, hrest]
          exact List.mem_append_right _ List.mem_cons_self
        · rw [hremoval, hdropped, Option.toList_some]
        · intro id
          rw [find?, hsite.dataPlanes_eq]
          exact DataPlanes.find?_deleted _ _ _
        · rw [hsite.bus_eq, hon.now_eq]
          rfl
      · exact Or.inl ⟨by rw [hremoval, hnone, Option.toList_none], by rw [heq]⟩

/-- What is ahead of a sweep, stale, and found as it was listed whoever else acts, is dropped by the
time the sweep has looked at everything. -/
theorem mem_removals_of_untouched (hw : w.IsOrderly) (hlive : w.site.liveness = some timeout)
    (hcutoff : now.later? (-timeout) = some cutoff) (hx : w.sweeps[i]? = some x)
    (hon : x.IsOn now cutoff listed done ids) (hlisted : listed.Pairwise fun d e => d.id < e.id)
    (hd : d ∈ x.rest) (hlt : d.lastSeen < cutoff) (hfound : w.find? d.id = some d)
    {deeds : List Deed} {y : Sweep} (hy : (w.run deeds).sweeps[i]? = some y) (hover : y.rest = [])
    (huntouched : ∀ before a after, deeds = before ++ a :: after → a ≠ .goOn i →
      ((w.run before).act a).find? d.id = (w.run before).find? d.id) :
    d.id ∈ w.removals i deeds := by
  induction deeds generalizing w x done ids with
  | nil =>
      have heq : x = y := Option.some.inj (hx.symm.trans hy)
      rw [heq, hover] at hd
      cases hd
  | cons a rest ih =>
      have hact := isOrderly_act hw a
      have hlive' := (liveness_act hw a).trans hlive
      have huntouched' : ∀ before b after, rest = before ++ b :: after → b ≠ .goOn i →
          (((w.act a).run before).act b).find? d.id = ((w.act a).run before).find? d.id :=
        fun before b after heq => huntouched (a :: before) b after (by rw [heq, List.cons_append])
      rw [removals, List.mem_append]
      by_cases ha : a = .goOn i
      · subst ha
        cases hrest : x.rest with
        | nil =>
            rw [hrest] at hd
            cases hd
        | cons next more =>
            obtain ⟨z, hz, hmore, honz, hremoval⟩ := isOn_goOn hw hlive hcutoff hx hon hrest
            rw [hrest] at hd
            rcases List.mem_cons.1 hd with rfl | hlater
            · have hstale : w.site.dataPlanes.isStale d.id cutoff = true :=
                DataPlanes.isStale_iff.2 ⟨d, hfound, hlt⟩
              exact Or.inl (by rw [hremoval.2 ⟨hlt, hstale⟩]; exact List.mem_singleton_self _)
            · -- The one that is looked at has another id, as each is listed once.
              have hne : d.id ≠ next.id := by
                rw [hon.listed_eq, hrest, List.pairwise_append, List.pairwise_cons] at hlisted
                exact (String.ne_of_lt (hlisted.2.1.1 d hlater)).symm
              have hfound' : (w.act (.goOn i)).find? d.id = some d := by
                rcases goOn_cases hw.calm hx hrest with ⟨-, -, -, hsite⟩ | ⟨-, -, heq⟩
                · rw [find?, hsite.dataPlanes_eq, DataPlanes.find?_deleted, if_neg hne]
                  exact hfound
                · rw [heq]
                  exact hfound
              exact Or.inr (ih hact hlive' hz honz (by rwa [hmore]) hfound' hy huntouched')
      · obtain ⟨hsame, -⟩ := sweeps_act_of_ne ha hx
        have hfound' : (w.act a).find? d.id = some d :=
          (huntouched [] a rest rfl ha).trans hfound
        exact Or.inr (ih hact hlive' hsame hon hd hfound' hy huntouched')

/-! ## A whole sweep -/

/-- A sweep that begins has everything ahead of it. -/
theorem isOn_sweep (hw : w.IsOrderly) (hlive : w.site.liveness = some timeout)
    (hcutoff : now.later? (-timeout) = some cutoff) :
    ∃ x, (w.act (.sweep now)).sweeps[w.sweeps.length]? = some x ∧
      x.rest = w.site.dataPlanes.list ∧ x.IsOn now cutoff w.site.dataPlanes.list [] [] := by
  have hstart := start_eq hw.calm hlive hcutoff
  refine ⟨⟨now, cutoff, w.site.dataPlanes.list, .ok []⟩, ?_, rfl, ⟨rfl, rfl, rfl, rfl, .slnil⟩⟩
  rw [act, hstart]
  exact List.getElem?_concat_length

/-- **A sweep drops what is stale, and nothing else.**  Let a sweep begin as of an instant, and let
data planes register, leave and report life, and other sweeps go on, between any two of its steps.
Then at every moment
* its result are the ids that its steps dropped so far, each once, in their order;
* its next step either leaves the registry and the bus as they are, or drops one id: the entry of
  this id was last seen before the cutoff, longer ago than the timeout, it is gone afterwards, no
  other entry changes, and one event tells of it.
When it has looked at everything it listed, then every data plane that was listed as stale, and
whose entry nobody else changed, was dropped. -/
theorem eviction_exact (hw : w.IsOrderly) (hlive : w.site.liveness = some timeout)
    (hcutoff : now.later? (-timeout) = some cutoff) (deeds : List Deed) :
    let i := w.sweeps.length
    let begun := w.act (.sweep now)
    let dropped := begun.removals i deeds
    let t := begun.run deeds
    dropped.Pairwise (· < ·) ∧
    (∃ x, t.sweeps[i]? = some x ∧ x.result = .ok dropped ∧
      (x.rest = [] → ∀ d, w.find? d.id = some d → timeout < now.since d.lastSeen →
        (∀ before a after, deeds = before ++ a :: after → a ≠ .goOn i →
          ((begun.run before).act a).find? d.id = (begun.run before).find? d.id) →
        d.id ∈ dropped)) ∧
    ((t.removal i (.goOn i) = [] ∧ (t.act (.goOn i)).site = t.site) ∨
      ∃ d ∈ w.site.dataPlanes.list, ∃ e, t.removal i (.goOn i) = [d.id] ∧
        t.find? d.id = some e ∧ e.lastSeen < cutoff ∧ timeout < now.since e.lastSeen ∧
        (∀ id, (t.act (.goOn i)).find? id = if id = d.id then none else t.find? id) ∧
        (t.act (.goOn i)).site.bus =
          t.site.bus.publish (.dataPlane (.evicted d.id d.lastSeen now))) := by
  intro i begun dropped t
  have hbegun : begun.IsOrderly := isOrderly_act hw _
  have hlive' : begun.site.liveness = some timeout := (liveness_act hw _).trans hlive
  have hlisted := DataPlanes.pairwise_list hw.isKeyed
  obtain ⟨x, hx, hrest, hon⟩ := isOn_sweep hw hlive hcutoff
  obtain ⟨y, done, hy, hony⟩ := isOn_run hbegun hlive' hcutoff hx hon deeds
  refine ⟨hony.pairwise hlisted, ⟨y, hy, hony.result_eq, ?_⟩, ?_⟩
  · intro hover d hd hdead huntouched
    have hfound : begun.find? d.id = some d := by
      rw [find?, (act_spec hw.calm _).1]
      exact hd
    have hlt : d.lastSeen < cutoff := by
      rw [← DataPlane.not_isLive_iff hcutoff, DataPlane.isLive, Option.all_some,
        decide_eq_false_iff_not, Int.not_le]
      exact hdead
    exact mem_removals_of_untouched hbegun hlive' hcutoff hx hon hlisted
      (by rw [hrest]; exact (DataPlanes.mem_list_iff hw.isKeyed).2 hd) hlt hfound hy hover
      huntouched
  · exact site_goOn (isOrderly_run hbegun deeds) hcutoff hy hony

/-- Of three data planes two are listed as stale; one of them reports life before its turn, and the
other one is dropped. -/
theorem eviction_exact_of_late_report :
    let plane (id : String) : DataPlane :=
      ⟨id, "http://" ++ id, [⟨"s3", "http"⟩], [], ⟨0⟩, ⟨0⟩, none⟩
    let w := (start ⟨0⟩ 4 (some 100)).run
      [.register (plane "a"), .register (plane "b"), .pass ⟨200⟩, .register (plane "c")]
    let deeds : List Deed := [.goOn 0, .heartbeat "b" none, .goOn 0, .goOn 0]
    let begun := w.act (.sweep ⟨200⟩)
    begun.removals 0 deeds = ["a"] ∧
      (∃ x, (begun.run deeds).sweeps[0]? = some x ∧ x.result = .ok ["a"]) ∧
      (∃ d e, d ∈ w.site.dataPlanes.list ∧ begun.removal 0 (.goOn 0) = [d.id] ∧
        begun.find? d.id = some e ∧ e.lastSeen < ⟨100⟩) := by
  intro plane w deeds begun
  have hw : w.IsOrderly := isOrderly_run (isOrderly_start _ _ _) _
  have hlive : w.site.liveness = some 100 := liveness_run (isOrderly_start _ _ _) _
  have hcutoff : (⟨200⟩ : Instant).later? (-100) = some ⟨100⟩ := by decide +kernel
  have hdropped : begun.removals 0 deeds = ["a"] := by decide +kernel
  obtain ⟨-, ⟨x, hx, hresult, -⟩, -⟩ := eviction_exact hw hlive hcutoff deeds
  obtain ⟨-, -, hstep⟩ := eviction_exact hw hlive hcutoff []
  refine ⟨hdropped, ⟨x, hx, hresult.trans (congrArg Except.ok hdropped)⟩, ?_⟩
  rcases hstep with ⟨hnone, -⟩ | ⟨d, hd, e, hremoval, he, hlt, -⟩
  · have hsome : begun.removal 0 (.goOn 0) = ["a"] := by decide +kernel
    rw [show begun.removal 0 (.goOn 0) = [] from hnone] at hsome
    cases hsome
  · exact ⟨d, e, hd, hremoval, he, hlt⟩

end Roster
end Connector
