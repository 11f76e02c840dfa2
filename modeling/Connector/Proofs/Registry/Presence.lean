import Connector.Proofs.Site.Opening
import Connector.Proofs.Site.Sparing

/-!
# A data plane that was seen in time

The data plane of an id is there, and was seen at some instant or later.  Reports of life only
bring that instant forward, a registration under the id does too, and a sweep that looks back no
further than that instant leaves the data plane where it is.  Statements:

* `keeps_heartbeat`, `keeps_register`, `keeps_evictStale` — what is done at the registry keeps a
  data plane that was seen in time;
* `sees_heartbeat` — it was seen just now once it has reported life;
* `Site.Sees.isSelectable` — it can be selected for all that it can serve.
-/

namespace Connector

/-- A data plane is registered, is live, and stands for selection wherever it can serve; a data
plane is selected then. -/
structure Site.IsSelectable (s : Site) (d : DataPlane) : Prop where
  isRegistered : s.dataPlanes.find? d.id = some d
  isLive : d.isLive s.now s.liveness = true
  mem_candidates : ∀ need score, d.specificity need = some score →
    ⟨score, d⟩ ∈ DataPlane.candidates s.dataPlanes.list need s.now s.liveness
  exists_select : ∀ need score, d.specificity need = some score →
    ∃ d', (SiteM.select need s).1 = .ok d'

/-- No sweep as of an instant looks back further than to another. -/
def Instant.IsRecent (since now : Instant) (liveness : Option Int) : Prop :=
  ∀ timeout, liveness = some timeout → now.nanos - timeout ≤ since.nanos

/-- The data plane of an id is there, was seen at an instant or later, and has a property; it is
a certain time, the timeout is a certain one, and no access is arranged to fail. -/
structure Site.Sees (id : String) (q : DataPlane → Prop) (liveness : Option Int)
    (since now : Instant) (s : Site) : Prop where
  calm : s.failing = []
  now_eq : s.now = now
  liveness_eq : s.liveness = liveness
  entry : ∃ d, s.dataPlanes.find? id = some d ∧ since ≤ d.lastSeen ∧ q d

variable {id : String} {q : DataPlane → Prop} {liveness : Option Int} {since now : Instant}
  {s t : Site}

theorem Site.isOfRegistry_sees : Site.IsOfRegistry (Site.Sees id q liveness since now) where
  calm _ hs := hs.calm
  congr s t h hs :=
    ⟨h.failing_eq.trans hs.calm, h.now_eq.trans hs.now_eq, h.liveness_eq.trans hs.liveness_eq,
      by rw [h.dataPlanes_eq]; exact hs.entry⟩

theorem Site.Sees.of_becomes {r : DataPlanes} {es : List Event} (hs : s.Sees id q liveness since now)
    (h : s.Becomes r es t) (hentry : ∃ d, r.find? id = some d ∧ since ≤ d.lastSeen ∧ q d) :
    t.Sees id q liveness since now :=
  ⟨h.failing_eq.trans hs.calm, h.now_eq.trans hs.now_eq, h.liveness_eq.trans hs.liveness_eq,
    by rw [h.dataPlanes_eq]; exact hentry⟩

theorem Site.Sees.mono {earlier : Instant} (hs : s.Sees id q liveness since now)
    (h : earlier ≤ since) : s.Sees id q liveness earlier now := by
  obtain ⟨d, hfind, hseen, hd⟩ := hs.entry
  exact ⟨hs.calm, hs.now_eq, hs.liveness_eq, d, hfind, Int.le_trans h hseen, hd⟩

/-! ## Selection -/

theorem DataPlane.isLive_of_isRecent {d : DataPlane} (hrecent : since.IsRecent now liveness)
    (hseen : since ≤ d.lastSeen) : d.isLive now liveness = true := by
  cases liveness with
  | none => rfl
  | some timeout =>
      have hage : now.nanos - timeout ≤ since.nanos := hrecent timeout rfl
      have hseen' : since.nanos ≤ d.lastSeen.nanos := hseen
      have hlive : now.since d.lastSeen ≤ timeout := by
        rw [Instant.since]
        omega
      simpa [DataPlane.isLive] using hlive

/-- A data plane that was seen recently can be selected. -/
theorem Site.Sees.isSelectable (hs : s.Sees id (fun d => d.id = id ∧ q d) liveness since now)
    (hrecent : since.IsRecent now liveness) :
    ∃ d, s.dataPlanes.find? id = some d ∧ s.IsSelectable d ∧ q d := by
  obtain ⟨d, hfind, hseen, hid, hd⟩ := hs.entry
  have hlive : d.isLive s.now s.liveness = true := by
    rw [hs.now_eq, hs.liveness_eq]
    exact DataPlane.isLive_of_isRecent hrecent hseen
  have hmem : d ∈ s.dataPlanes.list := List.mem_map.2 ⟨_, Table.mem_of_get?_eq_some hfind, rfl⟩
  have hcandidate : ∀ need score, d.specificity need = some score →
      ⟨score, d⟩ ∈ DataPlane.candidates s.dataPlanes.list need s.now s.liveness := by
    intro need score hscore
    refine List.mem_filterMap.2 ⟨d, List.mem_filter.2 ⟨hmem, hlive⟩, ?_⟩
    rw [hscore, Option.map_some]
  refine ⟨d, hfind, ⟨by rw [hid]; exact hfind, hlive, hcandidate, ?_⟩, hd⟩
  intro need score hscore
  obtain ⟨d', hselect⟩ :
      ∃ d', DataPlane.select s.dataPlanes.list need s.now s.liveness = some d' := by
    have hmem' := hcandidate need score hscore
    unfold DataPlane.select
    cases h : DataPlane.candidates s.dataPlanes.list need s.now s.liveness with
    | nil =>
        rw [h] at hmem'
        cases hmem'
    | cons first rest => exact ⟨_, rfl⟩
  refine ⟨d', ?_⟩
  have heq : SiteM.select need s = _ :=
    (SiteM.bind_eq (SiteM.listDataPlanes_eq hs.calm)).trans (SiteM.bind_eq (SiteM.get_eq s))
  rw [heq, hselect]
  rfl

namespace SiteM

/-! ## Registering and reporting life -/

section Reports
variable (hq : ∀ d t load, q d → q (d.seen t load))
include hq

/-- A report of life, whoever it is of, does not make anybody seen any earlier. -/
theorem keeps_heartbeat (hsince : since ≤ now) (other : String) (load : Option Nat) :
    Keeps (heartbeat other load) (Site.Sees id q liveness since now) := by
  intro s hs
  rw [heartbeat_spec hs.calm]
  refine ⟨hs.calm, hs.now_eq, hs.liveness_eq, ?_⟩
  obtain ⟨d, hfind, hseen, hd⟩ := hs.entry
  dsimp only
  rw [DataPlanes.find?_touched]
  split
  · rename_i hsame
    rw [← hsame, hfind, hs.now_eq]
    exact ⟨_, rfl, hsince, hq d _ _ hd⟩
  · exact ⟨d, hfind, hseen, hd⟩

/-- A data plane that reports life was seen just now. -/
theorem sees_heartbeat (hs : s.Sees id q liveness since now) (load : Option Nat) :
    ∃ t, heartbeat id load s = (.ok (), t) ∧ t.Sees id q liveness now now := by
  obtain ⟨d, hfind, -, hd⟩ := hs.entry
  refine ⟨{ s with dataPlanes := (s.dataPlanes.touch id s.now load).2 }, ?_,
    hs.calm, hs.now_eq, hs.liveness_eq, ?_⟩
  · rw [heartbeat_spec hs.calm, hfind]
    rfl
  · refine ⟨d.seen now load, ?_, Int.le_refl _, hq d _ _ hd⟩
    rw [DataPlanes.find?_touched, if_pos rfl, hfind, hs.now_eq, Option.map_some]

end Reports

/-- Whoever registers was seen just now. -/
theorem keeps_register (hsince : since ≤ now) (d : DataPlane)
    (hd : d.id = id → q (d.registered now)) :
    Keeps (register d) (Site.Sees id q liveness since now) := by
  intro s hs
  cases hvalid : d.validate with
  | error defect =>
      rw [register_of_error hvalid]
      exact hs
  | ok =>
      refine hs.of_becomes (register_of_ok hs.calm hvalid).2 ?_
      rw [DataPlanes.find?_saved, hs.now_eq]
      split
      · rename_i hsame
        exact ⟨_, rfl, hsince, hd hsame.symm⟩
      · exact hs.entry

/-! ## Sweeping -/

/-- A look at one listed data plane drops nobody who was seen since the cutoff. -/
theorem sees_evictOne {cutoff : Instant} (hcutoff : cutoff ≤ since)
    (hs : s.Sees id q liveness since now) (t : Instant) (d : DataPlane) :
    (evictOne t cutoff d s).2.Sees id q liveness since now ∧
      ∃ dropped, (evictOne t cutoff d s).1 = .ok dropped ∧ dropped ≠ some id := by
  rcases evictOne_cases hs.calm t cutoff d with ⟨⟨-, hstale⟩, hanswer, hbecomes⟩ | ⟨-, hnothing⟩
  · -- The entry that is stale is another one, since this one is not.
    have hother : d.id ≠ id := by
      rintro hsame
      rw [hsame] at hstale
      obtain ⟨e, hfind, hold⟩ := DataPlanes.isStale_iff.1 hstale
      obtain ⟨e', hfind', hseen, -⟩ := hs.entry
      cases hfind.symm.trans hfind'
      have hold' : e.lastSeen.nanos < cutoff.nanos := hold
      have hseen' : since.nanos ≤ e.lastSeen.nanos := hseen
      have hcutoff' : cutoff.nanos ≤ since.nanos := hcutoff
      omega
    refine ⟨hs.of_becomes hbecomes ?_, some d.id, hanswer, by simpa using hother⟩
    rw [DataPlanes.find?_deleted, if_neg (Ne.symm hother)]
    exact hs.entry
  · rw [hnothing]
    exact ⟨hs, none, rfl, nofun⟩

theorem sees_evictEach {cutoff : Instant} (hcutoff : cutoff ≤ since)
    (hs : s.Sees id q liveness since now) (t : Instant) (listed : List DataPlane) :
    (evictEach t cutoff listed s).2.Sees id q liveness since now ∧
      ∃ ids, (evictEach t cutoff listed s).1 = .ok ids ∧ id ∉ ids := by
  induction listed generalizing s with
  | nil => exact ⟨hs, [], rfl, List.not_mem_nil⟩
  | cons d rest ih =>
      obtain ⟨hfirst, dropped, hanswer, hother⟩ := sees_evictOne hcutoff hs t d
      obtain ⟨hrest, more, hmore, hnot⟩ := ih hfirst
      rw [evictEach_cons hanswer hmore]
      refine ⟨hrest, _, rfl, ?_⟩
      rw [List.mem_append, Option.mem_toList]
      exact not_or.2 ⟨fun h => hother h, hnot⟩

/-- A sweep drops nobody who was seen recently. -/
theorem sees_evictStale {t : Instant} (hrecent : since.IsRecent t liveness)
    (hs : s.Sees id q liveness since now) :
    (evictStale t s).2.Sees id q liveness since now ∧
      ∀ ids, (evictStale t s).1 = .ok ids → id ∉ ids := by
  cases liveness with
  | none =>
      rw [evictStale_of_none hs.liveness_eq]
      refine ⟨hs, fun ids h => ?_⟩
      cases h
      exact List.not_mem_nil
  | some timeout =>
      cases hcutoff : t.later? (-timeout) with
      | none =>
          rw [evictStale_of_beyond hs.liveness_eq hcutoff]
          exact ⟨hs, nofun⟩
      | some cutoff =>
          rw [evictStale_eq hs.calm hs.liveness_eq hcutoff]
          have hnanos : cutoff.nanos = t.nanos + -timeout := Instant.later?_nanos hcutoff
          have hage : t.nanos - timeout ≤ since.nanos := hrecent timeout rfl
          have hearlier : cutoff ≤ since := by
            show cutoff.nanos ≤ since.nanos
            omega
          obtain ⟨hkept, ids, hanswer, hnot⟩ :=
            sees_evictEach hearlier hs t s.dataPlanes.list
          refine ⟨hkept, fun ids' h => ?_⟩
          cases hanswer.symm.trans h
          exact hnot

theorem keeps_evictStale (hrecent : since.IsRecent now liveness) :
    Keeps (evictStale now) (Site.Sees id q liveness since now) :=
  fun _ hs => (sees_evictStale hrecent hs).1

end SiteM
end Connector
