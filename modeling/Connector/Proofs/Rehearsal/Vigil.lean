import Connector.Proofs.Rehearsal.Starting
import Connector.Proofs.Rehearsal.Vouching

/-!
# Configured data planes stay selectable

Nobody but the keeper vouches for a configured data plane, and the sweeper may come first at any
tick.  What carries the argument is the time at which the keeper comes back: it lies ahead, by no
more than the pause between two ticks, and the data plane was seen no longer than one pause before
it.  So the data plane was always seen within the last pause, and a timeout that is not shorter
than the pause spares it, even where the two are equal and the sweeper goes first.

* `Play.isWatched_act`, `Play.isWatched_run` — the invariant through a cue and through a run;
* `configured_stay_selectable` — no configured data plane is ever dropped, and every one of them
  can be selected at every instant.
-/

namespace Connector

/-- The same data plane, whenever it was seen last and whatever its load. -/
def DataPlane.IsSame (d e : DataPlane) : Prop := { d with lastSeen := e.lastSeen, load := e.load } = e

theorem DataPlane.IsSame.seen {d e : DataPlane} (h : d.IsSame e) (t : Instant)
    (load : Option Nat) : d.IsSame (e.seen t load) :=
  congrArg (DataPlane.seen · t load) h

/-- The pause is not longer than the timeout, if there is one. -/
def Span.Within (interval : Span) (liveness : Option Int) : Prop :=
  ∀ timeout, liveness = some timeout → (interval.nanos : Int) ≤ timeout

namespace Rehearsal

variable {id : String} {q : DataPlane → Prop} {liveness : Option Int} {since now due : Instant}
  {interval : Span} {s : Stage}

/-! ## The invariant -/

/-- A keeper comes back at an instant that is not past yet and at most a pause ahead; the data
plane of an id was seen at most a pause before it. -/
structure Play.IsWatched (p : Play) (id : String) (q : DataPlane → Prop) (liveness : Option Int)
    (interval : Span) (due now : Instant) : Prop where
  sees : p.stage.site.Sees id q liveness ⟨due.nanos - interval.nanos⟩ now
  exists_keeper : ∃ (i : Nat) (u : Task), p.tasks[i]? = some u ∧ u.VouchesAt id interval due
  now_le : now ≤ due
  le_now : due.nanos - interval.nanos ≤ now.nanos

namespace Play

variable {p : Play} {a : Cue} {k : Nat}

theorem IsWatched.isRecent (hp : p.IsWatched id q liveness interval due now)
    (hwithin : Span.Within interval liveness) :
    Instant.IsRecent ⟨due.nanos - interval.nanos⟩ now liveness := by
  intro timeout htimeout
  have hlong := hwithin timeout htimeout
  have hnow : now.nanos ≤ due.nanos := hp.now_le
  show now.nanos - timeout ≤ due.nanos - interval.nanos
  omega

/-- What is done at the site keeps the watch if it keeps the data plane in sight. -/
theorem IsWatched.of_keeps {α : Type} {m : SiteM α}
    (hp : p.IsWatched id q liveness interval due now)
    (h : SiteM.Keeps m (Site.Sees id q liveness ⟨due.nanos - interval.nanos⟩ now)) :
    (p.atSite m).IsWatched id q liveness interval due now :=
  ⟨h _ hp.sees, hp.exists_keeper, hp.now_le, hp.le_now⟩

/-- The clock stops for the keeper. -/
theorem isWatched_pass (hp : p.IsWatched id q liveness interval due now) (t : Instant) :
    ∃ now', (p.pass t).IsWatched id q liveness interval due now' := by
  unfold pass
  split
  · rename_i h
    obtain ⟨hlater, hleast⟩ := h
    refine ⟨t, ⟨hp.sees.calm, rfl, hp.sees.liveness_eq, hp.sees.entry⟩, hp.exists_keeper, ?_, ?_⟩
    · obtain ⟨i, u, hget, hvouches⟩ := hp.exists_keeper
      obtain ⟨timer, htimers, hdue⟩ := hvouches.exists_timer
      rw [← hdue]
      refine hleast timer (List.mem_flatMap.2 ⟨u, List.mem_of_getElem? hget, ?_⟩)
      rw [htimers]
      exact List.mem_singleton_self _
    · have hnow : p.now = now := hp.sees.now_eq
      have hlater' : now.nanos ≤ t.nanos := by
        rw [← hnow]
        exact hlater
      exact Int.le_trans hp.le_now hlater'
  · exact ⟨now, hp⟩

section Watch
variable (hq : ∀ d t load, q d → q (d.seen t load)) (hwhole : interval.nanos = k * 1000000)
  (hwithin : Span.Within interval liveness)
include hq hwhole hwithin

/-- A task that goes on keeps the watch: the keeper, since it vouches in time, and every other,
since what it may drop was not seen for longer. -/
theorem isWatched_wake (hp : p.IsWatched id q liveness interval due now) (i : Nat) :
    ∃ due' now', (p.wake i).IsWatched id q liveness interval due' now' := by
  have hrecent := hp.isRecent hwithin
  have hsince : (⟨due.nanos - interval.nanos⟩ : Instant) ≤ now := hp.le_now
  obtain ⟨j, keeper, hkeeper, hvouches⟩ := hp.exists_keeper
  unfold wake
  split
  · exact ⟨due, now, hp⟩
  · rename_i u hget
    split
    · rename_i hisDue
      by_cases hij : i = j
      · -- The keeper itself goes on, at the very instant it was due.
        cases hij
        cases hkeeper.symm.trans hget
        have hnow : p.now = now := hp.sees.now_eq
        rw [hnow] at hisDue
        cases hvouches.due_eq hisDue hp.now_le
        obtain ⟨u', t, hwake, hvouches', hsees⟩ :=
          StageM.wake_keeper hq hwhole hsince hvouches hp.sees
        have hback : now.nanos + (interval.nanos : Int) - interval.nanos = now.nanos :=
          Int.add_sub_cancel _ _
        have hlength : i < p.tasks.length := (List.getElem?_eq_some_iff.1 hget).1
        rw [hwake]
        refine ⟨⟨now.nanos + interval.nanos⟩, now, ?_,
          ⟨i, u', List.getElem?_set_self hlength, hvouches'⟩, ?_, Int.le_of_eq hback⟩
        · dsimp only
          rw [hback]
          exact hsees
        · show now.nanos ≤ now.nanos + interval.nanos
          omega
      · have hstays : ∀ u', (p.tasks.set i u')[j]? = some keeper := fun u' => by
          rw [List.getElem?_set_ne hij, hkeeper]
        cases hwake : StageM.wake u p.stage with
        | error why =>
            exact ⟨due, now, hp.sees, ⟨j, keeper, hstays _, hvouches⟩, hp.now_le, hp.le_now⟩
        | ok r =>
            exact ⟨due, now, StageM.keeps_wake hq hsince hrecent u _ r.1 r.2 hp.sees hwake,
              ⟨j, keeper, hstays _, hvouches⟩, hp.now_le, hp.le_now⟩
    · exact ⟨due, now, hp⟩

/-- **Every cue keeps the watch.** -/
theorem isWatched_act (hp : p.IsWatched id q liveness interval due now)
    (hregister : ∀ d, a = .register d → d.id = id → ∀ t, q (d.registered t)) :
    ∃ due' now', (p.act a).IsWatched id q liveness interval due' now' := by
  have hrecent := hp.isRecent hwithin
  have hsince : (⟨due.nanos - interval.nanos⟩ : Instant) ≤ now := hp.le_now
  cases a with
  | wake i => exact isWatched_wake hq hwhole hwithin hp i
  | pass t => exact ⟨due, isWatched_pass hp t⟩
  | register d =>
      exact ⟨due, now, hp.of_keeps (SiteM.keeps_register hsince d fun hid =>
        hregister d rfl hid now)⟩
  | heartbeat other load => exact ⟨due, now, hp.of_keeps (SiteM.keeps_heartbeat hq hsince _ _)⟩
  | sweep =>
      have hnow : p.now = now := hp.sees.now_eq
      rw [act, hnow]
      exact ⟨due, now, hp.of_keeps (SiteM.keeps_evictStale hrecent)⟩
  | upkeep f =>
      exact ⟨due, now, ⟨hp.sees.calm, hp.sees.now_eq, hp.sees.liveness_eq, hp.sees.entry⟩,
        hp.exists_keeper, hp.now_le, hp.le_now⟩

/-- **Every run keeps the watch.** -/
theorem isWatched_run (cues : List Cue) (hp : p.IsWatched id q liveness interval due now)
    (hregister : ∀ d, .register d ∈ cues → d.id = id → ∀ t, q (d.registered t)) :
    ∃ due' now', (p.run cues).IsWatched id q liveness interval due' now' := by
  induction cues generalizing p due now with
  | nil => exact ⟨due, now, hp⟩
  | cons a rest ih =>
      obtain ⟨due', now', hact⟩ := isWatched_act hq hwhole hwithin hp
        fun d h => hregister d (h ▸ List.mem_cons_self)
      exact ih hact fun d h => hregister d (List.mem_cons_of_mem _ h)

end Watch

/-- Tasks that have not run yet watch over a data plane that was just seen, if there is a keeper
that vouches for it. -/
theorem isWatched_spawnAll {duties : List Duty} {tasks : List Task} {t : Stage}
    {ds : List DataPlane} (hs : s.site.Sees id q liveness now now)
    (hspawn : StageM.spawnAll duties s = .ok (tasks, t))
    (hkeeper : .keeper interval ds ∈ duties) (hid : id ∈ ds.map (·.id)) :
    (⟨t, tasks⟩ : Play).IsWatched id q liveness interval now now := by
  obtain ⟨tasks', t', hspawn', hsite, hduties, hfresh⟩ := StageM.spawnAll_spec duties s
  cases hspawn.symm.trans hspawn'
  rw [← hduties] at hkeeper
  obtain ⟨u, hu, hduty⟩ := List.mem_map.1 hkeeper
  obtain ⟨timer, hphase, hdue⟩ := hfresh u hu
  obtain ⟨i, hget⟩ := List.mem_iff_getElem?.1 hu
  have hearlier : (⟨now.nanos - interval.nanos⟩ : Instant) ≤ now := by
    show now.nanos - interval.nanos ≤ now.nanos
    omega
  refine ⟨?_, ⟨i, u, hget, ds, timer, hduty, hid, hdue.trans hs.now_eq, Or.inl hphase⟩,
    Int.le_refl _, hearlier⟩
  rw [hsite]
  exact hs.mono hearlier

end Play

/-! ## From the configuration on -/

namespace StageM

variable {m : Config.Manifest} {env : Config.Environment} {reason : String}

/-- A connector that opened has its duties from the data planes that registered. -/
theorem exists_of_openStage {duties : List Duty} {t : Stage}
    (h : openStage m env reason s = .ok (.ok duties, t)) :
    ∃ ds, (SiteM.openWith m env reason s.site).1 = .ok ds ∧ duties = dutiesOf m t ds := by
  obtain ⟨answer, u, hopen, hrest⟩ := exists_of_bind_ok h
  cases hopen
  cases hanswer : (SiteM.openWith m env reason s.site).1 with
  | error e =>
      rw [hanswer] at hrest
      cases hrest
  | ok ds =>
      rw [hanswer] at hrest
      cases hrest
      exact ⟨ds, rfl, rfl⟩

end StageM

theorem keeper_mem_dutiesOf {m : Config.Manifest} {ds : List DataPlane}
    (h : m.spec.dataPlanes.livenessTimeout ≠ none) (hds : ds ≠ []) :
    .keeper m.spec.dataPlanes.sweepInterval ds ∈ dutiesOf m s ds := by
  refine List.mem_append_right _ ?_
  unfold upkeep
  rw [if_neg (by simpa using h), if_neg (by simpa using hds)]
  exact List.mem_cons_of_mem _ (List.mem_singleton_self _)

/-- The timeout of a configuration is not shorter than its pause, if it is not too long for a
timeout. -/
theorem within_livenessDistance? {r : Config.Registry} {timeout : Span}
    (htimeout : r.livenessTimeout = some timeout)
    (hlong : r.sweepInterval.nanos ≤ timeout.nanos) :
    r.sweepInterval.Within r.livenessDistance? := by
  intro distance h
  rw [Config.Registry.livenessDistance?, htimeout, Option.bind_some, Span.toDistance?] at h
  split at h
  · cases h
    exact Int.ofNat_le.2 hlong
  · cases h

theorem Play.opened?_eq {m : Config.Manifest} {env : Config.Environment} {reason : String}
    {duties : List Duty} {tasks : List Task} {t : Stage}
    (hopen : StageM.openStage m env reason (.ofManifest m now) = .ok (.ok duties, s))
    (hstart : StageM.start duties s = .ok (tasks, t)) :
    Play.opened? m env reason now = some ⟨t, tasks⟩ := by
  rw [opened?, hopen]
  dsimp only
  rw [hstart]
  rfl

/-- **Configured data planes stay selectable.**  Let a configuration be in order, with records in
memory and a timeout not shorter than the pause between two sweeps, which is one of whole
milliseconds.  The connector opens and starts; and whatever happens until it is told to stop, in
whatever order the tasks go on, as long as nobody takes a data plane out: every configured id is
registered and live, and can be selected for all that its data plane serves; a sweep at that moment
drops none of them.
As long as nobody else registers under the id, the data plane is the one that was configured last,
registered once and for all at the start. -/
theorem configured_stay_selectable {m : Config.Manifest} {timeout : Span}
    (valid : m.validate = .ok ()) (hmemory : m.spec.storage.backend = .memory)
    (htimeout : m.spec.dataPlanes.livenessTimeout = some timeout)
    (hpause : 0 < m.spec.dataPlanes.sweepInterval.nanos)
    (hwhole : m.spec.dataPlanes.sweepInterval.nanos % 1000000 = 0)
    (hlong : m.spec.dataPlanes.sweepInterval.nanos ≤ timeout.nanos)
    (env : Config.Environment) (reason : String) (now : Instant) :
    ∃ p, Play.opened? m env reason now = some p ∧
      ∀ cues : List Cue, ∀ c ∈ m.spec.dataPlanes.dataPlanes,
        let site := (p.run cues).stage.site
        (∃ e, site.dataPlanes.find? c.id = some e ∧ site.IsSelectable e ∧
          ((∀ x, .register x ∈ cues → x.id ≠ c.id) →
            ∃ c' d, Config.lastOf? m.spec.dataPlanes.dataPlanes c.id = some c' ∧
              c'.toDataPlane now = .ok d ∧ d.IsSame e)) ∧
        ∀ ids, (SiteM.evictStale site.now site).1 = .ok ids → c.id ∉ ids := by
  obtain ⟨s, _, hopen, hidle, hthere⟩ := openStage_spec valid hmemory env reason now
  obtain ⟨ds, hanswer, hduties⟩ := StageM.exists_of_openStage hopen
  have hids := SiteM.ids_of_openWith valid hmemory hanswer
  rw [hduties] at hopen
  have hcomeBack : ∀ d ∈ dutiesOf m s ds, d.HasPause :=
    hasPause_of_pause (Or.inr (Nat.ne_of_gt hpause))
  obtain ⟨tasks, t, hspawn, -⟩ := StageM.spawnAll_spec (dutiesOf m s ds) s
  refine ⟨_, Play.opened?_eq hopen ((StageM.start_of_hasPause hcomeBack s).trans hspawn), ?_⟩
  intro cues c hc
  obtain ⟨c', d, hlast, hmade, hfind⟩ := hthere c hc
  -- What is said of the entry, whoever else registers; reports of life do not change it.
  let q : DataPlane → Prop := fun e => (∀ x, .register x ∈ cues → x.id ≠ c.id) →
    ∃ c' d, Config.lastOf? m.spec.dataPlanes.dataPlanes c.id = some c' ∧
      c'.toDataPlane now = .ok d ∧ d.IsSame e
  have hq : ∀ e t load, e.id = c.id ∧ q e → (e.seen t load).id = c.id ∧ q (e.seen t load) := by
    rintro e t load ⟨heid, he⟩
    refine ⟨heid, fun hnobody => ?_⟩
    obtain ⟨c', d, hlast, hmade, hsame⟩ := he hnobody
    exact ⟨c', d, hlast, hmade, hsame.seen t load⟩
  have hsees : s.site.Sees c.id (fun e => e.id = c.id ∧ q e)
      m.spec.dataPlanes.livenessDistance? now now := by
    obtain ⟨hid, -, hregistered⟩ := Config.StaticDataPlane.of_toDataPlane hmade
    have hseen : now ≤ d.lastSeen := by
      rw [← hregistered]
      exact Int.le_refl _
    exact ⟨hidle.calm, hidle.now_eq, hidle.liveness_eq, d, hfind, hseen,
      hid.trans (Config.id_of_lastOf? hlast), fun _ => ⟨c', d, hlast, hmade, rfl⟩⟩
  have hmem : c.id ∈ ds.map (·.id) := by
    rw [hids]
    exact List.mem_map_of_mem hc
  have hkeeper : .keeper m.spec.dataPlanes.sweepInterval ds ∈ dutiesOf m s ds :=
    keeper_mem_dutiesOf (by simp [htimeout]) (by rintro rfl; cases hmem)
  have hwithin := within_livenessDistance? htimeout hlong
  obtain ⟨due, later, hwatched⟩ :=
    Play.isWatched_run hq (k := m.spec.dataPlanes.sweepInterval.nanos / 1000000) (by omega)
      hwithin cues (Play.isWatched_spawnAll hsees hspawn hkeeper hmem)
      fun x hx hxid _ => ⟨hxid, fun hnobody => absurd hxid (hnobody x hx)⟩
  have hrecent := hwatched.isRecent hwithin
  refine ⟨hwatched.sees.isSelectable hrecent, fun ids h => ?_⟩
  rw [hwatched.sees.now_eq] at h
  exact (SiteM.sees_evictStale hrecent hwatched.sees).2 ids h

/-- The timeout may be as long as the pause: when the sweeper goes first at the second tick, the
data plane was not seen for as long as that, and it can be selected still. -/
theorem configured_stay_selectable_of_equal_spans :
    let m := Config.Manifest.sample "host" true
    let m := { m with
      spec := { m.spec with
        orchestrator := { m.spec.orchestrator with pollInterval := .seconds 60 }
        dataPlanes := { m.spec.dataPlanes with livenessTimeout := some (.seconds 60) } } }
    let cues : List Cue := [.wake 1, .wake 2, .wake 0, .pass ⟨60000000000⟩, .wake 1]
    ∃ p, Play.opened? m [] "" ⟨0⟩ = some p ∧ (p.run cues).now = ⟨60000000000⟩ ∧
      ∃ e, (p.run cues).stage.site.dataPlanes.find? "dataplane-1" = some e ∧
        e.lastSeen = ⟨0⟩ ∧ (p.run cues).stage.site.IsSelectable e := by
  intro _ m cues
  have valid : m.validate = .ok () := by
    have h : m.fault? = none := by decide +kernel
    rw [Config.Manifest.validate, h]
  have hcourse : (Play.opened? m [] "" ⟨0⟩).map (fun p => ((p.run cues).now,
      ((p.run cues).stage.site.dataPlanes.find? "dataplane-1").map (·.lastSeen))) =
        some (⟨60000000000⟩, some ⟨0⟩) := by
    decide +kernel
  obtain ⟨p, hp, hruns⟩ := configured_stay_selectable valid rfl rfl (by decide) (by decide)
    (by decide) [] "" ⟨0⟩
  rw [hp, Option.map_some, Option.some.injEq, Prod.mk.injEq] at hcourse
  obtain ⟨⟨e, hfind, hselectable, -⟩, -⟩ := hruns cues _ List.mem_cons_self
  have hfind' : (p.run cues).stage.site.dataPlanes.find? "dataplane-1" = some e := hfind
  obtain ⟨hnow, hseen⟩ := hcourse
  rw [hfind', Option.map_some, Option.some.injEq] at hseen
  exact ⟨p, hp, hnow, e, hfind', hseen, hselectable⟩

end Rehearsal
end Connector
