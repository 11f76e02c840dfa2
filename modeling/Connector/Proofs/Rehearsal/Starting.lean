import Connector.Proofs.Rehearsal.Tasks

/-!
# What a configuration that is in order comes to

A connector with records in memory opens whenever its configuration is in order, and all its data
planes are there.  Its workers and its keeper always start; its sweeper starts if and only if there
is a pause between its sweeps and the clock reaches back by the timeout, and the check of the
configuration asks for neither.

* `starts_iff` — when a connector whose configuration is in order starts, and what it starts with;
* `operate_without_pause` — a configuration in order whose connector breaks off.
-/

namespace Connector.Rehearsal

variable {duties : List Duty} {s t : Stage} {liveness : Option Int} {now : Instant}
  {m : Config.Manifest}

/-- The tasks of some duties are set up on a stage, and none of them breaks off when it runs first. -/
def Stage.Starts (s : Stage) (duties : List Duty) : Prop :=
  ∃ tasks t, StageM.start duties s = .ok (tasks, t) ∧
    ∀ u ∈ tasks, ∃ u' t', StageM.wake u t = .ok (u', t') ∧ ∀ why, u'.phase ≠ .crashed why

/-- There is a pause between two sweeps, and the clock reaches back by the timeout; or nothing has
to be swept. -/
def CanSweep (r : Config.Registry) (now : Instant) : Prop :=
  r.livenessTimeout = none ∨ (r.sweepInterval.nanos ≠ 0 ∧ now.Reaches r.livenessDistance?)

theorem CanSweep.reaches {r : Config.Registry} (h : CanSweep r now) :
    now.Reaches r.livenessDistance? := by
  rcases h with hnone | ⟨-, hreaches⟩
  · rw [Config.Registry.livenessDistance?, hnone]
    exact nofun
  · exact hreaches

theorem Task.IsUp.ne_crashed {u : Task} (hu : u.IsUp) (why : Crash) : u.phase ≠ .crashed why := by
  intro h
  have hphase := hu.phase_isUp
  rw [h] at hphase
  exact hphase

/-- Why something broke off, if it did. -/
def crash? {α : Type} : Except Crash α → Option Crash
  | .ok _ => none
  | .error why => some why

theorem crash?_eq_some_iff {α : Type} {r : Except Crash α} {why : Crash} :
    crash? r = some why ↔ r = .error why := by
  cases r <;> simp [crash?]

/-! ## Setting up -/

namespace StageM

/-- Tasks are set up if each of them can go on. -/
theorem start_of_hasPause (hpause : ∀ d ∈ duties, d.HasPause) (s : Stage) :
    start duties s = spawnAll duties s := by
  have hany : duties.any Duty.isHopeless = false := by
    rw [List.any_eq_false]
    intro d hd
    have h := hpause d hd
    cases d with
    | worker | sweeper => exact Bool.false_ne_true
    | keeper interval ds =>
        rw [Duty.isHopeless, beq_iff_eq]
        exact h
  rw [start, if_neg (by rw [hany]; exact Bool.false_ne_true)]

theorem spawnAll_of_start {tasks : List Task} (h : start duties s = .ok (tasks, t)) :
    spawnAll duties s = .ok (tasks, t) := by
  unfold start at h
  split at h
  · cases h
  · exact h

/-- Tasks that were set up are up, if each of them can go on. -/
theorem exists_start (hpause : ∀ d ∈ duties, d.HasPause) (hs : s.site.IsIdle liveness now) :
    ∃ tasks t, start duties s = .ok (tasks, t) ∧ t.site.IsIdle liveness now ∧
      ∀ u ∈ tasks, u.IsUp := by
  obtain ⟨tasks, t, hspawn, hsite, hduties, hfresh⟩ := spawnAll_spec duties s
  refine ⟨tasks, t, (start_of_hasPause hpause s).trans hspawn, by rwa [hsite], ?_⟩
  intro u hu
  obtain ⟨timer, hphase, -⟩ := hfresh u hu
  refine ⟨by rw [hphase]; trivial, hpause _ ?_⟩
  rw [← hduties]
  exact List.mem_map_of_mem hu

/-- A sweeper that cannot sweep keeps a connector from starting. -/
theorem not_starts (hs : s.site.IsIdle liveness now) {interval : Span}
    (hmem : .sweeper interval ∈ duties)
    (hopeless : interval.nanos = 0 ∨ ¬ now.Reaches liveness) : ¬ s.Starts duties := by
  rintro ⟨tasks, t, hstart, hwake⟩
  obtain ⟨tasks', t', hspawn, hsite, hduties, hfresh⟩ := spawnAll_spec duties s
  cases (spawnAll_of_start hstart).symm.trans hspawn
  rw [← hduties] at hmem
  obtain ⟨u, hu, hduty⟩ := List.mem_map.1 hmem
  obtain ⟨timer, hphase, -⟩ := hfresh u hu
  obtain ⟨u', t', hrun, hup⟩ := hwake u hu
  obtain ⟨broken, t'', why, hbreak, hcrashed⟩ :=
    wake_sweeper_of_hopeless (s := t) (by rwa [hsite]) hopeless timer
  have heq : u = ⟨.sweeper interval, .fresh timer⟩ := by rw [← hduty, ← hphase]
  rw [heq, hbreak] at hrun
  cases hrun
  exact hup why hcrashed

end StageM

/-! ## Opening and starting -/

/-- What the tasks of a connector have to do. -/
def dutiesOf (m : Config.Manifest) (s : Stage) (dataPlanes : List DataPlane) : List Duty :=
  workerDuties s.setup (Transfer.plainId (s.site.drawn + 1)) ++ upkeep m.spec.dataPlanes dataPlanes

/-- The duties of a connector come back after a while if there is a pause between two sweeps, or
nothing to be swept. -/
theorem hasPause_of_pause {ds : List DataPlane}
    (h : m.spec.dataPlanes.livenessTimeout = none ∨ m.spec.dataPlanes.sweepInterval.nanos ≠ 0) :
    ∀ d ∈ dutiesOf m s ds, d.HasPause := by
  intro d hd
  rcases List.mem_append.1 hd with hd | hd
  · obtain ⟨i, -, rfl⟩ := List.mem_map.1 hd
    trivial
  · unfold upkeep at hd
    rcases h with hnone | hpause
    · rw [hnone, if_pos (by rfl)] at hd
      cases hd
    · split at hd
      · cases hd
      · split at hd
        · rw [List.mem_singleton.1 hd]
          exact hpause
        · rcases List.mem_cons.1 hd with rfl | hd
          · exact hpause
          · rw [List.mem_singleton.1 hd]
            exact hpause

theorem hasPause_dutiesOf {ds : List DataPlane} (h : CanSweep m.spec.dataPlanes now) :
    ∀ d ∈ dutiesOf m s ds, d.HasPause :=
  hasPause_of_pause (h.imp_right And.left)

theorem sweeper_mem_dutiesOf (h : m.spec.dataPlanes.livenessTimeout ≠ none) (s : Stage)
    (ds : List DataPlane) :
    .sweeper m.spec.dataPlanes.sweepInterval ∈ dutiesOf m s ds := by
  refine List.mem_append_right _ ?_
  unfold upkeep
  rw [if_neg (by simpa using h)]
  split
  · exact List.mem_singleton_self _
  · exact List.mem_cons_self

/-- A connector opens if its configuration is in order and its records are in memory. -/
theorem openStage_spec (valid : m.validate = .ok ()) (hmemory : m.spec.storage.backend = .memory)
    (env : Config.Environment) (reason : String) (now : Instant) :
    ∃ s ds, StageM.openStage m env reason (.ofManifest m now) = .ok (.ok (dutiesOf m s ds), s) ∧
      s.site.IsIdle m.spec.dataPlanes.livenessDistance? now ∧
      ∀ c ∈ m.spec.dataPlanes.dataPlanes, ∃ c' d,
        Config.lastOf? m.spec.dataPlanes.dataPlanes c.id = some c' ∧
        c'.toDataPlane now = .ok d ∧ s.site.dataPlanes.find? c.id = some d := by
  obtain ⟨ds, hanswer, hidle, hthere⟩ :=
    SiteM.openWith_spec (Site.isIdle_ofManifest m now) valid hmemory env reason
  let opened : Stage :=
    { Stage.ofManifest m now with
      site := (SiteM.openWith m env reason (Stage.ofManifest m now).site).2 }
  have hopened : StageM.atSite (SiteM.openWith m env reason) (Stage.ofManifest m now) =
      .ok (.ok ds, opened) :=
    congrArg (fun answer => Except.ok (answer, opened)) hanswer
  exact ⟨opened, ds, StageM.bind_ok hopened, hidle, hthere⟩

/-- **A configuration that is in order opens; it starts if its sweeper can sweep.**  With records in
memory the connector opens, and every configured id is registered, as it was configured last.  Its
tasks are set up, and none of them breaks off when it first runs, exactly if there is no liveness
timeout, or a pause between two sweeps and the clock reaches back by the timeout.  In that case
none of them breaks off later either, as long as no transfer comes and the clock still reaches
back. -/
theorem starts_iff (valid : m.validate = .ok ()) (hmemory : m.spec.storage.backend = .memory)
    (env : Config.Environment) (reason : String) (now : Instant) :
    ∃ duties s, StageM.openStage m env reason (.ofManifest m now) = .ok (.ok duties, s) ∧
      (∀ c ∈ m.spec.dataPlanes.dataPlanes, ∃ c' d,
        Config.lastOf? m.spec.dataPlanes.dataPlanes c.id = some c' ∧
        c'.toDataPlane now = .ok d ∧ s.site.dataPlanes.find? c.id = some d) ∧
      (s.Starts duties ↔ CanSweep m.spec.dataPlanes now) ∧
      ∀ until', CanSweep m.spec.dataPlanes now → CanSweep m.spec.dataPlanes until' →
        ∃ tasks t, StageM.start duties s = .ok (tasks, t) ∧
          ∀ fuel, ∃ tasks' t', StageM.runTasks (some until') fuel tasks t = .ok (tasks', t') ∧
            ∀ u ∈ tasks', ∀ why, u.phase ≠ .crashed why := by
  obtain ⟨s, ds, hopen, hidle, hthere⟩ := openStage_spec valid hmemory env reason now
  refine ⟨_, s, hopen, hthere, ⟨?_, ?_⟩, ?_⟩
  · intro hstarts
    by_cases htimeout : m.spec.dataPlanes.livenessTimeout = none
    · exact Or.inl htimeout
    · have hsweeper := sweeper_mem_dutiesOf htimeout s ds
      by_cases hpause : m.spec.dataPlanes.sweepInterval.nanos = 0
      · exact absurd hstarts (StageM.not_starts hidle hsweeper (Or.inl hpause))
      · by_cases hreaches : now.Reaches m.spec.dataPlanes.livenessDistance?
        · exact Or.inr ⟨hpause, hreaches⟩
        · exact absurd hstarts (StageM.not_starts hidle hsweeper (Or.inr hreaches))
  · intro hcan
    obtain ⟨tasks, t, hstart, ht, hup⟩ :=
      StageM.exists_start (hasPause_dutiesOf hcan) hidle
    refine ⟨tasks, t, hstart, fun u hu => ?_⟩
    obtain ⟨u', t', hwake, -, hu'⟩ := StageM.goes_wake hcan.reaches (hup u hu) t ht
    exact ⟨u', t', hwake, hu'.ne_crashed⟩
  · intro until' hcan huntil
    obtain ⟨tasks, t, hstart, ht, hup⟩ :=
      StageM.exists_start (hasPause_dutiesOf hcan) hidle
    refine ⟨tasks, t, hstart, fun fuel => ?_⟩
    obtain ⟨tasks', t', hrun, hup'⟩ :=
      StageM.runTasks_up fuel ht (fun u => hcan.reaches.between huntil.reaches) hup
    exact ⟨tasks', t', hrun, fun u hu => (hup' u hu).ne_crashed⟩

/-- The manifest with a data plane and a policy to start from is in order, and starts. -/
theorem starts_iff_of_sample :
    let m := Config.Manifest.sample "host" true
    ∃ duties s, StageM.openStage m [] "" (.ofManifest m ⟨0⟩) = .ok (.ok duties, s) ∧
      (∃ d, s.site.dataPlanes.find? "dataplane-1" = some d) ∧ s.Starts duties := by
  intro m
  have valid : m.validate = .ok () := by
    have h : m.fault? = none := by decide +kernel
    rw [Config.Manifest.validate, h]
  have hcan : CanSweep m.spec.dataPlanes ⟨0⟩ := by
    refine Or.inr ⟨by decide, fun distance h => ?_⟩
    have hdistance : distance = 300000000000 :=
      Option.some.inj (h.symm.trans (by decide +kernel))
    rw [hdistance]
    exact ⟨⟨-300000000000⟩, by decide +kernel⟩
  obtain ⟨duties, s, hopen, hthere, hstarts, -⟩ := starts_iff valid rfl [] "" ⟨0⟩
  obtain ⟨_, d, -, -, hd⟩ := hthere _ List.mem_cons_self
  exact ⟨duties, s, hopen, ⟨d, hd⟩, hstarts.2 hcan⟩

/-- **A configuration that is in order and does not start.**  The pause between two sweeps may be
nothing at all; then the connector breaks off as it starts to vouch for its data plane. -/
theorem operate_without_pause :
    let m := Config.Manifest.sample "host" true
    let m := { m with
      spec := { m.spec with
        dataPlanes := { m.spec.dataPlanes with sweepInterval := .seconds 0 } } }
    m.validate = .ok () ∧ m.spec.storage.backend = .memory ∧
      StageM.operate m [] "" none (.ofManifest m ⟨0⟩) = .error .noPeriod := by
  intro _ m
  have valid : m.validate = .ok () := by
    have h : m.fault? = none := by decide +kernel
    rw [Config.Manifest.validate, h]
  have hcrash : crash? (StageM.operate m [] "" none (.ofManifest m ⟨0⟩)) = some .noPeriod := by
    decide +kernel
  exact ⟨valid, rfl, crash?_eq_some_iff.1 hcrash⟩

end Connector.Rehearsal
