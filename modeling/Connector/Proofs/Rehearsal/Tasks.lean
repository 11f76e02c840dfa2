import Connector.Proofs.Site.Opening
import Connector.Proofs.Time.Horizon
import Connector.Rehearsal.Operation

/-!
# The tasks of a connector that no transfer came to

Workers that find nothing to claim, a sweeper and a keeper leave the site as idle as they found it,
apart from the data planes (`goes_wake`).  The one thing that can break a task off then is the
sweeper's: that it has no period, or that the clock does not reach back by the timeout
(`wake_sweeper_of_hopeless`).  As the clock only moves on, tasks that are up stay up as long as it
reaches back from every instant on the way (`runTasks_up`).
-/

namespace Connector

variable {liveness : Option Int} {now : Instant} {s : Site}

namespace Instant

/-- From an instant between two the clock reaches back as far as from both of them. -/
theorem Reaches.between {a b t : Instant} (ha : a.Reaches liveness) (hb : b.Reaches liveness)
    (hat : a ≤ t) (htb : t ≤ b) : t.Reaches liveness := by
  intro distance h
  have hfirst := exists_later?_iff.1 (ha distance h)
  have hlast := exists_later?_iff.1 (hb distance h)
  have hat' : a.nanos ≤ t.nanos := hat
  have htb' : t.nanos ≤ b.nanos := htb
  exact exists_later?_iff.2 ⟨by omega, by omega⟩

end Instant

namespace SiteM

/-- Where there are no transfers, a worker claims none. -/
theorem openCycle_of_isIdle (hs : s.IsIdle liveness now) (c : Setup) (holder : String) :
    openCycle c holder s = (.ok (.ok []), s) := by
  have hclaim : s.transfers.claimOnClock Transfer.State.actionable c.orchestration.batchSize
      (claimOf c holder s.now) = (.ok [], s.transfers) := by
    rw [hs.transfers_eq]
    simp [Transfers.claimOnClock, Transfers.chosen, Transfers.empty, Table.values]
  have hstore : claim c.orchestration.batchSize (claimOf c holder s.now) s = (.ok (.ok []), s) :=
    access_transfers_of_ok hs.calm .claim (congrArg Except.ok hclaim)
  exact (bind_eq rfl).trans (bind_eq hstore)

/-- What is done leaves an idle site idle. -/
def Rests {α : Type} (m : SiteM α) (liveness : Option Int) (now : Instant) : Prop :=
  ∀ s : Site, s.IsIdle liveness now → (m s).2.IsIdle liveness now

section Rests
variable {α β : Type} {m : SiteM α} {f : α → SiteM β}

theorem rests_pure (a : α) : Rests (pure a) liveness now := fun _ hs => hs

theorem rests_bind (hm : Rests m liveness now) (hf : ∀ a, Rests (f a) liveness now) :
    Rests (m >>= f) liveness now :=
  fun s hs => hf _ _ (hm s hs)

theorem rests_note (level : Level) (message : String) (fields : List (String × String)) :
    Rests (note level message fields) liveness now :=
  fun s hs => hs.of_becomes (becomes_note level message fields s)

theorem rests_register (d : DataPlane) : Rests (register d) liveness now := by
  intro s hs
  cases hvalid : d.validate with
  | ok => exact hs.of_becomes (register_of_ok hs.calm hvalid).2
  | error defect =>
      rw [register_of_error hvalid]
      exact hs

theorem rests_heartbeat (id : String) (load : Option Nat) :
    Rests (heartbeat id load) liveness now := by
  intro s hs
  rw [heartbeat_spec hs.calm]
  exact ⟨hs.calm, hs.transfers_eq, hs.liveness_eq, hs.now_eq⟩

/-- Whoever vouches for data planes leaves the site idle. -/
theorem rests_vouch (d : DataPlane) : Rests (Rehearsal.StageM.vouch d) liveness now := by
  refine rests_bind (rests_heartbeat _ _) fun answer => ?_
  split
  · exact rests_pure ()
  · refine rests_bind (rests_register d) fun answer => ?_
    cases answer with
    | ok replaced => exact rests_pure ()
    | error e => exact rests_note _ _ _
  · exact rests_note _ _ _

theorem rests_vouchAll (ds : List DataPlane) :
    Rests (Rehearsal.StageM.vouchAll ds) liveness now := by
  induction ds with
  | nil => exact rests_pure ()
  | cons d rest ih => exact rests_bind (rests_vouch d) fun _ => ih

end Rests

end SiteM

namespace Rehearsal

/-- On a stage whose site is idle it comes to an end, the site is idle still, and what it gives has
a property. -/
def StageM.Goes {α : Type} (m : StageM α) (liveness : Option Int) (now : Instant)
    (q : α → Prop) : Prop :=
  ∀ s : Stage, s.site.IsIdle liveness now →
    ∃ a t, m s = .ok (a, t) ∧ t.site.IsIdle liveness now ∧ q a

/-- A task in this phase has not broken off, and is not busy with transfers. -/
def Phase.IsUp : Phase → Prop
  | .fresh _ | .resting _ | .ticking _ _ | .stopped => True
  | .working _ | .crashed _ => False

/-- A duty that comes back does so after a while. -/
def Duty.HasPause : Duty → Prop
  | .worker _ => True
  | .sweeper interval | .keeper interval _ => interval.nanos ≠ 0

/-- A task that is up, and can go on. -/
structure Task.IsUp (t : Task) : Prop where
  phase_isUp : t.phase.IsUp
  hasPause : t.duty.HasPause

namespace StageM

variable {α β : Type} {p : α → Prop} {q : β → Prop}

theorem goes_pure {a : α} (h : p a) : (pure a : StageM α).Goes liveness now p :=
  fun s hs => ⟨a, s, rfl, hs, h⟩

theorem bind_ok {m : StageM α} {f : α → StageM β} {s t : Stage} {a : α} (h : m s = .ok (a, t)) :
    (m >>= f) s = f a t := by
  show (m s >>= fun r => f r.1 r.2) = _
  rw [h]
  rfl

theorem goes_bind {m : StageM α} {f : α → StageM β} (hm : m.Goes liveness now p)
    (hf : ∀ a, p a → (f a).Goes liveness now q) : (m >>= f).Goes liveness now q := by
  intro s hs
  obtain ⟨a, t, heq, ht, ha⟩ := hm s hs
  obtain ⟨b, u, heq', hu, hb⟩ := hf a ha t ht
  exact ⟨b, u, (bind_ok heq).trans heq', hu, hb⟩

theorem goes_get : (get : StageM Stage).Goes liveness now fun s => s.site.IsIdle liveness now :=
  fun s hs => ⟨s, s, rfl, hs, hs⟩

theorem now_eq {s : Stage} (hs : s.site.IsIdle liveness now) : StageM.now s = .ok (now, s) := by
  rw [← hs.now_eq]
  rfl

theorem goes_now : StageM.now.Goes liveness now (· = now) :=
  fun s hs => ⟨s.site.now, s, rfl, hs, hs.now_eq⟩

theorem goes_atSite {m : SiteM α}
    (h : ∀ s : Site, s.IsIdle liveness now → (m s).2.IsIdle liveness now ∧ p (m s).1) :
    (atSite m).Goes liveness now p :=
  fun s hs => ⟨_, _, rfl, (h s.site hs).1, (h s.site hs).2⟩

/-- Where there are no transfers, nothing is counted beyond a word. -/
theorem goes_counted {m : SiteM α}
    (h : ∀ s : Site, s.IsIdle liveness now → (m s).2.IsIdle liveness now ∧ p (m s).1) :
    (counted m).Goes liveness now p := by
  refine goes_bind (goes_atSite h) fun a ha => goes_bind goes_get fun s hs => ?_
  rw [hs.transfers_eq]
  exact goes_pure ha

theorem goes_note (level : Level) (message : String) (fields : List (String × String)) :
    (atSite (SiteM.note level message fields)).Goes liveness now fun _ => True :=
  goes_atSite fun s hs => ⟨SiteM.rests_note level message fields s hs, trivial⟩

theorem goes_setTimer (deadline : Instant) :
    (setTimer deadline).Goes liveness now fun _ => True :=
  fun _ hs => ⟨_, _, rfl, hs, trivial⟩

theorem goes_setTimerAfter (d : Span) : (setTimerAfter d).Goes liveness now fun _ => True :=
  goes_bind goes_now fun _ _ => goes_setTimer _

/-! ## What tasks do -/

theorem goes_workerStopped (holder : String) :
    (workerStopped holder).Goes liveness now Phase.IsUp :=
  goes_bind (goes_note _ _ _) fun _ _ => goes_pure trivial

theorem goes_openBatch (holder : String) :
    (openBatch holder).Goes liveness now (· = .ok []) := by
  refine goes_bind goes_get fun _ _ => goes_bind (p := (· = .ok (.ok []))) ?_ ?_
  · refine goes_counted fun t ht => ?_
    rw [SiteM.openCycle_of_isIdle ht]
    exact ⟨ht, rfl⟩
  · rintro _ rfl
    exact goes_bind (goes_pure rfl) (by rintro _ rfl; exact goes_pure rfl)

/-- A worker with nothing to do rests. -/
theorem goes_afterBatch (holder : String) (fuel : Nat) :
    (afterBatch holder fuel []).Goes liveness now Phase.IsUp := by
  cases fuel with
  | zero => exact goes_pure trivial
  | succ fuel =>
      refine goes_bind goes_get fun s _ => ?_
      split
      · exact goes_workerStopped holder
      · exact goes_bind (goes_setTimerAfter _) fun _ _ => goes_pure trivial

theorem goes_nextCycle (holder : String) : (nextCycle holder).Goes liveness now Phase.IsUp := by
  refine goes_bind goes_get fun s _ => ?_
  split
  · exact goes_workerStopped holder
  · refine goes_bind (goes_openBatch holder) ?_
    rintro _ rfl
    exact goes_afterBatch holder cycleBound

theorem goes_nextTick (deadline : Instant) (interval : Span) :
    (nextTick deadline interval).Goes liveness now Phase.IsUp :=
  goes_bind (goes_setTimer _) fun _ _ => goes_pure trivial

/-- A sweeper waits for its next tick if the clock reaches back by the timeout. -/
theorem goes_sweep (hreaches : now.Reaches liveness) (deadline : Instant) (interval : Span) :
    (sweep deadline interval).Goes liveness now Phase.IsUp := by
  refine goes_bind goes_now ?_
  rintro u rfl
  refine goes_bind (p := fun r => ∃ ids, r = .ok ids) ?_ ?_
  · refine goes_atSite fun s hs => ?_
    obtain ⟨-, ids, hanswer, hsite⟩ :=
      (SiteM.evictStale_spec hs u).resolve_right fun h => h.1 hreaches
    exact ⟨hsite, ids, hanswer⟩
  · rintro _ ⟨ids, rfl⟩
    cases ids with
    | nil => exact goes_bind (goes_note _ _ _) fun _ _ => goes_nextTick _ _
    | cons id rest => exact goes_bind (goes_note _ _ _) fun _ _ => goes_nextTick _ _

/-- A task that is up goes on, and is up still. -/
theorem goes_wake (hreaches : now.Reaches liveness) {t : Task} (ht : t.IsUp) :
    (wake t).Goes liveness now Task.IsUp := by
  obtain ⟨duty, phase⟩ := t
  have hdone : ∀ phase' : Phase, phase'.IsUp →
      (pure ⟨duty, phase'⟩ : StageM Task).Goes liveness now Task.IsUp :=
    fun _ h => goes_pure ⟨h, ht.hasPause⟩
  have hstays : (pure phase >>= fun phase' => pure ⟨duty, phase'⟩ : StageM Task).Goes liveness now
      Task.IsUp :=
    goes_bind (goes_pure ht.phase_isUp) hdone
  cases duty with
  | worker holder =>
      cases phase with
      | fresh timer =>
          exact goes_bind goes_get fun _ _ => goes_bind (goes_note _ _ _) fun _ _ =>
            goes_bind (goes_nextCycle holder) hdone
      | resting timer => exact goes_bind (goes_nextCycle holder) hdone
      | working | crashed => exact ht.phase_isUp.elim
      | ticking | stopped => exact hstays
  | sweeper interval =>
      cases phase with
      | fresh timer =>
          refine goes_bind (goes_note _ _ _) fun _ _ => ?_
          rw [if_neg ht.hasPause]
          exact goes_bind goes_now fun _ _ => goes_bind (goes_sweep hreaches _ _) hdone
      | ticking deadline timer => exact goes_bind (goes_sweep hreaches _ _) hdone
      | working | crashed => exact ht.phase_isUp.elim
      | resting | stopped => exact hstays
  | keeper interval ds =>
      -- It may have to register again what was dropped, which fails at most with a note.
      have hvouch : (atSite (vouchAll ds)).Goes liveness now fun _ => True :=
        goes_atSite fun s hs => ⟨SiteM.rests_vouchAll ds s hs, trivial⟩
      cases phase with
      | fresh timer =>
          exact goes_bind hvouch fun _ _ => goes_bind goes_now fun _ _ =>
            goes_bind (goes_nextTick _ _) hdone
      | ticking deadline timer =>
          exact goes_bind hvouch fun _ _ => goes_bind (goes_nextTick _ _) hdone
      | working | crashed => exact ht.phase_isUp.elim
      | resting | stopped => exact hstays

theorem goes_wakeTimer (hreaches : now.Reaches liveness) (timer : Timer) {tasks : List Task}
    (htasks : ∀ t ∈ tasks, t.IsUp) :
    (wakeTimer timer tasks).Goes liveness now fun ts => ∀ t ∈ ts, t.IsUp := by
  induction tasks with
  | nil => exact goes_pure htasks
  | cons t rest ih =>
      obtain ⟨hfirst, hrest⟩ := List.forall_mem_cons.1 htasks
      rw [wakeTimer]
      split
      · exact goes_bind (goes_wake hreaches hfirst) fun u hu =>
          goes_pure (List.forall_mem_cons.2 ⟨hu, hrest⟩)
      · exact goes_bind (ih hrest) fun ts hts =>
          goes_pure (List.forall_mem_cons.2 ⟨hfirst, hts⟩)

/-- A sweeper breaks off if the clock does not reach back by the timeout. -/
theorem sweep_of_not_reaches {s : Stage} (hs : s.site.IsIdle liveness now)
    (hbeyond : ¬ now.Reaches liveness) (deadline : Instant) (interval : Span) :
    sweep deadline interval s = .ok (.crashed .clock, s) := by
  have hsite := ((SiteM.evictStale_spec hs now).resolve_left fun h => hbeyond h.1).2
  have hevict : atSite (SiteM.evictStale now) s = .ok (.error .clock, s) := by
    unfold atSite
    rw [hsite]
  rw [sweep, bind_ok (now_eq hs), bind_ok hevict]
  rfl

/-- A sweeper that cannot sweep breaks off as soon as it runs. -/
theorem wake_sweeper_of_hopeless {s : Stage} (hs : s.site.IsIdle liveness now) {interval : Span}
    (hopeless : interval.nanos = 0 ∨ ¬ now.Reaches liveness) (timer : Timer) :
    ∃ t s' why, wake ⟨.sweeper interval, .fresh timer⟩ s = .ok (t, s') ∧
      t.phase = .crashed why := by
  obtain ⟨_, t, hstarts, ht, -⟩ :=
    goes_note .info "Starting data plane liveness sweeper"
      [("interval_ms", toString (interval.inMillis % 18446744073709551616))] s hs
  have heq : wake ⟨.sweeper interval, .fresh timer⟩ s = _ := bind_ok hstarts
  rw [heq]
  by_cases hpause : interval.nanos = 0
  · rw [if_pos hpause]
    exact ⟨_, _, .noPeriod, rfl, rfl⟩
  · rw [if_neg hpause, bind_ok (now_eq ht)]
    have hbeyond := hopeless.resolve_left hpause
    exact ⟨_, _, .clock, bind_ok (sweep_of_not_reaches ht hbeyond now interval), rfl⟩

/-! ## Tasks at work -/

/-- Tasks that are up stay up until an instant, if the clock reaches back by the timeout from every
instant on the way. -/
theorem runTasks_up {s : Stage} {until' : Instant} {tasks : List Task} (fuel : Nat)
    (hs : s.site.IsIdle liveness now)
    (hreaches : ∀ t, now ≤ t → t ≤ until' → t.Reaches liveness)
    (htasks : ∀ t ∈ tasks, t.IsUp) :
    ∃ tasks' s', runTasks (some until') fuel tasks s = .ok (tasks', s') ∧
      ∀ t ∈ tasks', t.IsUp := by
  induction fuel generalizing s now tasks with
  | zero => exact ⟨tasks, s, rfl, htasks⟩
  | succ fuel ih =>
      have hmove : ∀ t, moveTo t s =
          .ok ((), { s with site := { s.site with now := t } }) := fun t => rfl
      have hmoved : ∀ t, Site.IsIdle { s.site with now := t } liveness t := fun t =>
        ⟨hs.calm, hs.transfers_eq, hs.liveness_eq, rfl⟩
      rw [runTasks, bind_ok (now_eq hs)]
      by_cases hover : until' ≤ now
      · rw [if_pos (by simpa using hover)]
        exact ⟨tasks, s, rfl, htasks⟩
      · have hlt : now < until' := Int.not_le.1 hover
        rw [if_neg (by simpa using hover)]
        cases earliest (tasks.flatMap Task.timers) with
        | none => exact ⟨tasks, _, bind_ok (hmove until'), htasks⟩
        | some timer =>
            dsimp only
            split
            · obtain ⟨tasks', s', heq, hs', htasks'⟩ :=
                goes_wakeTimer (hreaches now (Int.le_refl _) (Int.le_of_lt hlt)) timer htasks s hs
              rw [bind_ok heq]
              exact ih hs' hreaches htasks'
            · -- The clock moves on to the timer, unless the end comes first.
              rename_i hlater
              split
              · exact ⟨tasks, _, bind_ok (hmove _), htasks⟩
              · rename_i hbefore
                have hdue : now ≤ timer.due := Int.le_of_not_le hlater
                have hnot : ¬ until' ≤ timer.due := by simpa using hbefore
                have hend : timer.due ≤ until' := Int.le_of_lt (Int.not_le.1 hnot)
                have hreaches' : ∀ t, timer.due ≤ t → t ≤ until' → t.Reaches liveness :=
                  fun t ht => hreaches t (Int.le_trans hdue ht)
                obtain ⟨tasks', s', heq, hs', htasks'⟩ :=
                  goes_wakeTimer (hreaches _ hdue hend) timer htasks
                    { s with site := { s.site with now := timer.due } } (hmoved timer.due)
                rw [bind_ok (hmove timer.due), bind_ok heq]
                exact ih hs' hreaches' htasks'

/-- A timer for an instant a whole number of milliseconds from now is due then. -/
theorem setTimer_of_millis {deadline : Instant} {s : Stage} {k : Nat}
    (h : deadline.nanos = s.site.now.nanos + k * 1000000) :
    setTimer deadline s = .ok (⟨deadline, s.turns⟩, { s with turns := s.turns + 1 }) := by
  have hdue : s.site.now.plusMillis (((deadline.since s.site.now).toNat + 999999) / 1000000 : Nat) =
      deadline := by
    have hwait : ((deadline.since s.site.now).toNat + 999999) / 1000000 = k := by
      rw [Instant.since]
      omega
    rw [hwait, Instant.plusMillis, ← h]
  show Except.ok _ = _
  rw [hdue]

/-- Tasks that have not run yet have the duties they were given, and all of them are due. -/
theorem spawnAll_spec (duties : List Duty) (s : Stage) :
    ∃ tasks t, spawnAll duties s = .ok (tasks, t) ∧ t.site = s.site ∧
      tasks.map (·.duty) = duties ∧
      ∀ u ∈ tasks, ∃ timer, u.phase = .fresh timer ∧ timer.due = s.site.now := by
  induction duties generalizing s with
  | nil => exact ⟨[], s, rfl, rfl, rfl, nofun⟩
  | cons duty rest ih =>
      have htimer : setTimer s.site.now s = _ := setTimer_of_millis (k := 0) (by omega)
      have hspawn : spawn duty s =
          .ok (⟨duty, .fresh ⟨s.site.now, s.turns⟩⟩, { s with turns := s.turns + 1 }) :=
        (bind_ok rfl).trans (bind_ok htimer)
      obtain ⟨tasks, u, hrest, hu, hduties, hfresh⟩ := ih { s with turns := s.turns + 1 }
      refine ⟨⟨duty, .fresh ⟨s.site.now, s.turns⟩⟩ :: tasks, u, ?_, hu, ?_, ?_⟩
      · rw [spawnAll, bind_ok hspawn, bind_ok hrest]
        rfl
      · rw [List.map_cons, hduties]
      · exact List.forall_mem_cons.2 ⟨⟨_, rfl, rfl⟩, hfresh⟩

end StageM
end Rehearsal
end Connector
