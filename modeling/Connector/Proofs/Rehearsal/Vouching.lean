import Connector.Proofs.Registry.Presence
import Connector.Proofs.Rehearsal.Playing
import Connector.Proofs.Rehearsal.Tasks

/-!
# Keepers and sweepers on stage

A task that goes on leaves a data plane that was seen recently where it is (`keeps_wake`): workers
do not touch the registry, a sweeper drops only what was not seen for longer, and a keeper that
vouches for others may at most register them again.  A keeper that vouches for the data plane, and
goes on at the instant it is due, makes it seen just now and comes back exactly one pause later
(`wake_keeper`); the pause has to be one of whole milliseconds, as timers ring at those only.
-/

namespace Connector.Rehearsal

variable {id : String} {q : DataPlane → Prop} {liveness : Option Int} {since now due : Instant}
  {interval : Span} {s : Stage}

/-- A keeper who vouches for an id and comes back at an instant. -/
def Task.VouchesAt (u : Task) (id : String) (interval : Span) (due : Instant) : Prop :=
  ∃ ds timer, u.duty = .keeper interval ds ∧ id ∈ ds.map (·.id) ∧ timer.due = due ∧
    (u.phase = .fresh timer ∨ u.phase = .ticking due timer)

/-- A keeper waits for one timer. -/
theorem Task.VouchesAt.exists_timer {u : Task} (hu : u.VouchesAt id interval due) :
    ∃ timer, u.timers = [timer] ∧ timer.due = due := by
  obtain ⟨ds, timer, -, -, hdue, hphase⟩ := hu
  refine ⟨timer, ?_, hdue⟩
  unfold timers
  rcases hphase with h | h <;> rw [h]

/-- A keeper that is due, and not late, is due now. -/
theorem Task.VouchesAt.due_eq {u : Task} (hu : u.VouchesAt id interval due)
    (hisDue : u.isDue now = true) (hle : now ≤ due) : due = now := by
  obtain ⟨timer, htimers, hdue⟩ := hu.exists_timer
  rw [isDue, htimers, List.any_cons, List.any_nil, Bool.or_false, decide_eq_true_eq, hdue] at hisDue
  have heq : due.nanos = now.nanos := Int.le_antisymm hisDue hle
  cases due
  cases now
  exact congrArg Instant.mk heq

namespace StageM

/-! ## Vouching -/

section Vouching
variable (hq : ∀ d t load, q d → q (d.seen t load))
include hq

/-- Whom a keeper vouches for was seen just now. -/
theorem sees_vouch {r : Site} (hr : r.Sees id q liveness since now) {d : DataPlane}
    (hid : d.id = id) : (vouch d r).2.Sees id q liveness now now := by
  obtain ⟨t, heq, ht⟩ := SiteM.sees_heartbeat hq hr none
  rw [← hid] at heq
  have hvouch : vouch d r = _ := SiteM.bind_eq heq
  rw [hvouch]
  exact ht

/-- Vouching for somebody else may register it, and does no harm. -/
theorem keeps_vouch_of_ne (hsince : since ≤ now) {d : DataPlane} (hid : d.id ≠ id) :
    SiteM.Keeps (vouch d) (Site.Sees id q liveness since now) := by
  refine SiteM.keeps_bind (SiteM.keeps_heartbeat hq hsince _ _) fun answer => ?_
  split
  · exact SiteM.keeps_pure ()
  · refine SiteM.keeps_bind (SiteM.keeps_register hsince d fun h => absurd h hid) fun answer => ?_
    cases answer with
    | ok replaced => exact SiteM.keeps_pure ()
    | error e => exact SiteM.keeps_note Site.isOfRegistry_sees _ _ _
  · exact SiteM.keeps_note Site.isOfRegistry_sees _ _ _

theorem keeps_vouch (hsince : since ≤ now) (d : DataPlane) :
    SiteM.Keeps (vouch d) (Site.Sees id q liveness since now) := by
  by_cases hid : d.id = id
  · exact fun r hr => (sees_vouch hq hr hid).mono hsince
  · exact keeps_vouch_of_ne hq hsince hid

theorem keeps_vouchAll (hsince : since ≤ now) (ds : List DataPlane) :
    SiteM.Keeps (vouchAll ds) (Site.Sees id q liveness since now) := by
  induction ds with
  | nil => exact SiteM.keeps_pure ()
  | cons d rest ih => exact SiteM.keeps_bind (keeps_vouch hq hsince d) fun _ => ih

/-- Whom a keeper vouches for among others was seen just now. -/
theorem sees_vouchAll {ds : List DataPlane} (hsince : since ≤ now) (hmem : id ∈ ds.map (·.id))
    {r : Site} (hr : r.Sees id q liveness since now) :
    (vouchAll ds r).2.Sees id q liveness now now := by
  induction ds generalizing r with
  | nil => cases hmem
  | cons d rest ih =>
      by_cases hid : d.id = id
      · exact keeps_vouchAll hq (Int.le_refl _) rest _ (sees_vouch hq hr hid)
      · rw [List.map_cons] at hmem
        exact ih ((List.mem_cons.1 hmem).resolve_left (Ne.symm hid))
          (keeps_vouch hq hsince d r hr)

/-! ## Tasks that go on -/

omit hq in
/-- A sweep keeps whoever was seen recently. -/
theorem keeps_sweep (hrecent : since.IsRecent now liveness) (deadline : Instant)
    (interval : Span) :
    Keeps (sweep deadline interval) (Site.Sees id q liveness since now) := by
  have hnext : Keeps (nextTick deadline interval) (Site.Sees id q liveness since now) :=
    keeps_bind (keeps_setTimer _) fun _ => keeps_pure _
  have hnote : ∀ level message fields,
      Keeps (atSite (SiteM.note level message fields) >>= fun _ => nextTick deadline interval)
        (Site.Sees id q liveness since now) :=
    fun _ _ _ => keeps_bind (keeps_note Site.isOfRegistry_sees _ _ _) fun _ => hnext
  intro s a t hs
  refine keepsFrom_now ?_ a t hs
  rw [hs.now_eq]
  refine keeps_bind (keeps_atSite (SiteM.keeps_evictStale hrecent)) (fun answer => ?_) s
  split
  · exact keeps_pure _
  · exact hnote _ _ _
  · exact hnote _ _ _
  · exact hnote _ _ _

/-- A task that goes on keeps whoever was seen recently. -/
theorem keeps_wake (hsince : since ≤ now) (hrecent : since.IsRecent now liveness) (u : Task) :
    Keeps (wake u) (Site.Sees id q liveness since now) := by
  obtain ⟨duty, phase⟩ := u
  have hdone : ∀ phase', Keeps (pure ⟨duty, phase'⟩ : StageM Task)
      (Site.Sees id q liveness since now) := fun _ => keeps_pure _
  cases duty with
  | worker holder => exact keeps_wake_worker Site.isOfRegistry_sees holder phase
  | sweeper interval =>
      have hsweep : ∀ deadline, Keeps (sweep deadline interval >>= fun phase =>
          pure (⟨.sweeper interval, phase⟩ : Task)) (Site.Sees id q liveness since now) :=
        fun deadline => keeps_bind (keeps_sweep hrecent deadline interval) hdone
      cases phase with
      | fresh timer =>
          refine keeps_bind (keeps_note Site.isOfRegistry_sees _ _ _) fun _ => ?_
          by_cases hpause : interval.nanos = 0
          · rw [if_pos hpause]
            exact keeps_bind (keeps_pure _) hdone
          · rw [if_neg hpause]
            exact keeps_bind keeps_now fun deadline => hsweep deadline
      | ticking deadline timer => exact hsweep deadline
      | working | resting | stopped | crashed => exact keeps_bind (keeps_pure _) hdone
  | keeper interval ds =>
      have hvouch : Keeps (atSite (vouchAll ds)) (Site.Sees id q liveness since now) :=
        keeps_atSite (keeps_vouchAll hq hsince ds)
      have hnext : ∀ deadline, Keeps (nextTick deadline interval >>= fun phase =>
          pure (⟨.keeper interval ds, phase⟩ : Task)) (Site.Sees id q liveness since now) :=
        fun _ => keeps_bind (keeps_bind (keeps_setTimer _) fun _ => keeps_pure _) hdone
      cases phase with
      | fresh timer =>
          exact keeps_bind hvouch fun _ => keeps_bind keeps_now fun _ => hnext _
      | ticking deadline timer => exact keeps_bind hvouch fun _ => hnext _
      | working | resting | stopped | crashed => exact keeps_bind (keeps_pure _) hdone

omit hq in
/-- After a pause of whole milliseconds the next tick is in time. -/
theorem nextTick_of_millis {k : Nat} (hwhole : interval.nanos = k * 1000000)
    (hnow : s.site.now = now) :
    ∃ timer t, nextTick now interval s =
        .ok (.ticking ⟨now.nanos + interval.nanos⟩ timer, t) ∧
      timer.due = ⟨now.nanos + interval.nanos⟩ ∧ t.site = s.site := by
  have hdue : Instant.nanos ⟨now.nanos + interval.nanos⟩ = s.site.now.nanos + k * 1000000 := by
    rw [hnow, hwhole]
    rfl
  exact ⟨_, _, bind_ok (setTimer_of_millis hdue), rfl, rfl⟩

/-- A keeper that goes on in time comes back after the pause, and whom it vouches for was seen
just now. -/
theorem wake_keeper {u : Task} {k : Nat} (hwhole : interval.nanos = k * 1000000)
    (hsince : since ≤ now) (hu : u.VouchesAt id interval now)
    (hs : s.site.Sees id q liveness since now) :
    ∃ u' t, wake u s = .ok (u', t) ∧ u'.VouchesAt id interval ⟨now.nanos + interval.nanos⟩ ∧
      t.site.Sees id q liveness now now := by
  obtain ⟨duty, phase⟩ := u
  obtain ⟨ds, timer, rfl, hmem, -, hphase⟩ := hu
  let vouched : Stage := { s with site := (vouchAll ds s.site).2 }
  have hvouch : atSite (vouchAll ds) s = .ok ((), vouched) := rfl
  have hsees : vouched.site.Sees id q liveness now now := sees_vouchAll hq hsince hmem hs
  have hnow : StageM.now vouched = .ok (now, vouched) :=
    congrArg (fun t => Except.ok (t, vouched)) hsees.now_eq
  obtain ⟨timer', t, htick, hdue, hsite⟩ := nextTick_of_millis hwhole hsees.now_eq
  refine ⟨⟨.keeper interval ds, .ticking _ timer'⟩, t, ?_, ⟨ds, timer', rfl, hmem, hdue, .inr rfl⟩,
    by rw [hsite]; exact hsees⟩
  rcases hphase with hfresh | hticking
  · cases hfresh
    exact (bind_ok hvouch).trans ((bind_ok hnow).trans (bind_ok htick))
  · cases hticking
    exact (bind_ok hvouch).trans (bind_ok htick)

end Vouching
end StageM

end Connector.Rehearsal
