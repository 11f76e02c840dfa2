import Connector.Proofs.Worker.Calls
import Connector.Proofs.World.Jobs

/-!
# How long attempts take

A run is punctual if nothing takes time but the calls, and no call takes longer than the limit.
An attempt makes one call at most, so that it does not go on for longer than that limit after its
claim.  Statements:

* `Step.isTimed`, `isTimed_pass` — steps and punctual waits keep an attempt within the limit.
-/

namespace Connector

namespace Job

/-- When the attempt ended: its result was written back, its lease was given back, or its worker
was lost. -/
def endedAt? (j : Job) : Option Instant :=
  match j.phase with
  | .persisted _ t _ | .released t => some t
  | .fresh | .running _ | .calling _ _ _ | .yielding => j.lostAt

/-- The attempt goes on. -/
def IsOpen (j : Job) : Prop := j.endedAt? = none

/-- Since when the attempt waits for the answer to a call. -/
def waitsSince? (j : Job) : Option Instant :=
  match j.phase with
  | .calling _ since _ => some since
  | .fresh | .running _ | .yielding | .persisted _ _ _ | .released _ => none

/-- Whether nothing is late if it is an instant next: the attempt has ended, or waits for the
answer to a call that began within the limit. -/
def isPatient (limit : Span) (t : Instant) (j : Job) : Bool :=
  j.endedAt?.isSome || j.waitsSince?.any fun since => decide (t.nanos ≤ since.nanos + limit.nanos)

/-- The attempt keeps to its time: it does not go on for longer than the limit of a call, and
takes no time before it makes its call. -/
structure IsTimed (o : Config.Orchestration) (now : Instant) (j : Job) : Prop where
  setup_eq : j.setup.orchestration = o
  claimedAt_le : j.claimedAt.nanos ≤ now.nanos
  since_eq : ∀ since, j.waitsSince? = some since → since = j.claimedAt
  ended : ∀ t, j.endedAt? = some t → j.claimedAt.nanos ≤ t.nanos ∧ t.nanos ≤ now.nanos ∧
    t.nanos ≤ j.claimedAt.nanos + o.dispatchTimeout.nanos
  going : j.IsOpen → now.nanos ≤ j.claimedAt.nanos + o.dispatchTimeout.nanos
  prompt : j.IsOpen → j.calls = [] → now = j.claimedAt

variable {o : Config.Orchestration} {now : Instant} {s t : Transfers} {j j' : Job}

theorem isTimed_fresh {setup : Setup} {holder : String} {p : Transfer}
    (h : setup.orchestration = o) : IsTimed o now (.fresh setup holder now p) where
  setup_eq := h
  claimedAt_le := Int.le_refl _
  since_eq _ hsince := by cases hsince
  ended _ ht := by cases ht
  going _ := by
    show now.nanos ≤ now.nanos + _
    omega
  prompt _ _ := rfl

/-- An attempt that has ended stays ended since then. -/
theorem Step.endedAt? (h : j.Step now s j' t) (present : j.lostAt = none) {u : Instant}
    (hu : j.endedAt? = some u) : j'.endedAt? = some u := by
  unfold Job.endedAt? at hu ⊢
  cases h with
  | told phase_eq =>
      rw [phase_eq] at hu
      exact hu
  | lost =>
      rw [present] at hu
      cases hphase : j.phase <;> rw [hphase] at hu <;> first | exact hu | cases hu
  | begun phase_eq | noted phase_eq | asked phase_eq | placed phase_eq | answered phase_eq
  | failed phase_eq | persisted phase_eq | abandoned phase_eq | released phase_eq =>
      rw [phase_eq, present] at hu
      cases hu

/-- An attempt that goes on went on before. -/
theorem Step.isOpen (h : j.Step now s j' t) (present : j.lostAt = none) (going : j'.IsOpen) :
    j.IsOpen := by
  cases hended : j.endedAt? with
  | none => exact hended
  | some u => exact absurd ((h.endedAt? present hended).symm.trans going) (Option.some_ne_none _)

/-- An attempt that has ended after a step had ended before, or ends now. -/
theorem Step.ended (h : j.Step now s j' t) (present : j.lostAt = none) {u : Instant}
    (hu : j'.endedAt? = some u) : j.endedAt? = some u ∨ (j.IsOpen ∧ u = now) := by
  cases hended : j.endedAt? with
  | some v =>
      rw [h.endedAt? present hended] at hu
      exact Or.inl hu
  | none =>
      refine Or.inr ⟨hended, ?_⟩
      unfold Job.endedAt? at hu hended
      cases h with
      | begun | noted | asked | placed | answered | failed | abandoned =>
          exact absurd (hu.symm.trans present) (Option.some_ne_none _)
      | persisted | released =>
          cases hu
          rfl
      | told phase_eq =>
          rw [phase_eq] at hended
          cases hended
      | lost => cases hphase : j.phase <;> simp_all

/-- A step takes no call back. -/
theorem Step.calls_eq_nil (h : j.Step now s j' t) (hnone : j'.calls = []) : j.calls = [] := by
  cases h with
  | begun phase_eq | noted phase_eq | asked phase_eq | placed phase_eq | answered phase_eq
  | failed phase_eq | persisted phase_eq | abandoned phase_eq | told phase_eq
  | released phase_eq => simp_all [calls, inPhase, exchanged]
  | lost => exact hnone

/-- An attempt that waits for an answer did so before, or makes its first call now. -/
theorem Step.waitsSince? (h : j.Step now s j' t) (present : j.lostAt = none)
    (course : j.IsCourse) {since : Instant} (hsince : j'.waitsSince? = some since) :
    j.waitsSince? = some since ∨ (j.IsOpen ∧ j.calls = [] ∧ since = now) := by
  cases h with
  | placed phase_eq =>
      have going : j.IsOpen := by rw [IsOpen, Job.endedAt?, phase_eq, present]
      have hnone : j.calls = [] := by
        rw [IsCourse, phase_eq] at course
        obtain ⟨_, hcourse⟩ := course
        simp [calls, phase_eq, hcourse.suits.2]
      cases hsince
      exact Or.inr ⟨going, hnone, rfl⟩
  | lost => exact Or.inl hsince
  | begun | noted | asked | answered | failed | persisted | abandoned | told | released =>
      cases hsince

/-- A step keeps an attempt to its time. -/
theorem Step.isTimed (h : j.Step now s j' t) (present : j.lostAt = none) (course : j.IsCourse)
    (timed : j.IsTimed o now) : j'.IsTimed o now where
  setup_eq := h.continues.setup_eq ▸ timed.setup_eq
  claimedAt_le := h.continues.claimedAt_eq ▸ timed.claimedAt_le
  since_eq since hsince := by
    rw [h.continues.claimedAt_eq]
    rcases h.waitsSince? present course hsince with hsince | ⟨going, hnone, rfl⟩
    · exact timed.since_eq since hsince
    · -- Time stood still between the claim and the call.
      exact timed.prompt going hnone
  ended u hu := by
    rw [h.continues.claimedAt_eq]
    rcases h.ended present hu with hu | ⟨going, rfl⟩
    · exact timed.ended u hu
    · exact ⟨timed.claimedAt_le, Int.le_refl _, timed.going going⟩
  going going := by
    rw [h.continues.claimedAt_eq]
    exact timed.going (h.isOpen present going)
  prompt going hnone := by
    rw [h.continues.claimedAt_eq]
    exact timed.prompt (h.isOpen present going) (h.calls_eq_nil hnone)

theorem waits_of_isPatient {limit : Span} {u : Instant} (patient : j.isPatient limit u = true)
    (going : j.IsOpen) :
    ∃ since, j.waitsSince? = some since ∧ u.nanos ≤ since.nanos + limit.nanos := by
  rw [isPatient, show j.endedAt? = none from going, Option.isSome_none, Bool.false_or,
    Option.any_eq_true] at patient
  obtain ⟨since, hsince, hlimit⟩ := patient
  exact ⟨since, hsince, of_decide_eq_true hlimit⟩

/-- A punctual wait keeps an attempt to its time. -/
theorem isTimed_pass {u : Instant} (timed : j.IsTimed o now) (later : now.nanos ≤ u.nanos)
    (patient : j.isPatient o.dispatchTimeout u = true) : j.IsTimed o u where
  setup_eq := timed.setup_eq
  claimedAt_le := Int.le_trans timed.claimedAt_le later
  since_eq := timed.since_eq
  ended t ht := by
    obtain ⟨hstart, hnow, hlimit⟩ := timed.ended t ht
    exact ⟨hstart, Int.le_trans hnow later, hlimit⟩
  going going := by
    obtain ⟨since, hsince, hlimit⟩ := waits_of_isPatient patient going
    rwa [timed.since_eq since hsince] at hlimit
  prompt going hnone := by
    obtain ⟨since, hsince, -⟩ := waits_of_isPatient patient going
    unfold waitsSince? at hsince
    unfold calls at hnone
    cases hphase : j.phase <;> simp_all

/-- An attempt makes one call at most. -/
theorem calls_le_one (course : j.IsCourse) : j.calls.length ≤ 1 := by
  unfold IsCourse at course
  unfold calls
  cases hphase : j.phase with
  | fresh =>
      rw [hphase] at course
      simp [course]
  | running rest =>
      rw [hphase] at course
      obtain ⟨_, hcourse⟩ := course
      simpa using hcourse.calls_le_one
  | calling c since next =>
      rw [hphase] at course
      obtain ⟨_, hcourse⟩ := course
      simp [hcourse.suits.2]
  | persisted p u isTold =>
      rw [hphase] at course
      obtain ⟨_, hcourse⟩ := course
      simpa using hcourse.calls_le_one
  | yielding | released u =>
      rw [hphase] at course
      obtain ⟨_, _, hcourse⟩ := course
      simpa using hcourse.calls_le_one

end Job
end Connector
