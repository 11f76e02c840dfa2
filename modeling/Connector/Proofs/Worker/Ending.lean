import Connector.Proofs.Worker.Outcome

/-!
# How attempts end transfers

A command to cancel goes before everything else, and there is no way back once a transfer has
turned to termination.  Statements:

* `Result.pendingCommand_eq` — no result has a command waiting;
* `Result.of_cancel` — the attempt on a transfer to be cancelled cancels it;
* `Result.of_isEnding` — a transfer that ends goes on ending, for the reason it had;
* `Result.errorDetail_eq` — a reason is given only on turning to termination;
* `Result.to_terminating` — a transfer turns to termination on command and keeps its reason, or
  because the attempt failed, and gets that reason.
-/

namespace Connector.Attempt

variable {c : Setup} {r : Transfer} {now : Instant} {xs : List Exchange} {p : Transfer}

/-- Whatever the result, no command waits any more. -/
theorem Result.pendingCommand_eq (h : Result c r now xs p) : p.pendingCommand = none := by
  cases h with
  | cancelled _ moved =>
      obtain ⟨-, rfl⟩ := Transfer.cancel_eq_ok_iff.1 moved
      rfl
  | suspended _ _ moved =>
      obtain ⟨_, -, rfl⟩ := Transfer.step_eq_ok_iff.1 moved
      rfl
  | resumed _ _ moved =>
      obtain ⟨_, -, -, -, rfl⟩ := Transfer.resume_eq_ok_iff.1 moved
      rfl
  | ignored => rfl
  | idle calm => exact calm
  | begun calm _ moved | dispatched calm _ moved | allowed calm _ moved | started calm _ moved
  | reported calm _ _ moved | polled calm _ moved | finalized calm _ moved
  | terminated calm _ _ moved =>
      obtain ⟨_, -, rfl⟩ := Transfer.step_eq_ok_iff.1 moved
      exact calm
  | unannounced calm _ _ _ _ moved | retried calm _ _ _ moved | awaited calm _ _ _ moved =>
      obtain ⟨-, rfl⟩ := Transfer.retry_eq_ok_iff.1 moved
      exact calm
  | exhausted _ _ _ moved | failed _ _ moved =>
      obtain ⟨-, rfl⟩ := Transfer.fail_eq_ok_iff.1 moved
      rfl

/-- A command to cancel goes before everything else. -/
theorem Result.of_cancel (h : Result c r now xs p) (pending : r.pendingCommand = some .cancel) :
    xs = [] ∧ r.withoutCommand.cancel now = .ok p := by
  cases h with
  | cancelled _ moved => exact ⟨rfl, moved⟩
  | suspended other | resumed other =>
      rw [pending] at other
      cases other
  | ignored other =>
      rw [pending] at other
      rcases other with ⟨h, -⟩ | ⟨h, -⟩ <;> cases h
  | idle calm | begun calm | dispatched calm | allowed calm | started calm | reported calm
  | polled calm | finalized calm | terminated calm | unannounced calm | retried calm
  | exhausted calm | awaited calm | failed calm =>
      rw [pending] at calm
      cases calm

theorem Setback.not_isEnding {detail : String} {t : Instant}
    (h : Setback c r now xs detail t) : ¬ r.IsEnding := by
  cases h <;> simp [Transfer.IsEnding, *, Transfer.State.isTerminal]

theorem Failure.not_isEnding {detail : String} {t : Instant} {q : Transfer}
    (h : Failure c r now xs detail t q) : ¬ r.IsEnding := by
  cases h with
  | polled tracked | pollRejected tracked =>
      simp [Transfer.IsEnding, tracked.state_eq, Transfer.State.isTerminal]
  | openingRejected | unbound | denied | startRejected | reported | noFlow | overdue
  | completionRejected => simp [Transfer.IsEnding, *, Transfer.State.isTerminal]

/-- There is no way back from termination, and the reason for it stands. -/
theorem Result.of_isEnding (h : Result c r now xs p) (ending : r.IsEnding) :
    p.errorDetail = r.errorDetail ∧
      (p.state = r.state ∨ (r.state = .terminating ∧ p.state = .terminated)) := by
  cases h with
  | cancelled _ moved =>
      obtain ⟨⟨hlive, hne⟩, -⟩ := Transfer.cancel_eq_ok_iff.1 moved
      rcases ending with hstate | hstate
      · exact absurd hstate hne
      · exact absurd (hlive.symm.trans hstate) (by simp)
  | suspended _ canSuspend =>
      rcases ending with hstate | hstate <;>
        simp [Transfer.State.canSuspend, hstate] at canSuspend
  | ignored | idle => exact ⟨rfl, Or.inl rfl⟩
  | resumed _ state_eq | begun _ state_eq | dispatched _ state_eq | allowed _ state_eq
  | started _ state_eq | reported _ state_eq | finalized _ state_eq =>
      simp [Transfer.IsEnding, state_eq, Transfer.State.isTerminal] at ending
  | polled _ tracked | awaited _ tracked =>
      simp [Transfer.IsEnding, tracked.state_eq, Transfer.State.isTerminal] at ending
  | terminated _ state_eq _ moved =>
      obtain ⟨target, hnext, rfl⟩ := Transfer.step_eq_ok_iff.1 moved
      rw [state_eq] at hnext
      cases hnext
      exact ⟨rfl, Or.inr ⟨state_eq, rfl⟩⟩
  | unannounced _ _ _ _ _ moved =>
      obtain ⟨-, rfl⟩ := Transfer.retry_eq_ok_iff.1 moved
      exact ⟨rfl, Or.inl rfl⟩
  | retried _ setback | exhausted _ setback => exact absurd ending setback.not_isEnding
  | failed _ failure => exact absurd ending failure.not_isEnding

/-- A reason is given only on turning to termination. -/
theorem Result.errorDetail_eq (h : Result c r now xs p) :
    p.errorDetail = r.errorDetail ∨ p.state = .terminating := by
  cases h with
  | cancelled _ moved =>
      obtain ⟨-, rfl⟩ := Transfer.cancel_eq_ok_iff.1 moved
      exact Or.inr rfl
  | resumed _ _ moved =>
      obtain ⟨_, -, -, -, rfl⟩ := Transfer.resume_eq_ok_iff.1 moved
      exact Or.inl rfl
  | ignored | idle => exact Or.inl rfl
  | suspended _ _ moved | begun _ _ moved | dispatched _ _ moved | allowed _ _ moved
  | started _ _ moved | reported _ _ _ moved | polled _ _ moved | finalized _ _ moved
  | terminated _ _ _ moved =>
      obtain ⟨_, -, rfl⟩ := Transfer.step_eq_ok_iff.1 moved
      exact Or.inl rfl
  | unannounced _ _ _ _ _ moved | retried _ _ _ _ moved | awaited _ _ _ _ moved =>
      obtain ⟨-, rfl⟩ := Transfer.retry_eq_ok_iff.1 moved
      exact Or.inl rfl
  | exhausted _ _ _ moved =>
      obtain ⟨-, rfl⟩ := Transfer.fail_eq_ok_iff.1 moved
      exact Or.inr rfl
  | failed _ _ moved =>
      obtain ⟨-, rfl⟩ := Transfer.fail_eq_ok_iff.1 moved
      exact Or.inr rfl

/-- The attempt fails without remedy, by these exchanges and for this reason: a failure that may
pass is the last one that is borne with, or there is no remedy at all. -/
def FailsBy (c : Setup) (r : Transfer) (now : Instant) (xs : List Exchange) (detail : String) :
    Prop :=
  ∃ t, (Setback c r now xs detail t ∧ c.orchestration.retry.isExhausted r.stateCount = true) ∨
    ∃ q, Failure c r now xs detail t q

/-- Of all steps only one turns a transfer to termination. -/
theorem step_to_terminating {q : Transfer} {s : Transfer.Step} {t : Instant}
    (moved : r.step s t = .ok q) (hq : q.state = .terminating) (live : r.state ≠ .terminating)
    (hs : s ≠ .terminate) : False := by
  obtain ⟨target, hnext, rfl⟩ := Transfer.step_eq_ok_iff.1 moved
  obtain rfl : target = .terminating := hq
  cases s with
  | terminate => exact hs rfl
  | retry => exact live (Transfer.State.next?_retry_iff.1 hnext).2.symm
  | suspend => cases (Transfer.State.next?_suspend_iff.1 hnext).2
  | resume prior =>
      obtain ⟨-, hprior, rfl⟩ := Transfer.State.next?_resume_iff.1 hnext
      cases hprior
  | begin | dispatched | policyAllowed | workerStarted | workerFinished | finalized
  | terminated => cases hstate : r.state <;> rw [hstate] at hnext <;> cases hnext

/-- **Why a transfer turns to termination.**  It was to be cancelled, and keeps the reason it had;
or the attempt failed without remedy, and that is the reason from now on. -/
theorem Result.to_terminating (h : Result c r now xs p) (hp : p.state = .terminating)
    (live : r.state ≠ .terminating) :
    (r.pendingCommand = some .cancel ∧ p.errorDetail = r.errorDetail) ∨
      (r.pendingCommand = none ∧ ∃ detail, FailsBy c r now xs detail ∧
        p.errorDetail = some detail) := by
  cases h with
  | cancelled pending moved =>
      obtain ⟨-, rfl⟩ := Transfer.cancel_eq_ok_iff.1 moved
      exact Or.inl ⟨pending, rfl⟩
  | exhausted calm setback last moved =>
      obtain ⟨-, rfl⟩ := Transfer.fail_eq_ok_iff.1 moved
      exact Or.inr ⟨calm, _, ⟨_, Or.inl ⟨setback, last⟩⟩, rfl⟩
  | failed calm failure moved =>
      obtain ⟨-, rfl⟩ := Transfer.fail_eq_ok_iff.1 moved
      exact Or.inr ⟨calm, _, ⟨_, Or.inr ⟨_, failure⟩⟩, rfl⟩
  | ignored | idle => exact absurd hp live
  | unannounced _ _ _ _ _ moved | retried _ _ _ _ moved | awaited _ _ _ _ moved =>
      obtain ⟨-, rfl⟩ := Transfer.retry_eq_ok_iff.1 moved
      exact absurd hp live
  | resumed _ _ moved =>
      obtain ⟨prior, -, -, hprior, rfl⟩ := Transfer.resume_eq_ok_iff.1 moved
      obtain rfl : prior = .terminating := hp
      cases hprior
  | suspended _ _ moved | begun _ _ moved | dispatched _ _ moved | allowed _ _ moved
  | started _ _ moved | reported _ _ _ moved | polled _ _ moved | finalized _ _ moved
  | terminated _ _ _ moved => exact (step_to_terminating moved hp live (by simp)).elim

end Connector.Attempt
