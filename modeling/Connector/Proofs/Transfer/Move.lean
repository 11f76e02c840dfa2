import Connector.Transfer.Basic

/-!
# Moves of a record

Every way in which a worker changes a record is one step along the state graph with something
written beside it.  Statements:

* `retry_eq_ok_iff`, `fail_eq_ok_iff`, `cancel_eq_ok_iff`, `resume_eq_ok_iff` — when each move
  succeeds, and the record that it leaves;
* `Continues` — what no move touches: whose record it is, what was asked for, lease and version.
-/

namespace Connector.Transfer

/-- A step with something written beside it succeeds exactly if the step does. -/
private theorem bind_ok_eq_ok_iff {ε α β : Type} {x : Except ε α} {f : α → β} {b : β} :
    (x >>= fun a => .ok (f a)) = .ok b ↔ ∃ a, x = .ok a ∧ b = f a := by
  cases x with
  | error e => simp [bind, Except.bind]
  | ok a => simp [bind, Except.bind, eq_comm]

theorem retry_eq_ok_iff {p q : Transfer} {notBefore now : Instant} :
    p.retry notBefore now = .ok q ↔ p.state.isRetryable = true ∧
      q = { p.entered .retry p.state now with retryAt := some notBefore } := by
  unfold retry
  rw [bind_ok_eq_ok_iff]
  simp only [step_eq_ok_iff, State.next?_retry_iff]
  constructor
  · rintro ⟨_, ⟨_, ⟨hretry, rfl⟩, rfl⟩, rfl⟩
    exact ⟨hretry, rfl⟩
  · rintro ⟨hretry, rfl⟩
    exact ⟨_, ⟨_, ⟨hretry, rfl⟩, rfl⟩, rfl⟩

theorem fail_eq_ok_iff {p q : Transfer} {detail : String} {now : Instant} :
    p.fail detail now = .ok q ↔ (p.state.isTerminal = false ∧ p.state ≠ .terminating) ∧
      q = { p.entered .terminate .terminating now with
        errorDetail := some detail, pendingCommand := none } := by
  unfold fail
  rw [bind_ok_eq_ok_iff]
  simp only [step_eq_ok_iff, State.next?_terminate_iff]
  constructor
  · rintro ⟨_, ⟨_, ⟨hlive, hne, rfl⟩, rfl⟩, rfl⟩
    exact ⟨⟨hlive, hne⟩, rfl⟩
  · rintro ⟨⟨hlive, hne⟩, rfl⟩
    exact ⟨_, ⟨_, ⟨hlive, hne, rfl⟩, rfl⟩, rfl⟩

theorem cancel_eq_ok_iff {p q : Transfer} {now : Instant} :
    p.cancel now = .ok q ↔ (p.state.isTerminal = false ∧ p.state ≠ .terminating) ∧
      q = { p.entered .terminate .terminating now with pendingCommand := none } := by
  unfold cancel
  rw [bind_ok_eq_ok_iff]
  simp only [step_eq_ok_iff, State.next?_terminate_iff]
  constructor
  · rintro ⟨_, ⟨_, ⟨hlive, hne, rfl⟩, rfl⟩, rfl⟩
    exact ⟨⟨hlive, hne⟩, rfl⟩
  · rintro ⟨⟨hlive, hne⟩, rfl⟩
    exact ⟨_, ⟨_, ⟨hlive, hne, rfl⟩, rfl⟩, rfl⟩

theorem resume_eq_ok_iff {p q : Transfer} {now : Instant} :
    p.resume now = .ok q ↔ ∃ prior, p.suspendedFrom = some prior ∧ p.state = .suspended ∧
      prior.canSuspend = true ∧ q = p.entered (.resume prior) prior now := by
  unfold resume
  cases p.suspendedFrom with
  | none => simp
  | some prior =>
      simp only [step_eq_ok_iff, State.next?_resume_iff, Option.some.injEq]
      constructor
      · rintro ⟨_, ⟨hstate, hprior, rfl⟩, rfl⟩
        exact ⟨_, rfl, hstate, hprior, rfl⟩
      · rintro ⟨_, rfl, hstate, hprior, rfl⟩
        exact ⟨_, ⟨hstate, hprior, rfl⟩, rfl⟩

/-- The transfer has ended, or has turned to termination. -/
def IsEnding (p : Transfer) : Prop := p.state = .terminating ∨ p.state.isTerminal = true

theorem not_isEnding_iff {p : Transfer} :
    ¬ p.IsEnding ↔ p.state.isTerminal = false ∧ p.state ≠ .terminating := by
  unfold IsEnding
  cases p.state <;> simp [State.isTerminal]

/-- A later content of one record between two writes of the store: whose record it is, what was
asked for, its lease and its version are the same. -/
structure Continues (q p : Transfer) : Prop where
  id_eq : q.id = p.id
  role_eq : q.role = p.role
  createdAt_eq : q.createdAt = p.createdAt
  request_eq : q.request = p.request
  lease_eq : q.lease = p.lease
  version_eq : q.version = p.version

namespace Continues

theorem refl (p : Transfer) : p.Continues p := ⟨rfl, rfl, rfl, rfl, rfl, rfl⟩

theorem trans {r q p : Transfer} (h : r.Continues q) (h' : q.Continues p) : r.Continues p :=
  ⟨h.id_eq.trans h'.id_eq, h.role_eq.trans h'.role_eq, h.createdAt_eq.trans h'.createdAt_eq,
    h.request_eq.trans h'.request_eq, h.lease_eq.trans h'.lease_eq,
    h.version_eq.trans h'.version_eq⟩

theorem of_step {p q : Transfer} {s : Step} {now : Instant} (h : p.step s now = .ok q) :
    q.Continues p := by
  obtain ⟨target, -, rfl⟩ := step_eq_ok_iff.1 h
  exact ⟨rfl, rfl, rfl, rfl, rfl, rfl⟩

theorem of_retry {p q : Transfer} {notBefore now : Instant} (h : p.retry notBefore now = .ok q) :
    q.Continues p := by
  obtain ⟨-, rfl⟩ := retry_eq_ok_iff.1 h
  exact ⟨rfl, rfl, rfl, rfl, rfl, rfl⟩

theorem of_fail {p q : Transfer} {detail : String} {now : Instant}
    (h : p.fail detail now = .ok q) : q.Continues p := by
  obtain ⟨-, rfl⟩ := fail_eq_ok_iff.1 h
  exact ⟨rfl, rfl, rfl, rfl, rfl, rfl⟩

theorem of_cancel {p q : Transfer} {now : Instant} (h : p.cancel now = .ok q) :
    q.Continues p := by
  obtain ⟨-, rfl⟩ := cancel_eq_ok_iff.1 h
  exact ⟨rfl, rfl, rfl, rfl, rfl, rfl⟩

theorem of_resume {p q : Transfer} {now : Instant} (h : p.resume now = .ok q) :
    q.Continues p := by
  obtain ⟨prior, -, -, -, rfl⟩ := resume_eq_ok_iff.1 h
  exact ⟨rfl, rfl, rfl, rfl, rfl, rfl⟩

theorem withoutCommand (p : Transfer) : p.withoutCommand.Continues p :=
  ⟨rfl, rfl, rfl, rfl, rfl, rfl⟩

theorem recordDataFlow (p : Transfer) (dataPlaneId handle : String) (now : Instant) :
    (p.recordDataFlow dataPlaneId handle now).Continues p :=
  ⟨rfl, rfl, rfl, rfl, rfl, rfl⟩

theorem recordCompletion (p : Transfer) (outcome : Outcome) :
    (p.recordCompletion outcome).Continues p :=
  ⟨rfl, rfl, rfl, rfl, rfl, rfl⟩

end Continues
end Connector.Transfer
