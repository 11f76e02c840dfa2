import Connector.Proofs.Transfer.Claimability
import Connector.Proofs.Transfer.Signal

/-!
# Passages along the state graph

An attempt that has something to do takes the record one step along the state graph.  What else it
may write goes with certain steps: a reason with turning to termination, the data flow with its
start, an instant to wait for with entering a state once more.  Statements:

* `passes_of_step`, `passes_of_retry`, `passes_of_fail`, `passes_of_cancel`, `passes_of_resume` —
  each way in which a worker moves a record is such a passage;
* `Passes.position_le` — no passage leads back: a suspended transfer stands where it is to come
  back to, and where a transfer stands is never earlier than it was;
* `isCoherent_accept` — no signal leaves a command that does not suit the state.
-/

namespace Connector.Transfer

/-- The second record is the first one after one step along the state graph, at an instant. -/
structure Passes (p : Transfer) (s : Step) (now : Instant) (q : Transfer) : Prop where
  edge : p.state.next? s = some q.state
  stateCount_eq : q.stateCount = if q.state = p.state then p.stateCount + 1 else 0
  stateTimestamp_eq : q.stateTimestamp = now
  suspendedFrom_eq : q.suspendedFrom = p.suspendedAfter s
  /-- The way back leads to where the transfer was suspended. -/
  resumes : ∀ prior, s = .resume prior → p.suspendedFrom = some prior
  pendingCommand_eq : q.pendingCommand = none
  errorDetail_eq : s ≠ .terminate → q.errorDetail = p.errorDetail
  dataFlow_eq : s ≠ .workerStarted → q.dataFlow = p.dataFlow
  /-- The first report on a flow counts. -/
  completion_eq : s ≠ .workerStarted → ∀ outcome, p.completion = some outcome →
    q.completion = some outcome
  retryAt_eq : s ≠ .retry → q.retryAt = none
  continues : q.Continues p

/-- What a step may find written: the first record without its command, with whatever is known of
its data flow. -/
structure Prepares (b p : Transfer) (s : Step) : Prop where
  frame : b = { p with pendingCommand := none, dataFlow := b.dataFlow, completion := b.completion }
  dataFlow_eq : s ≠ .workerStarted → b.dataFlow = p.dataFlow
  completion_eq : s ≠ .workerStarted → ∀ outcome, p.completion = some outcome →
    b.completion = some outcome

section Preparations
variable {p : Transfer}

theorem prepares_withoutCommand (p : Transfer) (s : Step) : p.withoutCommand.Prepares p s :=
  ⟨rfl, fun _ => rfl, fun _ _ h => h⟩

theorem prepares_self (calm : p.pendingCommand = none) (s : Step) : p.Prepares p s := by
  refine ⟨?_, fun _ => rfl, fun _ _ h => h⟩
  rw [← calm]

theorem prepares_recordDataFlow (calm : p.pendingCommand = none) (dataPlaneId handle : String)
    (now : Instant) : (p.recordDataFlow dataPlaneId handle now).Prepares p .workerStarted := by
  refine ⟨?_, fun h => absurd rfl h, fun h => absurd rfl h⟩
  rw [← calm]
  rfl

theorem prepares_recordCompletion (calm : p.pendingCommand = none) (outcome : Outcome) (s : Step) :
    (p.recordCompletion outcome).Prepares p s := by
  refine ⟨?_, fun _ => rfl, ?_⟩
  · rw [← calm]
    rfl
  · intro _ first h
    simp [recordCompletion, h]

end Preparations

section Moves
variable {b p q : Transfer} {now : Instant}

theorem passes_of_entered {s : Step} (hb : b.Prepares p s) (hs : ∀ prior, s = .resume prior →
      p.suspendedFrom = some prior) {target : State} (hnext : b.state.next? s = some target) :
    p.Passes s now (b.entered s target now) := by
  obtain ⟨frame, dataFlow_eq, completion_eq⟩ := hb
  have hstate : b.state = p.state := by rw [frame]
  have hfrom : b.suspendedAfter s = p.suspendedAfter s := by
    rw [frame]
    cases s <;> rfl
  refine ⟨hstate ▸ hnext, ?_, rfl, hfrom, hs, ?_, fun _ => ?_, dataFlow_eq, completion_eq,
    fun _ => rfl, ?_⟩
  · show (if target = b.state then b.stateCount + 1 else 0) = _
    rw [hstate, frame]
    rfl
  · show b.pendingCommand = none
    rw [frame]
  · show b.errorDetail = p.errorDetail
    rw [frame]
  · rw [frame]
    exact ⟨rfl, rfl, rfl, rfl, rfl, rfl⟩

/-- A step that is not the way back from suspension is a passage. -/
theorem passes_of_step {s : Step} (hb : b.Prepares p s) (hs : ∀ prior, s ≠ .resume prior)
    (h : b.step s now = .ok q) : p.Passes s now q := by
  obtain ⟨target, hnext, rfl⟩ := step_eq_ok_iff.1 h
  exact passes_of_entered hb (fun prior hprior => absurd hprior (hs prior)) hnext

theorem passes_of_resume (h : p.withoutCommand.resume now = .ok q) :
    ∃ prior, p.Passes (.resume prior) now q := by
  obtain ⟨prior, hprior, hstate, hsuspend, rfl⟩ := resume_eq_ok_iff.1 h
  refine ⟨prior, passes_of_entered (prepares_withoutCommand p _) ?_
    (State.next?_resume_iff.2 ⟨hstate, hsuspend, rfl⟩)⟩
  rintro _ heq
  cases heq
  exact hprior

theorem passes_of_retry {notBefore : Instant} (hb : b.Prepares p .retry)
    (h : b.retry notBefore now = .ok q) : p.Passes .retry now q := by
  obtain ⟨hretry, rfl⟩ := retry_eq_ok_iff.1 h
  have hpasses : p.Passes .retry now (b.entered .retry b.state now) :=
    passes_of_entered hb (by simp) (State.next?_retry_iff.2 ⟨hretry, rfl⟩)
  exact { hpasses with
    retryAt_eq := fun h => absurd rfl h
    continues := ⟨hpasses.continues.id_eq, hpasses.continues.role_eq,
      hpasses.continues.createdAt_eq, hpasses.continues.request_eq, hpasses.continues.lease_eq,
      hpasses.continues.version_eq⟩ }

/-- Turning to termination is a passage, with a reason or without. -/
theorem passes_of_terminate (hb : b.Prepares p .terminate)
    (hlive : b.state.isTerminal = false ∧ b.state ≠ .terminating) (detail : Option String) :
    p.Passes .terminate now { b.entered .terminate .terminating now with
      errorDetail := detail, pendingCommand := none } := by
  have hpasses : p.Passes .terminate now (b.entered .terminate .terminating now) :=
    passes_of_entered hb (by simp) (State.next?_terminate_iff.2 ⟨hlive.1, hlive.2, rfl⟩)
  exact { hpasses with
    pendingCommand_eq := rfl
    errorDetail_eq := fun h => absurd rfl h
    continues := ⟨hpasses.continues.id_eq, hpasses.continues.role_eq,
      hpasses.continues.createdAt_eq, hpasses.continues.request_eq, hpasses.continues.lease_eq,
      hpasses.continues.version_eq⟩ }

theorem passes_of_fail {detail : String} (hb : b.Prepares p .terminate)
    (h : b.fail detail now = .ok q) : p.Passes .terminate now q := by
  obtain ⟨hlive, rfl⟩ := fail_eq_ok_iff.1 h
  exact passes_of_terminate hb hlive (some detail)

theorem passes_of_cancel (hb : b.Prepares p .terminate) (h : b.cancel now = .ok q) :
    p.Passes .terminate now q := by
  obtain ⟨hlive, rfl⟩ := cancel_eq_ok_iff.1 h
  exact passes_of_terminate hb hlive b.errorDetail

end Moves

/-! ## Records whose commands suit their states -/

/-- The states that a command suits. -/
def Command.Suits : Command → State → Prop
  | .cancel, s => s.isTerminal = false ∧ s ≠ .terminating
  | .suspend, s => s.canSuspend = true
  | .resume, s => s = .suspended

/-- The command of a record suits its state, and a suspended record knows where to come back
to. -/
structure IsCoherent (r : Transfer) : Prop where
  suits : ∀ c, r.pendingCommand = some c → c.Suits r.state
  suspended : r.state = .suspended →
    ∃ prior, r.suspendedFrom = some prior ∧ prior.canSuspend = true

/-- A coherent record on which there is something to do. -/
structure IsActionable (r : Transfer) : Prop extends IsCoherent r where
  live : r.state.isTerminal = false
  commanded : r.state = .suspended → r.pendingCommand ≠ none

variable {p q : Transfer}

/-- What can be suspended does not end yet. -/
theorem not_isEnding_of_canSuspend (h : p.state.canSuspend = true) : ¬ p.IsEnding := by
  rintro (hstate | hstate) <;> simp [State.canSuspend, hstate] at h

/-- On what may be claimed there is something to do. -/
theorem isActionable_of_isClaimable {now : Instant} (h : p.IsCoherent)
    (claimable : p.isClaimable now = true) : p.IsActionable :=
  have live : p.IsLive := (isClaimable_iff.1 claimable).1
  ⟨h, live.going, live.commanded⟩

/-- A command that a signal leaves was there before, or suits the state. -/
theorem suits_of_accept {x : Signal} {c : Command} (accepted : p.accept x = .ok (some q))
    (pending : q.pendingCommand = some c) : p.pendingCommand = some c ∨ c.Suits p.state := by
  cases x with
  | cancel =>
      obtain ⟨live, -, rfl⟩ := accept_cancel_iff.1 accepted
      cases pending
      exact Or.inr (not_isEnding_iff.1 live)
  | suspend =>
      rcases accept_suspend_iff.1 accepted with ⟨-, -, rfl⟩ | ⟨hsuspend, -, rfl⟩
      · cases pending
      · cases pending
        exact Or.inr hsuspend
  | resume =>
      rcases accept_resume_iff.1 accepted with ⟨-, rfl⟩ | ⟨hstate, -, rfl⟩
      · cases pending
      · cases pending
        exact Or.inr hstate
  | completion handle outcome =>
      rw [eq_of_accept_completion accepted] at pending
      exact Or.inl pending

/-- No signal leaves a command that does not suit the state. -/
theorem isCoherent_accept {x : Signal} (h : p.IsCoherent) (accepted : p.accept x = .ok (some q)) :
    q.IsCoherent := by
  have hframe := accept_frame accepted
  have hstate : q.state = p.state := by rw [hframe]
  have hfrom : q.suspendedFrom = p.suspendedFrom := by rw [hframe]
  refine ⟨?_, ?_⟩
  · intro c pending
    rw [hstate]
    exact (suits_of_accept accepted pending).elim (h.suits c) fun hsuits => hsuits
  · rw [hstate, hfrom]
    exact h.suspended

theorem State.next?_eq_suspended {s : State} {step : Step} (h : s.next? step = some .suspended) :
    step = .suspend ∧ s.canSuspend = true := by
  cases step with
  | suspend => exact ⟨rfl, (next?_suspend_iff.1 h).1⟩
  | retry =>
      obtain ⟨hretry, rfl⟩ := next?_retry_iff.1 h
      cases hretry
  | resume prior =>
      obtain ⟨-, hprior, rfl⟩ := next?_resume_iff.1 h
      cases hprior
  | terminate => cases (next?_terminate_iff.1 h).2.2
  | begin | dispatched | policyAllowed | workerStarted | workerFinished | finalized | terminated =>
      cases s <;> cases h

/-- A passage leaves a coherent record. -/
theorem Passes.isCoherent {s : Step} {now : Instant} (h : p.Passes s now q) : q.IsCoherent := by
  refine ⟨?_, ?_⟩
  · intro c pending
    cases h.pendingCommand_eq.symm.trans pending
  · intro hstate
    obtain ⟨rfl, canSuspend⟩ := State.next?_eq_suspended (hstate ▸ h.edge)
    exact ⟨p.state, h.suspendedFrom_eq, canSuspend⟩

/-! ## Where a transfer stands -/

/-- Where a transfer stands: a suspended one stands where it is to come back to. -/
def position (p : Transfer) : State :=
  match p.state, p.suspendedFrom with
  | .suspended, some prior => prior
  | s, _ => s

theorem position_of_state_ne (h : p.state ≠ .suspended) : p.position = p.state := by
  unfold position
  split
  · rename_i hstate _
    exact absurd hstate h
  · rfl

theorem position_of_suspended {prior : State} (hstate : p.state = .suspended)
    (hprior : p.suspendedFrom = some prior) : p.position = prior := by
  simp [position, hstate, hprior]

/-- A transfer stands at the state it is in, or is suspended from. -/
theorem position_eq_of {s : State} (hs : s ≠ .suspended)
    (h : p.state = s ∨ (p.state = .suspended ∧ p.suspendedFrom = some s)) : p.position = s := by
  rcases h with hstate | ⟨hstate, hprior⟩
  · exact (position_of_state_ne (hstate ▸ hs)).trans hstate
  · exact position_of_suspended hstate hprior

/-- An edge that has nothing to do with suspension leads to the same state, to termination, or one
state on. -/
theorem State.next?_forward {s t : State} {step : Step} (h : s.next? step = some t)
    (hs : s ≠ .suspended) (ht : t ≠ .suspended) :
    t = s ∨ (t = .terminating ∧ s.index ≤ t.index) ∨ t.index = s.index + 1 := by
  cases step with
  | retry => exact Or.inl (next?_retry_iff.1 h).2
  | suspend => exact absurd (next?_suspend_iff.1 h).2 ht
  | resume prior => exact absurd (next?_resume_iff.1 h).1 hs
  | terminate =>
      obtain ⟨hlive, -, rfl⟩ := next?_terminate_iff.1 h
      refine Or.inr (Or.inl ⟨rfl, ?_⟩)
      cases s with
      | completed | terminated => cases hlive
      | suspended => exact absurd rfl hs
      | initial | requesting | requested | starting | started | completing | terminating => decide
  | begin | dispatched | policyAllowed | workerStarted | workerFinished | finalized | terminated =>
      cases s <;> cases h
      all_goals exact Or.inr (Or.inr (by decide))

/-- From suspension a transfer goes back, or turns to termination. -/
theorem State.next?_suspended {t : State} {step : Step} (h : suspended.next? step = some t) :
    t = .terminating ∨ step = .resume t := by
  cases step with
  | resume prior =>
      obtain ⟨-, -, rfl⟩ := next?_resume_iff.1 h
      exact Or.inr rfl
  | terminate => exact Or.inl (next?_terminate_iff.1 h).2.2
  | begin | dispatched | policyAllowed | workerStarted | workerFinished | finalized | retry
  | suspend | terminated => cases h

/-- What can be suspended has not turned to termination. -/
theorem State.index_le_of_canSuspend {s : State} (h : s.canSuspend = true) :
    s.index ≤ terminating.index := by
  cases s <;> first | decide | cases h

/-- A passage leaves a transfer where it stands, or turns it to termination, or takes it one state
on. -/
theorem Passes.position_cases {s : Step} {now : Instant} (h : p.Passes s now q)
    (hp : p.IsCoherent) :
    q.position = p.position ∨
      (q.position = .terminating ∧ p.position.index ≤ q.position.index) ∨
      (p.position = p.state ∧ q.position = q.state ∧ q.state.index = p.state.index + 1) := by
  by_cases hq : q.state = .suspended
  · -- The transfer is suspended where it stands.
    obtain ⟨rfl, canSuspend⟩ := State.next?_eq_suspended (hq ▸ h.edge)
    have hne : p.state ≠ .suspended := by
      intro hstate
      rw [hstate] at canSuspend
      cases canSuspend
    exact Or.inl (by rw [position_of_state_ne hne, position_of_suspended hq h.suspendedFrom_eq])
  · rw [position_of_state_ne hq]
    by_cases hstate : p.state = .suspended
    · obtain ⟨prior, hprior, canSuspend⟩ := hp.suspended hstate
      rw [position_of_suspended hstate hprior]
      rcases State.next?_suspended (hstate ▸ h.edge) with hterm | rfl
      · rw [hterm]
        exact Or.inr (Or.inl ⟨rfl, State.index_le_of_canSuspend canSuspend⟩)
      · exact Or.inl (Option.some.inj ((h.resumes _ rfl).symm.trans hprior))
    · rw [position_of_state_ne hstate]
      rcases State.next?_forward h.edge hstate hq with hsame | hterm | hnext
      · exact Or.inl hsame
      · exact Or.inr (Or.inl hterm)
      · exact Or.inr (Or.inr ⟨rfl, rfl, hnext⟩)

/-- No passage leads back. -/
theorem Passes.position_le {s : Step} {now : Instant} (h : p.Passes s now q) (hp : p.IsCoherent) :
    p.position.index ≤ q.position.index := by
  rcases h.position_cases hp with hsame | ⟨-, hle⟩ | ⟨hp_eq, hq_eq, hnext⟩
  · exact Nat.le_of_eq (by rw [hsame])
  · exact hle
  · rw [hp_eq, hq_eq, hnext]
    exact Nat.le_succ _

end Connector.Transfer
