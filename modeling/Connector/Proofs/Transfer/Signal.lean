import Connector.Proofs.Transfer.Move

/-!
# What signals do to a record

A signal that is taken changes the command that waits, or records how the flow ended, and nothing
else.  Statements:

* `accept_frame` — what no signal changes;
* `accept_cancel_iff`, `accept_suspend_iff`, `accept_resume_iff`, `accept_completion_iff` — when
  each of the signals has an effect, and which;
* `completion_of_accept` — only the first report counts, and only on the flow that is recorded;
* `accept_of_cancel_pending`, `eq_of_accept_of_cancel_pending` — while a cancellation waits, the
  other commands are refused, and only a report on the flow has an effect;
* `pendingCommand_of_accept` — where a transfer ends, no signal leaves a command.
-/

namespace Connector.Transfer

variable {p q : Transfer} {x : Signal}

/-- An accepted signal leaves everything but the command and the completion. -/
theorem accept_frame (h : p.accept x = .ok (some q)) :
    q = { p with pendingCommand := q.pendingCommand, completion := q.completion } := by
  rcases accept_changes_command_or_completion h with hq | hq
  · rw [hq]
  · rw [hq]

theorem version_of_accept (h : p.accept x = .ok (some q)) : q.version = p.version := by
  rw [accept_frame h]

theorem id_of_accept (h : p.accept x = .ok (some q)) : q.id = p.id := by
  rw [accept_frame h]

/-- A cancellation has an effect unless the transfer ends anyway, or one waits already. -/
theorem accept_cancel_iff : p.accept .cancel = .ok (some q) ↔
    ¬ p.IsEnding ∧ p.pendingCommand ≠ some .cancel ∧ q = p.withCommand .cancel := by
  rw [not_isEnding_iff]
  simp only [accept]
  split
  · rename_i h
    simp only [Bool.or_eq_true, beq_iff_eq] at h
    refine ⟨nofun, ?_⟩
    rintro ⟨⟨live, hne⟩, hpending, -⟩
    rcases h with (hterminal | hstate) | hcancel
    · cases live.symm.trans hterminal
    · exact absurd hstate hne
    · exact absurd hcancel hpending
  · rename_i h
    simp only [Bool.or_eq_true, beq_iff_eq, not_or, Bool.not_eq_true] at h
    simp [h, eq_comm (a := q)]

/-- A suspension takes back what was to resume the transfer, or waits for a worker. -/
theorem accept_suspend_iff : p.accept .suspend = .ok (some q) ↔
    (p.state = .suspended ∧ p.pendingCommand = some .resume ∧ q = p.withoutCommand) ∨
      (p.state.canSuspend = true ∧ (p.pendingCommand = none ∨ p.pendingCommand = some .resume) ∧
        q = p.withCommand .suspend) := by
  by_cases hstate : p.state = .suspended
  · have hsuspend : State.suspended.canSuspend = false := rfl
    rcases hpending : p.pendingCommand with _ | (_ | _ | _) <;>
      simp [accept, refuse, hstate, hpending, hsuspend, eq_comm (a := q)]
  · cases hsuspend : p.state.canSuspend
    · simp [accept, refuse, hstate, hsuspend]
    · rcases hpending : p.pendingCommand with _ | (_ | _ | _) <;>
        simp [accept, refuse, hstate, hpending, hsuspend, eq_comm (a := q)]

/-- A resumption takes back what was to suspend the transfer, or waits for a worker. -/
theorem accept_resume_iff : p.accept .resume = .ok (some q) ↔
    (p.pendingCommand = some .suspend ∧ q = p.withoutCommand) ∨
      (p.state = .suspended ∧ p.pendingCommand = none ∧ q = p.withCommand .resume) := by
  by_cases hstate : p.state = .suspended <;>
    rcases hpending : p.pendingCommand with _ | (_ | _ | _) <;>
      simp [accept, refuse, hstate, hpending, eq_comm (a := q)]

/-- The first report on the flow that is recorded counts, as long as the transfer has not ended. -/
theorem accept_completion_iff {handle : String} {outcome : Outcome} :
    p.accept (.completion handle outcome) = .ok (some q) ↔
      p.state.isTerminal = false ∧ p.completion = none ∧
        (∃ flow, p.dataFlow = some flow ∧ flow.handle = handle) ∧
        q = { p with completion := some outcome } := by
  cases hterminal : p.state.isTerminal
  · cases hcompletion : p.completion with
    | some _ => simp [accept, hterminal, hcompletion]
    | none =>
        cases hflow : p.dataFlow with
        | none => simp [accept, hterminal, hcompletion, hflow]
        | some flow =>
            by_cases hhandle : flow.handle = handle <;>
              simp [accept, hterminal, hcompletion, hflow, hhandle, eq_comm (a := q)]
  · simp [accept, hterminal]

/-- A report that is taken is recorded, whoever it came from. -/
theorem eq_of_accept_completion {handle : String} {outcome : Outcome}
    (h : p.accept (.completion handle outcome) = .ok (some q)) :
    q = { p with completion := some outcome } :=
  (accept_completion_iff.1 h).2.2.2

/-- A signal leaves the report alone, or it is the first report on the flow that is recorded. -/
theorem completion_of_accept (h : p.accept x = .ok (some q)) :
    q.completion = p.completion ∨ ∃ flow outcome, p.dataFlow = some flow ∧ p.completion = none ∧
      x = .completion flow.handle outcome ∧ q.completion = some outcome := by
  cases x with
  | cancel =>
      obtain ⟨-, -, rfl⟩ := accept_cancel_iff.1 h
      exact Or.inl rfl
  | suspend =>
      rcases accept_suspend_iff.1 h with ⟨-, -, rfl⟩ | ⟨-, -, rfl⟩
      · exact Or.inl rfl
      · exact Or.inl rfl
  | resume =>
      rcases accept_resume_iff.1 h with ⟨-, rfl⟩ | ⟨-, -, rfl⟩
      · exact Or.inl rfl
      · exact Or.inl rfl
  | completion handle outcome =>
      obtain ⟨-, first, ⟨flow, hflow, rfl⟩, rfl⟩ := accept_completion_iff.1 h
      exact Or.inr ⟨flow, outcome, hflow, first, rfl, rfl⟩

/-- While a cancellation waits, the other commands are refused for that reason. -/
theorem accept_of_cancel_pending (pending : p.pendingCommand = some .cancel)
    (live : ¬ p.IsEnding) (hx : x = .suspend ∨ x = .resume) :
    p.accept x = .error (.wrongState p.state .cancellationPending) := by
  rcases hx with rfl | rfl
  · have hstate : ¬ (!p.state.canSuspend && p.state != .suspended) = true := by
      obtain ⟨hterminal, hne⟩ := not_isEnding_iff.1 live
      simp only [State.canSuspend, hterminal]
      cases hs : p.state <;> simp_all
    simp only [accept, hstate, pending, refuse]
    rfl
  · simp only [accept, pending, refuse]

/-- While a cancellation waits, only a report on the flow has an effect. -/
theorem eq_of_accept_of_cancel_pending (pending : p.pendingCommand = some .cancel)
    (h : p.accept x = .ok (some q)) : q = { p with completion := q.completion } := by
  cases x with
  | cancel => simp [accept, pending] at h
  | suspend =>
      simp only [accept, pending, refuse] at h
      split at h <;> cases h
  | resume => simp [accept, pending, refuse] at h
  | completion handle outcome => rw [eq_of_accept_completion h]

/-- Where a transfer ends and no command waits, no signal leaves one. -/
theorem pendingCommand_of_accept (ending : p.IsEnding) (calm : p.pendingCommand = none)
    (h : p.accept x = .ok (some q)) : q.pendingCommand = none := by
  have hsuspend : p.state.canSuspend = false := by
    rcases ending with hstate | hstate <;> simp [State.canSuspend, hstate]
  have hne : p.state ≠ .suspended := by
    rintro hstate
    simp [IsEnding, hstate, State.isTerminal] at ending
  cases x with
  | cancel =>
      rcases ending with hstate | hstate <;> simp [accept, hstate] at h
  | suspend => simp [accept, hsuspend, hne, refuse] at h
  | resume => simp [accept, calm, hne, refuse] at h
  | completion handle outcome =>
      rw [eq_of_accept_completion h]
      exact calm

end Connector.Transfer
