import Connector.Proofs.Transfer.Passage
import Connector.Proofs.Worker.Calls
import Connector.Proofs.Worker.Retrying

/-!
# Attempts that do not wait

A record that is to be left alone for a while is claimed before its time only for a cancellation, or
for the report on a flow that is tracked.  What the attempt does is told by the command and the
report; where a cancellation waits nothing else is looked at, and where a report is recorded nobody
is asked for one.  Statements:

* `on_of_isUrgent` — the attempt on an urgent record follows the command or takes the report;
* `callsWithin_on_of_isUrgent`, `Course.silent` — it calls nobody;
* `passes_of_isUrgent` — it leads to another state, and not into the same one once more.
-/

namespace Connector.Attempt

variable {allowed : Call → Prop} {c : Setup} {r p : Transfer} {now : Instant}
  {xs : List Exchange} {a b : Attempt}

/-- What an urgent record is claimed for: the command that waits, or else the report on the flow
that is tracked. -/
theorem on_of_isUrgent (c : Setup) (now : Instant) (urgent : r.isUrgent = true) :
    (∃ x, r.pendingCommand = some x ∧ on c r now = command r.withoutCommand x now) ∨
      (r.pendingCommand = none ∧ r.state = .started ∧
        ∃ outcome, r.completion = some outcome ∧ on c r now = flowEnded r outcome now) := by
  cases hpending : r.pendingCommand with
  | some x => exact Or.inl ⟨x, rfl, by rw [on, hpending]⟩
  | none =>
      have hreported : r.state = .started ∧ r.completion.isSome = true := by
        simpa [Transfer.isUrgent, hpending] using urgent
      obtain ⟨outcome, hcompletion⟩ := Option.isSome_iff_exists.1 hreported.2
      refine Or.inr ⟨rfl, hreported.1, outcome, hcompletion, ?_⟩
      simp only [on, hpending, ofState, hreported.1, tracking, hcompletion]

/-- The attempt on an urgent record calls nobody. -/
theorem callsWithin_on_of_isUrgent (allowed : Call → Prop) (c : Setup) (now : Instant)
    (urgent : r.isUrgent = true) : CallsWithin allowed 0 (on c r now) := by
  rcases on_of_isUrgent c now urgent with ⟨x, -, heq⟩ | ⟨-, -, outcome, -, heq⟩
  · rw [heq]
    exact callsWithin_command 0 _ x now
  · rw [heq]
    exact callsWithin_flowEnded 0 r outcome now

/-- Where no call may be made, none was made and none comes next. -/
theorem Course.silent (h : Course a xs b) (ha : CallsWithin allowed 0 a) :
    Exchange.calls xs = [] ∧ ∀ k next, b ≠ .call k next := by
  obtain ⟨m, hm, hlen⟩ := h.callsWithin ha
  have hnone : (Exchange.calls xs).length = 0 := by omega
  have hzero : m = 0 := by omega
  refine ⟨List.length_eq_zero_iff.1 hnone, ?_⟩
  rintro k next rfl
  obtain ⟨-, n, hn, -⟩ := callsWithin_call_iff.1 hm
  omega

/-- **What is urgent moves on.**  The attempt on an urgent record takes it along an edge of the
state graph that is not a retry. -/
theorem passes_of_isUrgent (hr : r.IsActionable) (urgent : r.isUrgent = true)
    (h : (on c r now).Yields xs p) : ∃ s t, s ≠ .retry ∧ r.Passes s t p := by
  rcases on_of_isUrgent c now urgent with ⟨x, hpending, heq⟩ | ⟨calm, -, outcome, -, heq⟩
  · rw [heq] at h
    unfold command at h
    rw [yields_note_iff] at h
    have hsuits := hr.suits x hpending
    cases x with
    | cancel =>
        obtain ⟨-, moved⟩ := yields_ended_iff.1 h
        exact ⟨_, _, by simp,
          Transfer.passes_of_cancel (Transfer.prepares_withoutCommand r _) moved⟩
    | suspend =>
        have canSuspend : r.withoutCommand.state.canSuspend = true := hsuits
        simp only [canSuspend, if_true] at h
        obtain ⟨-, moved⟩ := yields_ended_iff.1 h
        exact ⟨_, _, by simp,
          Transfer.passes_of_step (Transfer.prepares_withoutCommand r _) (by simp) moved⟩
    | resume =>
        have hstate : r.withoutCommand.state = .suspended := hsuits
        simp only [hstate, if_true] at h
        obtain ⟨-, moved⟩ := yields_ended_iff.1 h
        obtain ⟨prior, hpasses⟩ := Transfer.passes_of_resume moved
        exact ⟨_, _, by simp, hpasses⟩
  · rw [heq] at h
    obtain ⟨-, ⟨-, moved⟩ | ⟨detail, -, moved⟩⟩ := yields_flowEnded_iff.1 h
    · exact ⟨_, _, by simp, Transfer.passes_of_step (Transfer.prepares_self calm _) (by simp) moved⟩
    · exact ⟨_, _, by simp, Transfer.passes_of_fail (Transfer.prepares_self calm _) moved⟩

end Connector.Attempt
