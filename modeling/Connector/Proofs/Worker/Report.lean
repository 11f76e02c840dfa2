import Connector.Proofs.Worker.Outcome

/-!
# What an attempt learns of the flow

A flow is assigned to a record by the result that started it, and how it ended is found out by the
result that asked for it.  All the others leave both as they are; and without a report that the
flow succeeded none of them takes the record to completion.  Statements:

* `Result.news` — what a result says of the flow and its end;
* `Result.to_completed` — how a record comes to be completed;
* `Result.of_noFlow` — when the flow of a record is missed.
-/

namespace Connector.Attempt

variable (c : Setup) (r : Transfer) (now : Instant)

/-- What a result says of the flow and its end, by what was exchanged. -/
inductive News : List Exchange → Transfer → Prop where
  | unchanged {xs : List Exchange} {p : Transfer} (dataFlow_eq : p.dataFlow = r.dataFlow)
      (completion_eq : p.completion = r.completion)
      (unstarted : r.state = .starting → p.state ≠ .started)
      (unfinished : r.state = .started → p.state = .completing →
        r.completion = some .succeeded) : News xs p
  | assigned {p : Transfer} {d : DataPlane} {handle : String} {t : Instant}
      (state_eq : r.state = .starting) (started : p.state = .started)
      (dataFlow_eq : p.dataFlow = some ⟨d.id, handle, t⟩) (completion_eq : p.completion = none) :
      News [.inquiry (.select (.ofRequest r.request)) (.ok d),
        .call (.start d (flowOf c r)) (some (.ok handle)) t] p
  | reported {p : Transfer} {flow : Assignment} {d : DataPlane} {outcome : Outcome} {t : Instant}
      (tracked : IsTracked c r now flow) (dataFlow_eq : p.dataFlow = r.dataFlow)
      (completion_eq : p.completion = some outcome)
      (finished : p.state = .completing → outcome = .succeeded) :
      News [.inquiry (.find flow.dataPlaneId) (.ok (some d)),
        .call (.poll d flow.handle) (some (.ok (some outcome))) t] p

variable {c r now} {xs : List Exchange} {p : Transfer}

/-- A result in the state of the record, or in one that has nothing to do with the flow, brings no
news. -/
theorem news_of_state (dataFlow_eq : p.dataFlow = r.dataFlow)
    (completion_eq : p.completion = r.completion)
    (hstate : p.state = r.state ∨ (p.state ≠ .started ∧ p.state ≠ .completing)) :
    News c r now xs p := by
  refine .unchanged dataFlow_eq completion_eq ?_ ?_
  · rintro hr hp
    rcases hstate with hsame | ⟨hne, -⟩
    · rw [hsame, hr] at hp
      cases hp
    · exact hne hp
  · rintro hr hp
    rcases hstate with hsame | ⟨-, hne⟩
    · rw [hsame, hr] at hp
      cases hp
    · exact absurd hp hne

/-- What a failure says of the flow. -/
theorem Failure.news {detail : String} {t : Instant} {q : Transfer}
    (h : Failure c r now xs detail t q) (moved : q.fail detail t = .ok p) : News c r now xs p := by
  obtain ⟨-, rfl⟩ := Transfer.fail_eq_ok_iff.1 moved
  cases h with
  | polled tracked =>
      refine .reported tracked rfl ?_ nofun
      show (r.recordCompletion _).completion = _
      rw [Transfer.recordCompletion, tracked.completion_eq]
      rfl
  | openingRejected | unbound | denied | startRejected | reported | noFlow | overdue
  | pollRejected | completionRejected => exact news_of_state rfl rfl (Or.inr ⟨nofun, nofun⟩)

/-- **What a result says of the flow.** -/
theorem Result.news (h : Result c r now xs p) : News c r now xs p := by
  cases h with
  | cancelled _ moved =>
      obtain ⟨-, rfl⟩ := Transfer.cancel_eq_ok_iff.1 moved
      exact news_of_state rfl rfl (Or.inr ⟨nofun, nofun⟩)
  | suspended _ canSuspend moved =>
      obtain ⟨_, hnext, rfl⟩ := Transfer.step_eq_ok_iff.1 moved
      obtain ⟨-, rfl⟩ := Transfer.State.next?_suspend_iff.1 hnext
      exact news_of_state rfl rfl (Or.inr ⟨nofun, nofun⟩)
  | resumed _ state_eq moved =>
      obtain ⟨_, -, -, -, rfl⟩ := Transfer.resume_eq_ok_iff.1 moved
      exact .unchanged rfl rfl (by simp [state_eq]) (by simp [state_eq])
  | ignored | idle => exact news_of_state rfl rfl (Or.inl rfl)
  | begun _ state_eq moved | dispatched _ state_eq moved | allowed _ state_eq moved
  | finalized _ state_eq moved | terminated _ state_eq _ moved =>
      obtain ⟨_, hnext, rfl⟩ := Transfer.step_eq_ok_iff.1 moved
      rw [state_eq] at hnext
      cases hnext
      exact news_of_state rfl rfl (Or.inr ⟨nofun, nofun⟩)
  | started _ state_eq moved =>
      obtain ⟨_, hnext, rfl⟩ := Transfer.step_eq_ok_iff.1 moved
      rw [show (r.recordDataFlow _ _ _).state = .starting from state_eq] at hnext
      cases hnext
      exact .assigned state_eq rfl rfl rfl
  | reported _ state_eq completion_eq moved =>
      obtain ⟨_, hnext, rfl⟩ := Transfer.step_eq_ok_iff.1 moved
      exact .unchanged rfl rfl (by simp [state_eq]) fun _ _ => completion_eq
  | polled _ tracked moved =>
      obtain ⟨_, hnext, rfl⟩ := Transfer.step_eq_ok_iff.1 moved
      refine .reported tracked rfl ?_ fun _ => rfl
      show (r.recordCompletion _).completion = _
      rw [Transfer.recordCompletion, tracked.completion_eq]
      rfl
  | unannounced _ _ _ _ _ moved | retried _ _ _ _ moved | awaited _ _ _ _ moved =>
      obtain ⟨-, rfl⟩ := Transfer.retry_eq_ok_iff.1 moved
      exact news_of_state rfl rfl (Or.inl rfl)
  | exhausted _ _ _ moved =>
      obtain ⟨-, rfl⟩ := Transfer.fail_eq_ok_iff.1 moved
      exact news_of_state rfl rfl (Or.inr ⟨nofun, nofun⟩)
  | failed _ failure moved => exact failure.news moved

/-- A result is completed only if the record was, or if the message of completion has just been
accepted. -/
theorem Result.to_completed (h : Result c r now xs p) (hp : p.state = .completed) :
    r.state = .completed ∨
      ∃ t, xs = [.call (.send (.ofTransfer .completion r)) (some (.ok ())) t] := by
  cases h with
  | ignored | idle => exact Or.inl hp
  | finalized => exact Or.inr ⟨_, rfl⟩
  | resumed _ _ moved =>
      obtain ⟨prior, -, -, hprior, rfl⟩ := Transfer.resume_eq_ok_iff.1 moved
      obtain rfl : prior = .completed := hp
      cases hprior
  | unannounced _ _ _ _ _ moved | retried _ _ _ _ moved | awaited _ _ _ _ moved =>
      obtain ⟨-, rfl⟩ := Transfer.retry_eq_ok_iff.1 moved
      exact Or.inl hp
  | cancelled _ moved =>
      obtain ⟨-, rfl⟩ := Transfer.cancel_eq_ok_iff.1 moved
      cases hp
  | exhausted _ _ _ moved | failed _ _ moved =>
      obtain ⟨-, rfl⟩ := Transfer.fail_eq_ok_iff.1 moved
      cases hp
  | suspended _ _ moved =>
      obtain ⟨target, hnext, rfl⟩ := Transfer.step_eq_ok_iff.1 moved
      obtain rfl : target = .completed := hp
      cases (Transfer.State.next?_suspend_iff.1 hnext).2
  | started _ state_eq moved =>
      obtain ⟨target, hnext, rfl⟩ := Transfer.step_eq_ok_iff.1 moved
      rw [show (r.recordDataFlow _ _ _).state = .starting from state_eq] at hnext
      cases hnext
      cases hp
  | polled _ tracked moved =>
      obtain ⟨target, hnext, rfl⟩ := Transfer.step_eq_ok_iff.1 moved
      rw [show (r.recordCompletion _).state = .started from tracked.state_eq] at hnext
      cases hnext
      cases hp
  | begun _ state_eq moved | dispatched _ state_eq moved | allowed _ state_eq moved
  | reported _ state_eq _ moved | terminated _ state_eq _ moved =>
      obtain ⟨target, hnext, rfl⟩ := Transfer.step_eq_ok_iff.1 moved
      rw [state_eq] at hnext
      cases hnext
      cases hp

/-- The reason that is given when the flow of a record is missed. -/
def noFlowDetail : String := "no data flow recorded"

/-- Texts that begin differently differ. -/
theorem append_ne_of_head {a b s : String} {x y : Char} (ha : a.toList.head? = some x)
    (hb : b.toList.head? = some y) (hne : x ≠ y) : a ++ s ≠ b := by
  intro heq
  have hhead := congrArg (fun z : String => z.toList.head?) heq
  simp only [String.toList_append, List.head?_append, ha, hb, Option.some_or] at hhead
  exact hne (Option.some.inj hhead)

theorem Setback.detail_ne {detail : String} {t : Instant} (h : Setback c r now xs detail t) :
    detail ≠ noFlowDetail := by
  cases h <;> decide

/-- Only where a flow is missed is that given as the reason. -/
theorem Failure.of_noFlow {detail : String} {t : Instant} {q : Transfer}
    (h : Failure c r now xs detail t q) (heq : detail = noFlowDetail) :
    r.state = .started ∧ r.dataFlow = none := by
  cases h with
  | noFlow state_eq _ dataFlow_eq => exact ⟨state_eq, dataFlow_eq⟩
  | overdue => exact absurd heq (by decide)
  | openingRejected | startRejected | pollRejected | completionRejected =>
      exact absurd heq (append_ne_of_head (x := 'd') (y := 'n') rfl rfl (by decide))
  | unbound | denied =>
      exact absurd heq (append_ne_of_head (x := 'p') (y := 'n') rfl rfl (by decide))
  | reported | polled =>
      exact absurd heq (append_ne_of_head (x := 't') (y := 'n') rfl rfl (by decide))

/-- That the flow was missed is given as the reason only on a record that had the reason before, or
that was to be tracked without a flow. -/
theorem Result.of_noFlow (h : Result c r now xs p) (hp : p.errorDetail = some noFlowDetail) :
    r.errorDetail = some noFlowDetail ∨ (r.state = .started ∧ r.dataFlow = none) := by
  cases h with
  | cancelled _ moved =>
      obtain ⟨-, rfl⟩ := Transfer.cancel_eq_ok_iff.1 moved
      exact Or.inl hp
  | resumed _ _ moved =>
      obtain ⟨_, -, -, -, rfl⟩ := Transfer.resume_eq_ok_iff.1 moved
      exact Or.inl hp
  | ignored | idle => exact Or.inl hp
  | suspended _ _ moved | begun _ _ moved | dispatched _ _ moved | allowed _ _ moved
  | started _ _ moved | reported _ _ _ moved | polled _ _ moved | finalized _ _ moved
  | terminated _ _ _ moved =>
      obtain ⟨_, -, rfl⟩ := Transfer.step_eq_ok_iff.1 moved
      exact Or.inl hp
  | unannounced _ _ _ _ _ moved | retried _ _ _ _ moved | awaited _ _ _ _ moved =>
      obtain ⟨-, rfl⟩ := Transfer.retry_eq_ok_iff.1 moved
      exact Or.inl hp
  | exhausted _ setback _ moved =>
      obtain ⟨-, rfl⟩ := Transfer.fail_eq_ok_iff.1 moved
      exact absurd (Option.some.inj hp) setback.detail_ne
  | failed _ failure moved =>
      obtain ⟨-, rfl⟩ := Transfer.fail_eq_ok_iff.1 moved
      exact Or.inr (failure.of_noFlow (Option.some.inj hp))

end Connector.Attempt
