import Connector.Proofs.Transfer.Move
import Connector.Proofs.Worker.Course

/-!
# What an attempt can lead to

The attempt on a record that was claimed leads to one of the results listed here and to no other,
whatever the others answer.  A result tells what was exchanged and which move of the record came
of it, so that nothing else needs to look into the attempts.  Statements:

* `result_of_yields` — every course of an attempt that ends with a record is such a result;
* `Result.continues` — a result is a later content of the claimed record.
-/

namespace Connector.Attempt

variable (c : Setup) (r : Transfer) (now : Instant)

/-- A message did not get through, as far as one knows: there was no answer in time, or a fault
that may pass. -/
def IsUnheard (answer : Option (Except DispatchFault Unit)) : Prop :=
  answer = none ∨ ∃ reason, answer = some (.error (.transient reason))

/-- A failure that may pass, by what was exchanged: why the transfer ends if it does not pass, and
when it was seen. -/
inductive Setback : List Exchange → String → Instant → Prop where
  | opening {answer : Option (Except DispatchFault Unit)} {t : Instant}
      (state_eq : r.state = .requesting) (unheard : IsUnheard answer) :
      Setback [.call (.send (.ofTransfer (Message.openingKind r.role) r)) answer t]
        dispatchExhausted t
  | policy {answer : Option (Except String (Option ResolvedPolicy))} {t : Instant}
      (state_eq : r.state = .requested)
      (silent : answer = none ∨ ∃ e, answer = some (.error e)) :
      Setback [.call (.policy r.request.agreementId) answer t] policyUnavailable t
  | selection {e : RegistryFault} (state_eq : r.state = .starting) :
      Setback [.inquiry (.select (.ofRequest r.request)) (.error e)] noCapableWorker now
  | start {d : DataPlane} {answer : Option (Except DataPlaneFault String)} {t : Instant}
      (state_eq : r.state = .starting)
      (silent : answer = none ∨ ∃ reason, answer = some (.error (.unavailable reason))) :
      Setback [.inquiry (.select (.ofRequest r.request)) (.ok d),
        .call (.start d (flowOf c r)) answer t] noCapableWorker t
  | completion {answer : Option (Except DispatchFault Unit)} {t : Instant}
      (state_eq : r.state = .completing) (unheard : IsUnheard answer) :
      Setback [.call (.send (.ofTransfer .completion r)) answer t] dispatchExhausted t

/-- The flow of a record is to be asked about: nothing is known of its end, and it does not take
too long yet. -/
structure IsTracked (flow : Assignment) : Prop where
  state_eq : r.state = .started
  completion_eq : r.completion = none
  dataFlow_eq : r.dataFlow = some flow
  onTime : isOverdue c flow now = false

/-- Nothing was learnt about a flow: its data plane is not to be found, or has no news. -/
inductive NoNews (flow : Assignment) : List Exchange → Instant → Prop where
  | unfound {answer : Except RegistryFault (Option DataPlane)}
      (missing : answer = .ok none ∨ ∃ e, answer = .error e) :
      NoNews flow [.inquiry (.find flow.dataPlaneId) answer] now
  | polled {d : DataPlane} {answer : Option (Except DataPlaneFault (Option Outcome))}
      {t : Instant}
      (silent : answer = none ∨ answer = some (.ok none) ∨
        ∃ reason, answer = some (.error (.unavailable reason))) :
      NoNews flow [.inquiry (.find flow.dataPlaneId) (.ok (some d)),
        .call (.poll d flow.handle) answer t] t

/-- A failure without remedy: what was exchanged, why the transfer ends, when it was seen, and the
record that ends. -/
inductive Failure : List Exchange → String → Instant → Transfer → Prop where
  | openingRejected {reason : String} {t : Instant} (state_eq : r.state = .requesting) :
      Failure [.call (.send (.ofTransfer (Message.openingKind r.role) r))
        (some (.error (.rejected reason))) t] ("dispatch rejected: " ++ reason) t r
  | unbound {t : Instant} (state_eq : r.state = .requested) :
      Failure [.call (.policy r.request.agreementId) (some (.ok none)) t]
        ("policy denied: no policy bound to agreement " ++ r.request.agreementId) t r
  | denied {resolved : ResolvedPolicy} {reasons : List String} {t : Instant}
      (state_eq : r.state = .requested) :
      Failure [.call (.policy r.request.agreementId) (some (.ok (some resolved))) t,
        .inquiry (.judge resolved.document (policyContext c r resolved.attributes))
          (.deny reasons)]
        ("policy denied: " ++ (Decision.deny reasons).reason?.getD "") t r
  | startRejected {d : DataPlane} {reason : String} {t : Instant}
      (state_eq : r.state = .starting) :
      Failure [.inquiry (.select (.ofRequest r.request)) (.ok d),
        .call (.start d (flowOf c r)) (some (.error (.rejected reason))) t]
        ("data plane rejected: " ++ reason) t r
  | reported {detail : String} (state_eq : r.state = .started)
      (completion_eq : r.completion = some (.failed detail)) :
      Failure [] ("transfer failed: " ++ detail) now r
  | noFlow (state_eq : r.state = .started) (completion_eq : r.completion = none)
      (dataFlow_eq : r.dataFlow = none) : Failure [] "no data flow recorded" now r
  | overdue {flow : Assignment} (state_eq : r.state = .started)
      (completion_eq : r.completion = none) (dataFlow_eq : r.dataFlow = some flow)
      (late : isOverdue c flow now = true) : Failure [] transferTimedOut now r
  | polled {flow : Assignment} {d : DataPlane} {detail : String} {t : Instant}
      (tracked : IsTracked c r now flow) :
      Failure [.inquiry (.find flow.dataPlaneId) (.ok (some d)),
        .call (.poll d flow.handle) (some (.ok (some (.failed detail)))) t]
        ("transfer failed: " ++ detail) t (r.recordCompletion (.failed detail))
  | pollRejected {flow : Assignment} {d : DataPlane} {reason : String} {t : Instant}
      (tracked : IsTracked c r now flow) :
      Failure [.inquiry (.find flow.dataPlaneId) (.ok (some d)),
        .call (.poll d flow.handle) (some (.error (.rejected reason))) t]
        ("data plane rejected: " ++ reason) t r
  | completionRejected {reason : String} {t : Instant} (state_eq : r.state = .completing) :
      Failure [.call (.send (.ofTransfer .completion r)) (some (.error (.rejected reason))) t]
        ("dispatch rejected: " ++ reason) t r

/-- The instant before which a record is not to be claimed again, after a failure that may pass. -/
def nextAttempt? (t : Instant) : Option Instant :=
  t.later? (c.orchestration.retry.delay r.stateCount).toDistance

/-- What became of a record that was claimed, and what was exchanged for it. -/
inductive Result : List Exchange → Transfer → Prop where
  | cancelled {p : Transfer} (pending : r.pendingCommand = some .cancel)
      (moved : r.withoutCommand.cancel now = .ok p) : Result [] p
  | suspended {p : Transfer} (pending : r.pendingCommand = some .suspend)
      (canSuspend : r.state.canSuspend = true)
      (moved : r.withoutCommand.step .suspend now = .ok p) : Result [] p
  | resumed {p : Transfer} (pending : r.pendingCommand = some .resume)
      (state_eq : r.state = .suspended) (moved : r.withoutCommand.resume now = .ok p) :
      Result [] p
  /-- A command that does not suit the state is dropped. -/
  | ignored
      (pending : (r.pendingCommand = some .suspend ∧ r.state.canSuspend = false) ∨
        (r.pendingCommand = some .resume ∧ r.state ≠ .suspended)) : Result [] r.withoutCommand
  /-- There is nothing to do. -/
  | idle (calm : r.pendingCommand = none)
      (still : r.state = .suspended ∨ r.state.isTerminal = true) : Result [] r
  | begun {p : Transfer} (calm : r.pendingCommand = none) (state_eq : r.state = .initial)
      (moved : r.step .begin now = .ok p) : Result [] p
  | dispatched {p : Transfer} {t : Instant} (calm : r.pendingCommand = none)
      (state_eq : r.state = .requesting) (moved : r.step .dispatched t = .ok p) :
      Result [.call (.send (.ofTransfer (Message.openingKind r.role) r)) (some (.ok ())) t] p
  | allowed {p : Transfer} {resolved : ResolvedPolicy} {t : Instant}
      (calm : r.pendingCommand = none) (state_eq : r.state = .requested)
      (moved : r.step .policyAllowed t = .ok p) :
      Result [.call (.policy r.request.agreementId) (some (.ok (some resolved))) t,
        .inquiry (.judge resolved.document (policyContext c r resolved.attributes)) .allow] p
  | started {p : Transfer} {d : DataPlane} {handle : String} {t : Instant}
      (calm : r.pendingCommand = none) (state_eq : r.state = .starting)
      (moved : (r.recordDataFlow d.id handle t).step .workerStarted t = .ok p) :
      Result [.inquiry (.select (.ofRequest r.request)) (.ok d),
        .call (.start d (flowOf c r)) (some (.ok handle)) t] p
  | reported {p : Transfer} (calm : r.pendingCommand = none) (state_eq : r.state = .started)
      (completion_eq : r.completion = some .succeeded)
      (moved : r.step .workerFinished now = .ok p) : Result [] p
  | polled {p : Transfer} {flow : Assignment} {d : DataPlane} {t : Instant}
      (calm : r.pendingCommand = none) (tracked : IsTracked c r now flow)
      (moved : (r.recordCompletion .succeeded).step .workerFinished t = .ok p) :
      Result [.inquiry (.find flow.dataPlaneId) (.ok (some d)),
        .call (.poll d flow.handle) (some (.ok (some .succeeded))) t] p
  | finalized {p : Transfer} {t : Instant} (calm : r.pendingCommand = none)
      (state_eq : r.state = .completing) (moved : r.step .finalized t = .ok p) :
      Result [.call (.send (.ofTransfer .completion r)) (some (.ok ())) t] p
  /-- The termination was announced, or its announcement given up. -/
  | terminated {p : Transfer} {answer : Option (Except DispatchFault Unit)} {t : Instant}
      (calm : r.pendingCommand = none) (state_eq : r.state = .terminating)
      (final : answer = some (.ok ()) ∨ (∃ reason, answer = some (.error (.rejected reason))) ∨
        (IsUnheard answer ∧ c.orchestration.retry.isExhausted r.stateCount = true))
      (moved : r.step .terminated t = .ok p) :
      Result [.call (.send (.ofTransfer .termination r)) answer t] p
  | unannounced {p : Transfer} {answer : Option (Except DispatchFault Unit)}
      {t notBefore : Instant} (calm : r.pendingCommand = none)
      (state_eq : r.state = .terminating) (unheard : IsUnheard answer)
      (again : c.orchestration.retry.isExhausted r.stateCount = false)
      (next_eq : nextAttempt? c r t = some notBefore) (moved : r.retry notBefore t = .ok p) :
      Result [.call (.send (.ofTransfer .termination r)) answer t] p
  | retried {p : Transfer} {xs : List Exchange} {detail : String} {t notBefore : Instant}
      (calm : r.pendingCommand = none) (setback : Setback c r now xs detail t)
      (again : c.orchestration.retry.isExhausted r.stateCount = false)
      (next_eq : nextAttempt? c r t = some notBefore) (moved : r.retry notBefore t = .ok p) :
      Result xs p
  | exhausted {p : Transfer} {xs : List Exchange} {detail : String} {t : Instant}
      (calm : r.pendingCommand = none) (setback : Setback c r now xs detail t)
      (last : c.orchestration.retry.isExhausted r.stateCount = true)
      (moved : r.fail detail t = .ok p) : Result xs p
  /-- The flow goes on, and is asked about later. -/
  | awaited {p : Transfer} {flow : Assignment} {xs : List Exchange} {t nextPoll : Instant}
      (calm : r.pendingCommand = none) (tracked : IsTracked c r now flow)
      (silent : NoNews now flow xs t)
      (next_eq : now.later? c.orchestration.statusPollInterval.toDistance = some nextPoll)
      (moved : r.retry nextPoll t = .ok p) : Result xs p
  | failed {p q : Transfer} {xs : List Exchange} {detail : String} {t : Instant}
      (calm : r.pendingCommand = none) (failure : Failure c r now xs detail t q)
      (moved : q.fail detail t = .ok p) : Result xs p

/-! ## Every course ends with one of these results -/

variable {c : Setup} {r : Transfer} {now : Instant} {xs : List Exchange} {p : Transfer}

theorem yields_retryLater_iff {t : Instant} :
    (retryLater c r t).Yields xs p ↔
      xs = [] ∧ ∃ notBefore, nextAttempt? c r t = some notBefore ∧ r.retry notBefore t = .ok p := by
  unfold retryLater nextAttempt?
  cases t.later? (c.orchestration.retry.delay r.stateCount).toDistance with
  | none => simp
  | some notBefore => simp

theorem Setback.result {before : List Exchange} {detail : String} {t : Instant}
    (h : Setback c r now before detail t) (calm : r.pendingCommand = none)
    (hy : (retryOrFail c r detail t).Yields xs p) : xs = [] ∧ Result c r now before p := by
  unfold retryOrFail at hy
  split at hy
  · rename_i last
    simp only [yields_note_iff, yields_ended_iff] at hy
    exact ⟨hy.1, .exhausted calm h last hy.2⟩
  · rename_i again
    obtain ⟨hxs, notBefore, next_eq, moved⟩ := yields_retryLater_iff.1 hy
    exact ⟨hxs, .retried calm h (by simpa using again) next_eq moved⟩

theorem Failure.result {before : List Exchange} {detail : String} {t : Instant} {q : Transfer}
    (h : Failure c r now before detail t q) (calm : r.pendingCommand = none)
    (hy : (ended (q.fail detail t)).Yields xs p) : xs = [] ∧ Result c r now before p := by
  rw [yields_ended_iff] at hy
  exact ⟨hy.1, .failed calm h hy.2⟩

theorem yields_dispatch_iff {kind : MessageKind}
    {next : Except DispatchFault Unit → Instant → Attempt} :
    (dispatch c kind r next).Yields xs p ↔
      ∃ (answer : Option (Except DispatchFault Unit)) (t : Instant) (ys : List Exchange),
        xs = .call (.send (.ofTransfer kind r)) answer t :: ys ∧
          (next (answer.getD (.error (noResponse c))) t).Yields ys p :=
  yields_call_iff

/-- What a message was answered decides on one of three ways on; no answer in time counts as a
fault that may pass. -/
theorem dispatch_cases (c : Setup) (answer : Option (Except DispatchFault Unit)) :
    (answer = some (.ok ()) ∧ answer.getD (.error (noResponse c)) = .ok ()) ∨
      (∃ reason, IsUnheard answer ∧
        answer.getD (.error (noResponse c)) = .error (.transient reason)) ∨
      ∃ reason, answer = some (.error (.rejected reason)) ∧
        answer.getD (.error (noResponse c)) = .error (.rejected reason) := by
  rcases answer with _ | ⟨(reason | reason) | ⟨⟩⟩
  · exact Or.inr (Or.inl ⟨_, Or.inl rfl, rfl⟩)
  · exact Or.inr (Or.inl ⟨_, Or.inr ⟨_, rfl⟩, rfl⟩)
  · exact Or.inr (Or.inr ⟨_, rfl, rfl⟩)
  · exact Or.inl ⟨rfl, rfl⟩

theorem result_of_opening (calm : r.pendingCommand = none) (state_eq : r.state = .requesting)
    (hy : (opening c r).Yields xs p) : Result c r now xs p := by
  obtain ⟨answer, t, ys, rfl, hrest⟩ := yields_dispatch_iff.1 hy
  rcases dispatch_cases c answer with ⟨rfl, -⟩ | ⟨reason, unheard, heq⟩ | ⟨reason, rfl, -⟩
  · obtain ⟨rfl, moved⟩ := yields_ended_iff.1 hrest
    exact .dispatched calm state_eq moved
  · rw [heq] at hrest
    obtain ⟨rfl, hresult⟩ :=
      (Setback.opening state_eq unheard).result calm (yields_note_iff.1 hrest)
    exact hresult
  · obtain ⟨rfl, hresult⟩ := (Failure.openingRejected state_eq).result calm hrest
    exact hresult

theorem result_of_policyCheck (calm : r.pendingCommand = none) (state_eq : r.state = .requested)
    (hy : (policyCheck c r).Yields xs p) : Result c r now xs p := by
  obtain ⟨answer, t, ys, rfl, hrest⟩ := yields_call_iff.1 hy
  rcases answer with _ | (e | (_ | resolved))
  · obtain ⟨rfl, hresult⟩ :=
      (Setback.policy state_eq (Or.inl rfl)).result calm (yields_note_iff.1 hrest)
    exact hresult
  · obtain ⟨rfl, hresult⟩ :=
      (Setback.policy state_eq (Or.inr ⟨e, rfl⟩)).result calm (yields_note_iff.1 hrest)
    exact hresult
  · obtain ⟨rfl, hresult⟩ := (Failure.unbound state_eq).result calm hrest
    exact hresult
  · obtain ⟨verdict, zs, rfl, hverdict⟩ := yields_ask_iff.1 hrest
    rcases verdict with _ | reasons
    · obtain ⟨rfl, moved⟩ := yields_ended_iff.1 hverdict
      exact .allowed calm state_eq moved
    · obtain ⟨rfl, hresult⟩ :=
        (Failure.denied state_eq).result calm (yields_note_iff.1 hverdict)
      exact hresult

theorem result_of_startOn {d : DataPlane} (calm : r.pendingCommand = none)
    (state_eq : r.state = .starting) (hy : (startOn c r d).Yields xs p) :
    Result c r now (.inquiry (.select (.ofRequest r.request)) (.ok d) :: xs) p := by
  obtain ⟨answer, t, ys, rfl, hrest⟩ := yields_call_iff.1 hy
  rcases answer with _ | ((reason | reason) | handle)
  · obtain ⟨rfl, hresult⟩ :=
      (Setback.start state_eq (Or.inl rfl)).result calm (yields_note_iff.1 hrest)
    exact hresult
  · obtain ⟨rfl, hresult⟩ :=
      (Setback.start state_eq (Or.inr ⟨reason, rfl⟩)).result calm (yields_note_iff.1 hrest)
    exact hresult
  · obtain ⟨rfl, hresult⟩ := (Failure.startRejected state_eq).result calm hrest
    exact hresult
  · obtain ⟨rfl, moved⟩ := yields_ended_iff.1 (yields_note_iff.1 hrest)
    exact .started calm state_eq moved

theorem result_of_starting (calm : r.pendingCommand = none) (state_eq : r.state = .starting)
    (hy : (starting c r now).Yields xs p) : Result c r now xs p := by
  obtain ⟨answer, ys, rfl, hrest⟩ := yields_ask_iff.1 hy
  rcases answer with e | d
  · have hretry : (retryOrFail c r noCapableWorker now).Yields ys p := by
      cases e with
      | noneCapable => exact yields_note_iff.1 hrest
      | malformed | unknown | store | clock => exact yields_note_iff.1 hrest
    obtain ⟨rfl, hresult⟩ := (Setback.selection state_eq).result calm hretry
    exact hresult
  · exact result_of_startOn calm state_eq hrest

/-- The end of a flow leads to completion or to failure. -/
theorem yields_flowEnded_iff {q : Transfer} {outcome : Outcome} {t : Instant} :
    (flowEnded q outcome t).Yields xs p ↔ xs = [] ∧
      ((outcome = .succeeded ∧ q.step .workerFinished t = .ok p) ∨
        ∃ detail, outcome = .failed detail ∧ q.fail ("transfer failed: " ++ detail) t = .ok p) := by
  cases outcome with
  | succeeded => simp [flowEnded]
  | failed detail => simp [flowEnded]

theorem result_of_pollOn {flow : Assignment} {d : DataPlane} {nextPoll : Instant}
    (calm : r.pendingCommand = none) (tracked : IsTracked c r now flow)
    (next_eq : now.later? c.orchestration.statusPollInterval.toDistance = some nextPoll)
    (hy : (pollOn r d flow.handle nextPoll).Yields xs p) :
    Result c r now (.inquiry (.find flow.dataPlaneId) (.ok (some d)) :: xs) p := by
  obtain ⟨answer, t, ys, rfl, hrest⟩ := yields_call_iff.1 hy
  rcases answer with _ | ((reason | reason) | (_ | outcome))
  · obtain ⟨rfl, moved⟩ := yields_ended_iff.1 (yields_note_iff.1 hrest)
    exact .awaited calm tracked (.polled (Or.inl rfl)) next_eq moved
  · obtain ⟨rfl, moved⟩ := yields_ended_iff.1 (yields_note_iff.1 hrest)
    exact .awaited calm tracked (.polled (Or.inr (Or.inr ⟨reason, rfl⟩))) next_eq moved
  · obtain ⟨rfl, hresult⟩ :=
      (Failure.pollRejected tracked).result calm (yields_note_iff.1 hrest)
    exact hresult
  · obtain ⟨rfl, moved⟩ := yields_ended_iff.1 hrest
    exact .awaited calm tracked (.polled (Or.inr (Or.inl rfl))) next_eq moved
  · obtain ⟨rfl, ⟨rfl, moved⟩ | ⟨detail, rfl, moved⟩⟩ := yields_flowEnded_iff.1 hrest
    · exact .polled calm tracked moved
    · exact .failed calm (.polled tracked) moved

theorem result_of_pollFlow {flow : Assignment} {nextPoll : Instant}
    (calm : r.pendingCommand = none) (tracked : IsTracked c r now flow)
    (next_eq : now.later? c.orchestration.statusPollInterval.toDistance = some nextPoll)
    (hy : (pollFlow r flow nextPoll now).Yields xs p) : Result c r now xs p := by
  obtain ⟨answer, ys, rfl, hrest⟩ := yields_ask_iff.1 hy
  rcases answer with e | (_ | d)
  · obtain ⟨rfl, moved⟩ := yields_ended_iff.1 (yields_note_iff.1 hrest)
    exact .awaited calm tracked (.unfound (Or.inr ⟨e, rfl⟩)) next_eq moved
  · obtain ⟨rfl, moved⟩ := yields_ended_iff.1 hrest
    exact .awaited calm tracked (.unfound (Or.inl rfl)) next_eq moved
  · exact result_of_pollOn calm tracked next_eq hrest

theorem result_of_tracking (calm : r.pendingCommand = none) (state_eq : r.state = .started)
    (hy : (tracking c r now).Yields xs p) : Result c r now xs p := by
  unfold tracking at hy
  cases hcompletion : r.completion with
  | some outcome =>
      rw [hcompletion] at hy
      obtain ⟨rfl, ⟨rfl, moved⟩ | ⟨detail, rfl, moved⟩⟩ := yields_flowEnded_iff.1 hy
      · exact .reported calm state_eq hcompletion moved
      · exact .failed calm (.reported state_eq hcompletion) moved
  | none =>
      rw [hcompletion] at hy
      cases hflow : r.dataFlow with
      | none =>
          rw [hflow] at hy
          have failure : Failure c r now [] "no data flow recorded" now r :=
            .noFlow state_eq hcompletion hflow
          obtain ⟨rfl, hresult⟩ := failure.result calm hy
          exact hresult
      | some flow =>
          rw [hflow] at hy
          dsimp only at hy
          split at hy
          · rename_i late
            obtain ⟨rfl, hresult⟩ := (Failure.overdue state_eq hcompletion hflow late).result calm
              (yields_note_iff.1 hy)
            exact hresult
          · rename_i late
            have tracked : IsTracked c r now flow :=
              ⟨state_eq, hcompletion, hflow, by simpa using late⟩
            split at hy
            · rename_i nextPoll next_eq
              exact result_of_pollFlow calm tracked next_eq hy
            · simp at hy

theorem result_of_completing (calm : r.pendingCommand = none) (state_eq : r.state = .completing)
    (hy : (completing c r).Yields xs p) : Result c r now xs p := by
  obtain ⟨answer, t, ys, rfl, hrest⟩ := yields_dispatch_iff.1 hy
  rcases dispatch_cases c answer with ⟨rfl, -⟩ | ⟨reason, unheard, heq⟩ | ⟨reason, rfl, -⟩
  · obtain ⟨rfl, moved⟩ := yields_ended_iff.1 hrest
    exact .finalized calm state_eq moved
  · rw [heq] at hrest
    obtain ⟨rfl, hresult⟩ :=
      (Setback.completion state_eq unheard).result calm (yields_note_iff.1 hrest)
    exact hresult
  · obtain ⟨rfl, hresult⟩ := (Failure.completionRejected state_eq).result calm hrest
    exact hresult

theorem result_of_terminating (calm : r.pendingCommand = none) (state_eq : r.state = .terminating)
    (hy : (terminating c r).Yields xs p) : Result c r now xs p := by
  obtain ⟨answer, t, ys, rfl, hrest⟩ := yields_dispatch_iff.1 hy
  rcases dispatch_cases c answer with ⟨rfl, -⟩ | ⟨reason, unheard, heq⟩ | ⟨reason, rfl, -⟩
  · obtain ⟨rfl, moved⟩ := yields_ended_iff.1 hrest
    exact .terminated calm state_eq (Or.inl rfl) moved
  · rw [heq] at hrest
    dsimp only at hrest
    split at hrest
    · rename_i last
      obtain ⟨rfl, moved⟩ := yields_ended_iff.1 (yields_note_iff.1 hrest)
      exact .terminated calm state_eq (Or.inr (Or.inr ⟨unheard, last⟩)) moved
    · rename_i again
      obtain ⟨rfl, notBefore, next_eq, moved⟩ :=
        yields_retryLater_iff.1 (yields_note_iff.1 hrest)
      exact .unannounced calm state_eq unheard (by simpa using again) next_eq moved
  · obtain ⟨rfl, moved⟩ := yields_ended_iff.1 (yields_note_iff.1 hrest)
    exact .terminated calm state_eq (Or.inr (Or.inl ⟨reason, rfl⟩)) moved

theorem result_of_command {x : Transfer.Command} (pending : r.pendingCommand = some x)
    (hy : (command r.withoutCommand x now).Yields xs p) : Result c r now xs p := by
  replace hy := yields_note_iff.1 hy
  cases x with
  | cancel =>
      obtain ⟨rfl, moved⟩ := yields_ended_iff.1 hy
      exact .cancelled pending moved
  | suspend =>
      dsimp only at hy
      split at hy
      · rename_i canSuspend
        obtain ⟨rfl, moved⟩ := yields_ended_iff.1 hy
        exact .suspended pending canSuspend moved
      · rename_i canSuspend
        obtain ⟨rfl, heq⟩ := yields_done_iff.1 hy
        cases heq
        exact .ignored (Or.inl ⟨pending, by simpa [Transfer.withoutCommand] using canSuspend⟩)
  | resume =>
      dsimp only at hy
      split at hy
      · rename_i state_eq
        obtain ⟨rfl, moved⟩ := yields_ended_iff.1 hy
        exact .resumed pending state_eq moved
      · rename_i state_ne
        obtain ⟨rfl, heq⟩ := yields_done_iff.1 hy
        cases heq
        exact .ignored (Or.inr ⟨pending, state_ne⟩)

theorem result_of_ofState (calm : r.pendingCommand = none)
    (hy : (ofState c r now).Yields xs p) : Result c r now xs p := by
  unfold ofState at hy
  cases hstate : r.state <;> rw [hstate] at hy
  case initial =>
    obtain ⟨rfl, moved⟩ := yields_ended_iff.1 hy
    exact .begun calm hstate moved
  case requesting => exact result_of_opening calm hstate hy
  case requested => exact result_of_policyCheck calm hstate hy
  case starting => exact result_of_starting calm hstate hy
  case started => exact result_of_tracking calm hstate hy
  case completing => exact result_of_completing calm hstate hy
  case terminating => exact result_of_terminating calm hstate hy
  case suspended =>
    obtain ⟨rfl, heq⟩ := yields_done_iff.1 hy
    cases heq
    exact .idle calm (Or.inl hstate)
  case completed | terminated =>
    obtain ⟨rfl, heq⟩ := yields_done_iff.1 hy
    cases heq
    exact .idle calm (Or.inr (by rw [hstate]; rfl))

/-- **Nothing else can happen.**  Every course of the attempt on a record that ends with a record
to be written back is one of the results. -/
theorem result_of_yields (hy : (on c r now).Yields xs p) : Result c r now xs p := by
  unfold on at hy
  cases hpending : r.pendingCommand with
  | some x =>
      rw [hpending] at hy
      exact result_of_command hpending hy
  | none =>
      rw [hpending] at hy
      exact result_of_ofState hpending hy

/-! ## What all results have in common -/

theorem Failure.continues {detail : String} {t : Instant} {q : Transfer}
    (h : Failure c r now xs detail t q) : q.Continues r := by
  cases h with
  | polled => exact .recordCompletion _ _
  | openingRejected | unbound | denied | startRejected | reported | noFlow | overdue
  | pollRejected | completionRejected => exact .refl _

/-- A result is a later content of the claimed record. -/
theorem Result.continues (h : Result c r now xs p) : p.Continues r := by
  cases h with
  | cancelled _ moved => exact (Transfer.Continues.of_cancel moved).trans (.withoutCommand r)
  | suspended _ _ moved => exact (Transfer.Continues.of_step moved).trans (.withoutCommand r)
  | resumed _ _ moved => exact (Transfer.Continues.of_resume moved).trans (.withoutCommand r)
  | ignored => exact .withoutCommand r
  | idle => exact .refl r
  | begun _ _ moved | dispatched _ _ moved | allowed _ _ moved | reported _ _ _ moved
  | finalized _ _ moved | terminated _ _ _ moved => exact .of_step moved
  | started _ _ moved =>
      exact (Transfer.Continues.of_step moved).trans (.recordDataFlow r _ _ _)
  | polled _ _ moved =>
      exact (Transfer.Continues.of_step moved).trans (.recordCompletion r _)
  | unannounced _ _ _ _ _ moved | retried _ _ _ _ moved | awaited _ _ _ _ moved =>
      exact .of_retry moved
  | exhausted _ _ _ moved => exact .of_fail moved
  | failed _ failure moved =>
      exact (Transfer.Continues.of_fail moved).trans failure.continues

end Connector.Attempt
