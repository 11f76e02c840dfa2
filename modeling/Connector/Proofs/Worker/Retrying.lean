import Connector.Proofs.Worker.Ending
import Connector.Proofs.Worker.Progress

/-!
# How attempts are repeated

An attempt on a transfer that is under way takes it one state on, or turns it to termination, or
leaves it in its state to be tried again.  In a state that waits for somebody else, trying again is
what follows from a failure that may pass, as long as the retry policy bears with it; a flow that
goes on is asked about again however often that was done.  Statements:

* `Result.moves` — these three, and nothing else, become of a transfer that no command waits for;
* `Setback.isSetback`, `Result.of_setback` — a failure that may pass can be told by the last
  exchange of an attempt, and what becomes of it depends on the count of entries alone;
* `Result.stateCount_lt` — no result has more entries than the retry policy bears with, but for the
  state in which a flow is tracked.
-/

namespace Connector

namespace Transfer.State

/-- The state that follows if nothing goes wrong. -/
def onward? : State → Option State
  | initial => some requesting
  | requesting => some requested
  | requested => some starting
  | starting => some started
  | started => some completing
  | completing => some completed
  | terminating => some terminated
  | suspended | completed | terminated => none

/-- Only trying again leads back to the same state. -/
theorem next?_ne {s t : State} {step : Step} (h : s.next? step = some t) (hstep : step ≠ .retry) :
    t ≠ s := by
  rintro rfl
  cases step with
  | retry => exact hstep rfl
  | suspend =>
      obtain ⟨hsuspend, rfl⟩ := next?_suspend_iff.1 h
      cases hsuspend
  | resume prior =>
      obtain ⟨rfl, hprior, rfl⟩ := next?_resume_iff.1 h
      cases hprior
  | terminate =>
      obtain ⟨-, hne, rfl⟩ := next?_terminate_iff.1 h
      exact hne rfl
  | begin | dispatched | policyAllowed | workerStarted | workerFinished | finalized | terminated =>
      cases t <;> cases h

end Transfer.State

/-- The exchange failed, and that counts as a failure that may pass: no data plane was to be had,
the fault says so, or there was no answer in time.  What is learnt of a flow, or not, does not
count. -/
def Exchange.isSetback : Exchange → Bool
  | .inquiry (.select _) (.error _) => true
  | .inquiry _ _ => false
  | .call (.policy _) (some (.ok _)) _ => false
  | .call (.policy _) _ _ => true
  | .call (.send _) (some (.ok _)) _ => false
  | .call (.send _) (some (.error (.rejected _))) _ => false
  | .call (.send _) _ _ => true
  | .call (.start _ _) (some (.ok _)) _ => false
  | .call (.start _ _) (some (.error (.rejected _))) _ => false
  | .call (.start _ _) _ _ => true
  | .call (.poll _ _) _ _ => false

/-- When the answer of an exchange came, if it took its time. -/
def Exchange.answeredAt? : Exchange → Option Instant
  | .inquiry _ _ => none
  | .call _ _ t => some t

namespace Attempt

/-- Why a transfer gives up in a state. -/
def exhaustedDetail? : Transfer.State → Option String
  | .requesting => some "dispatch exhausted"
  | .requested => some "policy source unavailable"
  | .starting => some "no capable worker"
  | .completing => some "dispatch exhausted"
  | _ => none

variable {c : Setup} {r : Transfer} {now : Instant} {xs : List Exchange} {p : Transfer}

/-! ## The count of entries -/

section Counts
variable {b q : Transfer} {t : Instant}

theorem stateCount_of_step {s : Transfer.Step} (moved : b.step s t = .ok q) (hs : s ≠ .retry) :
    q.stateCount = 0 := by
  obtain ⟨target, hnext, rfl⟩ := Transfer.step_eq_ok_iff.1 moved
  exact if_neg (Transfer.State.next?_ne hnext hs)

theorem stateCount_of_resume (moved : b.resume t = .ok q) : q.stateCount = 0 := by
  obtain ⟨prior, -, hstate, hprior, rfl⟩ := Transfer.resume_eq_ok_iff.1 moved
  exact if_neg (Transfer.State.next?_ne
    (Transfer.State.next?_resume_iff.2 ⟨hstate, hprior, rfl⟩) (by simp))

theorem stateCount_of_cancel (moved : b.cancel t = .ok q) : q.stateCount = 0 := by
  obtain ⟨live, rfl⟩ := Transfer.cancel_eq_ok_iff.1 moved
  exact if_neg live.2.symm

theorem stateCount_of_fail {detail : String} (moved : b.fail detail t = .ok q) :
    q.stateCount = 0 := by
  obtain ⟨live, rfl⟩ := Transfer.fail_eq_ok_iff.1 moved
  exact if_neg live.2.symm

theorem stateCount_of_retry {notBefore : Instant} (moved : b.retry notBefore t = .ok q) :
    q.stateCount = b.stateCount + 1 := by
  obtain ⟨-, rfl⟩ := Transfer.retry_eq_ok_iff.1 moved
  exact if_pos rfl

end Counts

/-! ## What becomes of a transfer -/

/-- The state is entered once more, not to be left before an instant. -/
structure IsRetried (r : Transfer) (notBefore t : Instant) (p : Transfer) : Prop where
  retryable : r.state.isRetryable = true
  eq : p = { r.entered .retry r.state t with retryAt := some notBefore }

theorem isRetried_of_retry {notBefore t : Instant} (moved : r.retry notBefore t = .ok p) :
    IsRetried r notBefore t p :=
  ⟨(Transfer.retry_eq_ok_iff.1 moved).1, (Transfer.retry_eq_ok_iff.1 moved).2⟩

theorem IsRetried.state_eq {notBefore t : Instant} (h : IsRetried r notBefore t p) :
    p.state = r.state := by
  rw [h.eq]
  rfl

theorem IsRetried.stateCount_eq {notBefore t : Instant} (h : IsRetried r notBefore t p) :
    p.stateCount = r.stateCount + 1 := by
  rw [h.eq]
  exact if_pos rfl

/-- What becomes of a transfer that is under way and for which no command waits. -/
inductive Moves (c : Setup) (r : Transfer) (now : Instant) (p : Transfer) : Prop where
  | onward (state_eq : r.state.onward? = some p.state) (stateCount_eq : p.stateCount = 0)
  | terminated (state_eq : p.state = .terminating) (live : ¬ r.IsEnding)
      (stateCount_eq : p.stateCount = 0)
  /-- A failure may pass, and the retry policy bears with it. -/
  | again {t notBefore : Instant}
      (unexhausted : c.orchestration.retry.isExhausted r.stateCount = false)
      (next_eq : nextAttempt? c r t = some notBefore) (untracked : r.state ≠ .started)
      (retried : IsRetried r notBefore t p)
  /-- A flow goes on. -/
  | awaited {flow : Assignment} {t nextPoll : Instant} (tracked : IsTracked c r now flow)
      (next_eq : now.later? c.orchestration.statusPollInterval.toDistance = some nextPoll)
      (retried : IsRetried r nextPoll t p)

theorem Setback.untracked {detail : String} {t : Instant} (h : Setback c r now xs detail t) :
    r.state ≠ .started := by
  cases h <;> simp [*]

/-- **What becomes of a transfer that is under way.**  If no command waits for it, it goes one
state on, turns to termination, or is tried again. -/
theorem Result.moves (h : Result c r now xs p) (calm : r.pendingCommand = none)
    (live : r.state.isTerminal = false) (going : r.state ≠ .suspended) : Moves c r now p := by
  cases h with
  | cancelled pending | suspended pending | resumed pending =>
      rw [calm] at pending
      cases pending
  | ignored pending =>
      rw [calm] at pending
      rcases pending with ⟨h, -⟩ | ⟨h, -⟩ <;> cases h
  | idle _ still =>
      rcases still with hstate | hstate
      · exact absurd hstate going
      · exact absurd (live.symm.trans hstate) Bool.false_ne_true
  | begun _ state_eq moved | dispatched _ state_eq moved | allowed _ state_eq moved
  | reported _ state_eq _ moved | finalized _ state_eq moved | terminated _ state_eq _ moved =>
      have hcount := stateCount_of_step moved (by simp)
      obtain ⟨_, hnext, rfl⟩ := Transfer.step_eq_ok_iff.1 moved
      rw [state_eq] at hnext
      cases hnext
      exact .onward (by rw [state_eq]; rfl) hcount
  | started _ state_eq moved =>
      have hcount := stateCount_of_step moved (by simp)
      obtain ⟨_, hnext, rfl⟩ := Transfer.step_eq_ok_iff.1 moved
      rw [show (r.recordDataFlow _ _ _).state = .starting from state_eq] at hnext
      cases hnext
      exact .onward (by rw [state_eq]; rfl) hcount
  | polled _ tracked moved =>
      have hcount := stateCount_of_step moved (by simp)
      obtain ⟨_, hnext, rfl⟩ := Transfer.step_eq_ok_iff.1 moved
      rw [show (r.recordCompletion _).state = .started from tracked.state_eq] at hnext
      cases hnext
      exact .onward (by rw [tracked.state_eq]; rfl) hcount
  | unannounced _ state_eq _ again next_eq moved =>
      exact .again again next_eq (by rw [state_eq]; simp) (isRetried_of_retry moved)
  | retried _ setback again next_eq moved =>
      exact .again again next_eq setback.untracked (isRetried_of_retry moved)
  | awaited _ tracked _ next_eq moved =>
      exact .awaited tracked next_eq (isRetried_of_retry moved)
  | exhausted _ setback _ moved =>
      have hcount := stateCount_of_fail moved
      obtain ⟨-, rfl⟩ := Transfer.fail_eq_ok_iff.1 moved
      exact .terminated rfl setback.not_isEnding hcount
  | failed _ failure moved =>
      have hcount := stateCount_of_fail moved
      obtain ⟨-, rfl⟩ := Transfer.fail_eq_ok_iff.1 moved
      exact .terminated rfl failure.not_isEnding hcount

/-- **The counts stay below the limit.**  If a record outside the state in which a flow is tracked
was entered again less often than there may be attempts, so was its result. -/
theorem Result.stateCount_lt (h : Result c r now xs p)
    (positive : 1 ≤ c.orchestration.retry.maxAttempts)
    (hr : r.state ≠ .started → r.stateCount < c.orchestration.retry.maxAttempts)
    (hp : p.state ≠ .started) : p.stateCount < c.orchestration.retry.maxAttempts := by
  cases h with
  | ignored | idle => exact hr hp
  | cancelled _ moved =>
      rw [stateCount_of_cancel moved]
      exact positive
  | exhausted _ _ _ moved | failed _ _ moved =>
      rw [stateCount_of_fail moved]
      exact positive
  | resumed _ _ moved =>
      rw [stateCount_of_resume moved]
      exact positive
  | suspended _ _ moved | begun _ _ moved | dispatched _ _ moved | allowed _ _ moved
  | started _ _ moved | reported _ _ _ moved | polled _ _ moved | finalized _ _ moved
  | terminated _ _ _ moved =>
      rw [stateCount_of_step moved (by simp)]
      exact positive
  | unannounced _ _ _ again _ moved | retried _ _ again _ moved =>
      rw [stateCount_of_retry moved]
      exact Nat.lt_of_not_le (of_decide_eq_false again)
  | awaited _ tracked _ _ moved =>
      obtain ⟨-, rfl⟩ := Transfer.retry_eq_ok_iff.1 moved
      exact absurd tracked.state_eq hp

/-! ## Failures that may pass -/

theorem isSetback_send {m : Message} {answer : Option (Except DispatchFault Unit)} {t : Instant} :
    (Exchange.call (.send m) answer t).isSetback = true ↔ IsUnheard answer := by
  unfold IsUnheard
  rcases answer with _ | ((reason | reason) | u) <;> simp [Exchange.isSetback]

/-- A failure that may pass shows in the last exchange. -/
theorem Setback.isSetback {detail : String} {t : Instant} (h : Setback c r now xs detail t) :
    ∃ x, xs.getLast? = some x ∧ x.isSetback = true ∧ (∀ u, x.answeredAt? = some u → u = t) ∧
      exhaustedDetail? r.state = some detail := by
  cases h with
  | opening state_eq unheard | completion state_eq unheard =>
      exact ⟨_, rfl, isSetback_send.2 unheard, fun u hu => (Option.some.inj hu).symm,
        by rw [state_eq]; rfl⟩
  | policy state_eq silent =>
      refine ⟨_, rfl, ?_, fun u hu => (Option.some.inj hu).symm, by rw [state_eq]; rfl⟩
      rcases silent with rfl | ⟨e, rfl⟩ <;> rfl
  | selection state_eq => exact ⟨_, rfl, rfl, nofun, by rw [state_eq]; rfl⟩
  | start state_eq silent =>
      refine ⟨_, rfl, ?_, fun u hu => (Option.some.inj hu).symm, by rw [state_eq]; rfl⟩
      rcases silent with rfl | ⟨e, rfl⟩ <;> rfl

/-- A failure without remedy does not. -/
theorem Failure.not_isSetback {detail : String} {t : Instant} {q : Transfer}
    (h : Failure c r now xs detail t q) {x : Exchange} (hlast : xs.getLast? = some x) :
    x.isSetback = false := by
  cases h with
  | reported | noFlow | overdue => cases hlast
  | openingRejected | unbound | denied | startRejected | polled | pollRejected
  | completionRejected =>
      cases hlast
      rfl

/-- What becomes of a transfer by a failure that may pass and was seen at an instant: it is tried
again as long as the retry policy bears with it; then it gives up, for the reason that goes with
its state, and a termination that cannot be announced is over. -/
inductive AfterSetback (c : Setup) (r : Transfer) (t : Instant) (p : Transfer) : Prop where
  | again {notBefore : Instant}
      (unexhausted : c.orchestration.retry.isExhausted r.stateCount = false)
      (next_eq : nextAttempt? c r t = some notBefore) (retried : IsRetried r notBefore t p)
  | givenUp {detail : String} (exhausted : c.orchestration.retry.isExhausted r.stateCount = true)
      (detail_eq : exhaustedDetail? r.state = some detail) (moved : r.fail detail t = .ok p)
  | ended (exhausted : c.orchestration.retry.isExhausted r.stateCount = true)
      (state_eq : r.state = .terminating) (moved : r.step .terminated t = .ok p)

/-- **What becomes of a failure that may pass.**  If the last exchange of an attempt is one, the
count of the entries into the state decides. -/
theorem Result.of_setback (h : Result c r now xs p) {x : Exchange}
    (hlast : xs.getLast? = some x) (hx : x.isSetback = true) :
    ∃ t, (∀ u, x.answeredAt? = some u → u = t) ∧ AfterSetback c r t p := by
  cases h with
  | cancelled | suspended | resumed | ignored | idle | begun | reported => cases hlast
  | dispatched | allowed | started | polled | finalized =>
      cases hlast
      cases hx
  | terminated _ state_eq final moved =>
      cases hlast
      refine ⟨_, fun u hu => (Option.some.inj hu).symm, ?_⟩
      rcases final with rfl | ⟨reason, rfl⟩ | ⟨-, last⟩
      · cases hx
      · cases hx
      · exact .ended last state_eq moved
  | unannounced _ state_eq _ again next_eq moved =>
      cases hlast
      exact ⟨_, fun u hu => (Option.some.inj hu).symm,
        .again again next_eq (isRetried_of_retry moved)⟩
  | retried _ setback again next_eq moved =>
      obtain ⟨y, hy, -, hat, -⟩ := setback.isSetback
      cases hlast.symm.trans hy
      exact ⟨_, hat, .again again next_eq (isRetried_of_retry moved)⟩
  | exhausted _ setback last moved =>
      obtain ⟨y, hy, -, hat, hdetail⟩ := setback.isSetback
      cases hlast.symm.trans hy
      exact ⟨_, hat, .givenUp last hdetail moved⟩
  | awaited _ tracked silent =>
      cases silent with
      | unfound missing =>
          cases hlast
          cases hx
      | polled =>
          cases hlast
          cases hx
  | failed _ failure => exact absurd (hx.symm.trans (failure.not_isSetback hlast)) (by simp)

end Attempt
end Connector
