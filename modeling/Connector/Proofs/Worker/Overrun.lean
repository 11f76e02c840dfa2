import Connector.Proofs.Worker.Progress
import Mathlib.Tactic.ByContra

/-!
# Attempts and the end of the clock

Two instants to come are computed in an attempt: when it is made again after a failure that may
pass, and when a flow is asked about again.  Where one of them is beyond the clock, the attempt
breaks off.  Whether it can is decided by the record that was claimed: an attempt is made again
in the states that are retried, unless it was the last one, and a flow is asked about again as long
as it is tracked.  Statements:

* `lasts_opening_iff` to `lasts_terminating_iff` — for each state, when the clock lasts whatever is
  answered;
* `lasts_on_iff` — the clock lasts for an attempt exactly if it covers every instant that the
  attempt may compute.
-/

namespace Connector.Attempt

variable {c : Setup} {r : Transfer} {now : Instant} {at' : Instant → Prop}

/-- Whatever is answered, at instants of a kind, the attempt does not break off at the end of the
clock. -/
def Lasts (at' : Instant → Prop) (a : Attempt) : Prop := Ends at' (· ≠ .error .clock) a

/-- The attempt on a record may come to a failure after which it is to be made again. -/
structure MayRetry (c : Setup) (r : Transfer) : Prop where
  calm : r.pendingCommand = none
  retryable : r.state.isRetryable = true
  state_ne : r.state ≠ .started
  again : c.orchestration.retry.isExhausted r.stateCount = false

/-- The attempt on a record asks about its flow. -/
structure Polls (c : Setup) (r : Transfer) (now : Instant) : Prop where
  calm : r.pendingCommand = none
  tracked : ∃ flow, IsTracked c r now flow

/-- The clock covers every instant that the attempt on a record may compute: the next attempt, from
every instant of a kind, and the next question about a flow. -/
structure IsCovered (at' : Instant → Prop) (c : Setup) (r : Transfer) (now : Instant) : Prop where
  retry : MayRetry c r → ∀ t, at' t → (nextAttempt? c r t).isSome = true
  poll : Polls c r now →
    (now.later? c.orchestration.statusPollInterval.toDistance).isSome = true

/-- What holds of every result holds of the result of every attempt. -/
theorem ends_of_forall {P : Except AttemptFault Transfer → Prop} (h : ∀ x, P x) (a : Attempt) :
    Ends at' P a := by
  induction a with
  | done result => exact ends_done_iff.2 (h result)
  | note n rest ih => exact ends_note_iff.2 ih
  | ask q next ih => exact ends_ask_iff.2 ih
  | call k next ih => exact ends_call_iff.2 fun answer t _ => ih answer t

/-! ## Parts of attempts -/

theorem lasts_ended (x : Except Transfer.Refusal Transfer) : Lasts at' (ended x) := by
  cases x with
  | error e => exact ends_done_iff.2 fun h => by cases h
  | ok p => exact ends_done_iff.2 fun h => by cases h

theorem lasts_note_iff {n : Note} {rest : Attempt} :
    Lasts at' (.note n rest) ↔ Lasts at' rest := ends_note_iff

theorem lasts_retryLater_iff {t : Instant} :
    Lasts at' (retryLater c r t) ↔ (nextAttempt? c r t).isSome = true := by
  unfold retryLater nextAttempt?
  cases t.later? (c.orchestration.retry.delay r.stateCount).toDistance with
  | none => simp [Lasts]
  | some notBefore => exact iff_of_true (lasts_ended _) rfl

theorem lasts_retryOrFail_iff {t : Instant} {detail : String} :
    Lasts at' (retryOrFail c r detail t) ↔
      (c.orchestration.retry.isExhausted r.stateCount = false →
        (nextAttempt? c r t).isSome = true) := by
  unfold retryOrFail
  cases c.orchestration.retry.isExhausted r.stateCount with
  | true => exact iff_of_true (lasts_note_iff.2 (lasts_ended _)) nofun
  | false => simpa using lasts_retryLater_iff

theorem lasts_flowEnded (p : Transfer) (outcome : Outcome) (t : Instant) :
    Lasts at' (flowEnded p outcome t) := by
  cases outcome with
  | succeeded => exact lasts_ended _
  | failed detail => exact lasts_ended _

/-- The clock covers the next attempt, from every instant of a kind, unless this one is the
last. -/
def Covers (at' : Instant → Prop) (c : Setup) (r : Transfer) : Prop :=
  c.orchestration.retry.isExhausted r.stateCount = false →
    ∀ t, at' t → (nextAttempt? c r t).isSome = true

/-- Where the clock covers the next attempt, it lasts for a failure that may pass. -/
theorem Covers.lasts (h : Covers at' c r) {t : Instant} (ht : at' t) {n : Note} {detail : String} :
    Lasts at' (.note n (retryOrFail c r detail t)) :=
  lasts_note_iff.2 (lasts_retryOrFail_iff.2 fun again => h again t ht)

/-- Where the clock lasts for such a failure at every instant, it covers the next attempt. -/
theorem covers_of_lasts {detail : String} {n : Instant → Note}
    (h : ∀ t, at' t → Lasts at' (.note (n t) (retryOrFail c r detail t))) : Covers at' c r :=
  fun again t ht => lasts_retryOrFail_iff.1 (lasts_note_iff.1 (h t ht)) again

/-! ## The attempts of the states

An attempt that makes a call comes to such a failure if the call gets no answer, so that the clock
lasts for it only if it covers the next attempt. -/

theorem lasts_opening_iff : Lasts at' (opening c r) ↔ Covers at' c r := by
  constructor
  · intro h
    exact covers_of_lasts (ends_call_iff.1 h none)
  · intro h
    refine ends_call_iff.2 fun answer t ht => ?_
    dsimp only
    split
    · exact lasts_ended _
    · exact h.lasts ht
    · exact lasts_ended _

theorem lasts_policyCheck_iff : Lasts at' (policyCheck c r) ↔ Covers at' c r := by
  constructor
  · intro h
    exact covers_of_lasts (ends_call_iff.1 h none)
  · intro h
    refine ends_call_iff.2 fun answer t ht => ?_
    split
    · refine ends_ask_iff.2 fun verdict => ?_
      unfold judged
      split
      · exact lasts_ended _
      · exact lasts_note_iff.2 (lasts_ended _)
    · exact lasts_ended _
    · exact h.lasts ht
    · exact h.lasts ht

theorem lasts_startOn_iff {d : DataPlane} : Lasts at' (startOn c r d) ↔ Covers at' c r := by
  constructor
  · intro h
    exact covers_of_lasts (ends_call_iff.1 h none)
  · intro h
    refine ends_call_iff.2 fun answer t ht => ?_
    split
    · exact lasts_note_iff.2 (lasts_ended _)
    · exact lasts_ended _
    · exact h.lasts ht
    · exact h.lasts ht

theorem lasts_starting_iff (hnow : at' now) :
    Lasts at' (starting c r now) ↔ Covers at' c r := by
  constructor
  · intro h
    exact lasts_startOn_iff.1 (ends_ask_iff.1 h (Except.ok default))
  · intro h
    refine ends_ask_iff.2 fun answer => ?_
    split
    · exact lasts_startOn_iff.2 h
    · exact h.lasts hnow
    · exact h.lasts hnow

theorem lasts_completing_iff : Lasts at' (completing c r) ↔ Covers at' c r := by
  constructor
  · intro h
    exact covers_of_lasts (ends_call_iff.1 h none)
  · intro h
    refine ends_call_iff.2 fun answer t ht => ?_
    dsimp only
    split
    · exact lasts_ended _
    · exact h.lasts ht
    · exact lasts_ended _

theorem lasts_terminating_iff : Lasts at' (terminating c r) ↔ Covers at' c r := by
  have hsilent : ∀ t reason,
      Lasts at' (if c.orchestration.retry.isExhausted r.stateCount then
          unannounced r (.transient reason) t
        else .note (remark r ("Termination dispatch failed: " ++ reason)) (retryLater c r t)) ↔
      (c.orchestration.retry.isExhausted r.stateCount = false →
        (nextAttempt? c r t).isSome = true) := by
    intro t reason
    cases c.orchestration.retry.isExhausted r.stateCount with
    | true => exact iff_of_true (lasts_note_iff.2 (lasts_ended _)) nofun
    | false => simpa [lasts_note_iff] using lasts_retryLater_iff
  constructor
  · intro h again t ht
    exact (hsilent t _).1 (ends_call_iff.1 h none t ht) again
  · intro h
    refine ends_call_iff.2 fun answer t ht => ?_
    dsimp only
    split
    · exact lasts_ended _
    · exact (hsilent _ _).2 fun again => h again _ ht
    · exact lasts_note_iff.2 (lasts_ended _)

theorem lasts_pollFlow (flow : Assignment) (nextPoll : Instant) :
    Lasts at' (pollFlow r flow nextPoll now) := by
  refine ends_ask_iff.2 fun answer => ?_
  split
  · refine ends_call_iff.2 fun answer t ht => ?_
    split
    · exact lasts_flowEnded _ _ _
    · exact lasts_ended _
    · exact lasts_note_iff.2 (lasts_ended _)
    · exact lasts_note_iff.2 (lasts_ended _)
    · exact lasts_note_iff.2 (lasts_ended _)
  · exact lasts_ended _
  · exact lasts_note_iff.2 (lasts_ended _)

theorem lasts_tracking_iff (state_eq : r.state = .started) :
    Lasts at' (tracking c r now) ↔
      ((∃ flow, IsTracked c r now flow) →
        (now.later? c.orchestration.statusPollInterval.toDistance).isSome = true) := by
  unfold tracking
  cases hcompletion : r.completion with
  | some outcome =>
      refine iff_of_true (lasts_flowEnded _ _ _) ?_
      rintro ⟨flow, tracked⟩
      cases hcompletion.symm.trans tracked.completion_eq
  | none =>
      cases hflow : r.dataFlow with
      | none =>
          refine iff_of_true (lasts_ended _) ?_
          rintro ⟨flow, tracked⟩
          cases hflow.symm.trans tracked.dataFlow_eq
      | some flow =>
          dsimp only
          cases hlate : isOverdue c flow now with
          | true =>
              refine iff_of_true (lasts_note_iff.2 (lasts_ended _)) ?_
              rintro ⟨flow', tracked⟩
              cases hflow.symm.trans tracked.dataFlow_eq
              cases hlate.symm.trans tracked.onTime
          | false =>
              have tracked : ∃ flow, IsTracked c r now flow :=
                ⟨flow, state_eq, hcompletion, hflow, hlate⟩
              cases now.later? c.orchestration.statusPollInterval.toDistance with
              | none => simp [Lasts, tracked]
              | some nextPoll => exact iff_of_true (lasts_pollFlow flow nextPoll) fun _ => rfl

theorem lasts_command (x : Transfer.Command) : Lasts at' (command r x now) := by
  refine lasts_note_iff.2 ?_
  cases x with
  | cancel => exact lasts_ended _
  | suspend | resume =>
      dsimp only
      split
      · exact lasts_ended _
      · exact ends_done_iff.2 fun h => by cases h

/-- **When the clock lasts.**  An attempt does not break off, whatever is answered at instants of a
kind, exactly if the clock covers every instant that it may compute. -/
theorem lasts_on_iff (hnow : at' now) :
    Lasts at' (on c r now) ↔ IsCovered at' c r now := by
  unfold on
  cases hpending : r.pendingCommand with
  | some x =>
      refine iff_of_true (lasts_command x) ⟨fun h => ?_, fun h => ?_⟩
      · cases hpending.symm.trans h.calm
      · cases hpending.symm.trans h.calm
  | none =>
      have hstarted : Polls c r now → r.state = .started :=
        fun ⟨_, _, tracked⟩ => tracked.state_eq
      -- In a state that is retried, other than `started`, there is no flow to ask about.
      have hretried : r.state.isRetryable = true → r.state ≠ .started →
          (Covers at' c r ↔ IsCovered at' c r now) := by
        intro retryable state_ne
        constructor
        · exact fun h => ⟨fun may => h may.again, fun polls => absurd (hstarted polls) state_ne⟩
        · exact fun h again => h.retry ⟨hpending, retryable, state_ne, again⟩
      -- In the others nothing is computed.
      have hquiet : r.state.isRetryable = false → IsCovered at' c r now := by
        intro hstate
        refine ⟨fun may => ?_, fun polls => ?_⟩
        · cases hstate.symm.trans may.retryable
        · rw [hstarted polls] at hstate
          cases hstate
      dsimp only
      unfold ofState
      cases hstate : r.state with
      | initial => exact iff_of_true (lasts_ended _) (hquiet (by rw [hstate]; rfl))
      | requesting =>
          exact lasts_opening_iff.trans (hretried (by rw [hstate]; rfl) (by rw [hstate]; nofun))
      | requested =>
          exact lasts_policyCheck_iff.trans (hretried (by rw [hstate]; rfl) (by rw [hstate]; nofun))
      | starting =>
          exact (lasts_starting_iff hnow).trans
            (hretried (by rw [hstate]; rfl) (by rw [hstate]; nofun))
      | started =>
          refine (lasts_tracking_iff hstate).trans ⟨fun h => ⟨fun may => ?_, ?_⟩, fun h => ?_⟩
          · exact absurd hstate may.state_ne
          · exact fun polls => h polls.tracked
          · exact fun tracked => h.poll ⟨hpending, tracked⟩
      | completing =>
          exact lasts_completing_iff.trans
            (hretried (by rw [hstate]; rfl) (by rw [hstate]; nofun))
      | terminating =>
          exact lasts_terminating_iff.trans
            (hretried (by rw [hstate]; rfl) (by rw [hstate]; nofun))
      | suspended | completed | terminated =>
          exact iff_of_true (ends_done_iff.2 fun h => by cases h)
            (hquiet (by rw [hstate]; rfl))

end Connector.Attempt
