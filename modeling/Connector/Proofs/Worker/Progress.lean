import Connector.Proofs.Transfer.Passage
import Connector.Proofs.Worker.Outcome

/-!
# Attempts make progress

On a record on which there is something to do an attempt never comes to nothing: whatever is
answered, it ends with a record, and that record is one passage along the state graph further.
Only the end of the clock may keep an attempt from its end.  Statements:

* `Result.passes` — every result is one passage;
* `Result.knows` — its instant is the beginning of the attempt, or that of an answer;
* `ends_on` — every attempt ends, in such a result.
-/

namespace Connector.Attempt

variable {c : Setup} {r : Transfer} {now : Instant} {xs : List Exchange} {p : Transfer}

/-! ## Results are passages -/

/-- What fails is the record, perhaps with the report that was asked for. -/
theorem Failure.prepares {detail : String} {t : Instant} {q : Transfer}
    (h : Failure c r now xs detail t q) (calm : r.pendingCommand = none) :
    q.Prepares r .terminate := by
  cases h with
  | polled => exact Transfer.prepares_recordCompletion calm _ _
  | openingRejected | unbound | denied | startRejected | reported | noFlow | overdue
  | pollRejected | completionRejected => exact Transfer.prepares_self calm _

/-- What an attempt knows of the time: when it began, and when it was answered. -/
def Knows (now : Instant) (xs : List Exchange) (t : Instant) : Prop :=
  t = now ∨ ∃ (c : Call) (answer : Option c.Answer), .call c answer t ∈ xs

theorem knows_head {d : Call} {answer : Option d.Answer} {t : Instant} (ys : List Exchange) :
    Knows now (.call d answer t :: ys) t := Or.inr ⟨d, answer, List.mem_cons_self⟩

theorem knows_second {d : Call} {answer : Option d.Answer} {t : Instant} {x : Exchange} :
    Knows now [x, .call d answer t] t :=
  Or.inr ⟨d, answer, List.mem_cons_of_mem _ List.mem_cons_self⟩

theorem Setback.knows {detail : String} {t : Instant} (h : Setback c r now xs detail t) :
    Knows now xs t := by
  cases h with
  | opening | policy | completion => exact knows_head _
  | selection => exact Or.inl rfl
  | start => exact knows_second

theorem NoNews.knows {flow : Assignment} {t : Instant} (h : NoNews now flow xs t) :
    Knows now xs t := by
  cases h with
  | unfound => exact Or.inl rfl
  | polled => exact knows_second

theorem Failure.knows {detail : String} {t : Instant} {q : Transfer}
    (h : Failure c r now xs detail t q) : Knows now xs t := by
  cases h with
  | openingRejected | unbound | denied | completionRejected => exact knows_head _
  | startRejected | polled | pollRejected => exact knows_second
  | reported | noFlow | overdue => exact Or.inl rfl

/-- What became of a record is the record after one step along the state graph, at an instant that
the attempt knows, or there was nothing to do on it. -/
theorem Result.passes_or_idle (h : Result c r now xs p) :
    (∃ s t, r.Passes s t p ∧ Knows now xs t) ∨ (p = r.withoutCommand ∧ ¬ r.IsActionable) := by
  cases h with
  | cancelled _ moved =>
      exact Or.inl ⟨_, _, Transfer.passes_of_cancel (Transfer.prepares_withoutCommand r _) moved,
        Or.inl rfl⟩
  | suspended _ _ moved =>
      exact Or.inl ⟨_, _, Transfer.passes_of_step (Transfer.prepares_withoutCommand r _) (by simp)
        moved, Or.inl rfl⟩
  | resumed _ _ moved =>
      obtain ⟨prior, hpasses⟩ := Transfer.passes_of_resume moved
      exact Or.inl ⟨_, _, hpasses, Or.inl rfl⟩
  | ignored pending =>
      refine Or.inr ⟨rfl, fun hr => ?_⟩
      rcases pending with ⟨hcommand, hstate⟩ | ⟨hcommand, hstate⟩
      · have hsuits : r.state.canSuspend = true := hr.suits _ hcommand
        exact absurd (hstate.symm.trans hsuits) Bool.false_ne_true
      · exact absurd (hr.suits _ hcommand) hstate
  | idle calm still =>
      refine Or.inr ⟨by rw [Transfer.withoutCommand, ← calm], fun hr => ?_⟩
      rcases still with hstate | hstate
      · exact absurd calm (hr.commanded hstate)
      · exact absurd (hr.live.symm.trans hstate) Bool.false_ne_true
  | begun calm _ moved | reported calm _ _ moved =>
      exact Or.inl ⟨_, _, Transfer.passes_of_step (Transfer.prepares_self calm _) (by simp) moved,
        Or.inl rfl⟩
  | dispatched calm _ moved | allowed calm _ moved | finalized calm _ moved
  | terminated calm _ _ moved =>
      exact Or.inl ⟨_, _, Transfer.passes_of_step (Transfer.prepares_self calm _) (by simp) moved,
        knows_head _⟩
  | started calm _ moved =>
      exact Or.inl ⟨_, _, Transfer.passes_of_step (Transfer.prepares_recordDataFlow calm _ _ _)
        (by simp) moved, knows_second⟩
  | polled calm _ moved =>
      exact Or.inl ⟨_, _, Transfer.passes_of_step (Transfer.prepares_recordCompletion calm _ _)
        (by simp) moved, knows_second⟩
  | unannounced calm _ _ _ _ moved =>
      exact Or.inl ⟨_, _, Transfer.passes_of_retry (Transfer.prepares_self calm _) moved,
        knows_head _⟩
  | retried calm setback _ _ moved =>
      exact Or.inl ⟨_, _, Transfer.passes_of_retry (Transfer.prepares_self calm _) moved,
        setback.knows⟩
  | awaited calm _ silent _ moved =>
      exact Or.inl ⟨_, _, Transfer.passes_of_retry (Transfer.prepares_self calm _) moved,
        silent.knows⟩
  | exhausted calm setback _ moved =>
      exact Or.inl ⟨_, _, Transfer.passes_of_fail (Transfer.prepares_self calm _) moved,
        setback.knows⟩
  | failed calm failure moved =>
      exact Or.inl ⟨_, _, Transfer.passes_of_fail (failure.prepares calm) moved, failure.knows⟩

/-- **One passage.**  What became of a record on which there was something to do is the record
after one step along the state graph. -/
theorem Result.passes (h : Result c r now xs p) (hr : r.IsActionable) : ∃ s t, r.Passes s t p := by
  obtain ⟨s, t, hpasses, -⟩ := h.passes_or_idle.resolve_right fun idle => idle.2 hr
  exact ⟨s, t, hpasses⟩

/-- What became of such a record came to its state at an instant that the attempt knows. -/
theorem Result.knows (h : Result c r now xs p) (hr : r.IsActionable) :
    Knows now xs p.stateTimestamp := by
  obtain ⟨s, t, hpasses, hknows⟩ := h.passes_or_idle.resolve_right fun idle => idle.2 hr
  rw [hpasses.stateTimestamp_eq]
  exact hknows

/-- What became of a coherent record is coherent. -/
theorem Result.isCoherent (h : Result c r now xs p) (hr : r.IsCoherent) : p.IsCoherent := by
  rcases h.passes_or_idle with ⟨s, t, hpasses, -⟩ | ⟨rfl, -⟩
  · exact hpasses.isCoherent
  · refine ⟨?_, hr.suspended⟩
    rintro _ ⟨⟩

/-! ## Attempts end -/

/-- Whatever is answered, at instants of a kind, the attempt comes to an end, and its result has a
property. -/
def Ends (at' : Instant → Prop) (P : Except AttemptFault Transfer → Prop) : Attempt → Prop
  | .done result => P result
  | .note _ rest => Ends at' P rest
  | .ask _ next => ∀ answer, Ends at' P (next answer)
  | .call _ next => ∀ answer t, at' t → Ends at' P (next answer t)

variable {at' : Instant → Prop} {P Q : Except AttemptFault Transfer → Prop}

@[simp] theorem ends_done_iff {result : Except AttemptFault Transfer} :
    Ends at' P (.done result) ↔ P result := by
  rw [Ends]

@[simp] theorem ends_note_iff {n : Note} {rest : Attempt} :
    Ends at' P (.note n rest) ↔ Ends at' P rest := by
  rw [Ends]

@[simp] theorem ends_ask_iff {q : Inquiry} {next : q.Answer → Attempt} :
    Ends at' P (.ask q next) ↔ ∀ answer, Ends at' P (next answer) := by
  rw [Ends]

@[simp] theorem ends_call_iff {k : Call} {next : Option k.Answer → Instant → Attempt} :
    Ends at' P (.call k next) ↔ ∀ answer t, at' t → Ends at' P (next answer t) := by
  rw [Ends]

/-- What follows from the property of a result on some course follows from it on all. -/
theorem Ends.imp {a : Attempt} (h : Ends at' P a)
    (hPQ : ∀ xs result, Course a xs (.done result) → P result → Q result) : Ends at' Q a := by
  induction a with
  | done result => exact hPQ [] result (.refl _) h
  | note n rest ih =>
      rw [ends_note_iff] at h ⊢
      exact ih h fun xs result tail => hPQ xs result (.note tail)
  | ask q next ih =>
      rw [ends_ask_iff] at h ⊢
      intro answer
      exact ih answer (h answer) fun xs result tail => hPQ _ result (.ask tail)
  | call k next ih =>
      rw [ends_call_iff] at h ⊢
      intro answer t ht
      exact ih answer t (h answer t ht) fun xs result tail => hPQ _ result (.call tail)

/-- Where an attempt may get to, it still ends so. -/
theorem Course.ends {a b : Attempt} (h : Course a xs b) (ha : Ends (fun _ => True) P a) :
    Ends (fun _ => True) P b := by
  induction h with
  | refl => exact ha
  | note _ ih => exact ih (ends_note_iff.1 ha)
  | ask _ ih => exact ih (ends_ask_iff.1 ha _)
  | call _ ih => exact ih (ends_call_iff.1 ha _ _ trivial)

/-- From an instant on, the clock covers all that the attempt on a record may wait for. -/
def IsTimely (c : Setup) (r : Transfer) (t : Instant) : Prop :=
  (nextAttempt? c r t).isSome = true ∧
    (t.later? c.orchestration.statusPollInterval.toDistance).isSome = true

/-- The result is a record, unless the clock was too short at an instant of a kind. -/
def Settles (c : Setup) (r : Transfer) (at' : Instant → Prop) (x : Except AttemptFault Transfer) :
    Prop :=
  (∃ p, x = .ok p) ∨ (x = .error .clock ∧ ∃ t, at' t ∧ ¬ IsTimely c r t)

section Parts
variable {b : Transfer} {t : Instant}

theorem ends_ended {x : Except Transfer.Refusal Transfer} {q : Transfer} (h : x = .ok q) :
    Ends at' (Settles c r at') (ended x) := by
  rw [h]
  exact Or.inl ⟨q, rfl⟩

theorem ends_step {s : Transfer.Step} {target : Transfer.State}
    (hnext : b.state.next? s = some target) : Ends at' (Settles c r at') (ended (b.step s t)) :=
  ends_ended (Transfer.step_eq_ok_iff.2 ⟨target, hnext, rfl⟩)

theorem ends_fail (live : ¬ b.IsEnding) (detail : String) :
    Ends at' (Settles c r at') (ended (b.fail detail t)) :=
  ends_ended (Transfer.fail_eq_ok_iff.2 ⟨Transfer.not_isEnding_iff.1 live, rfl⟩)

theorem ends_retry (hretry : b.state.isRetryable = true) (notBefore : Instant) :
    Ends at' (Settles c r at') (ended (b.retry notBefore t)) :=
  ends_ended (Transfer.retry_eq_ok_iff.2 ⟨hretry, rfl⟩)

theorem ends_retryLater (hretry : r.state.isRetryable = true) (ht : at' t) :
    Ends at' (Settles c r at') (retryLater c r t) := by
  unfold retryLater
  split
  · exact ends_retry hretry _
  · rename_i hlate
    refine Or.inr ⟨rfl, t, ht, fun timely => ?_⟩
    rw [IsTimely, nextAttempt?, hlate] at timely
    cases timely.1

theorem ends_retryOrFail (hretry : r.state.isRetryable = true) (live : ¬ r.IsEnding)
    (ht : at' t) (detail : String) :
    Ends at' (Settles c r at') (retryOrFail c r detail t) := by
  unfold retryOrFail
  split
  · rw [ends_note_iff]
    exact ends_fail live detail
  · exact ends_retryLater hretry ht

theorem ends_flowEnded (state_eq : b.state = .started) (outcome : Outcome) :
    Ends at' (Settles c r at') (flowEnded b outcome t) := by
  unfold flowEnded
  split
  · exact ends_step (by rw [state_eq]; rfl)
  · exact ends_fail (Transfer.not_isEnding_of_canSuspend (by rw [state_eq]; rfl)) _

end Parts

section States

theorem ends_opening (state_eq : r.state = .requesting) :
    Ends at' (Settles c r at') (opening c r) := by
  have hretry : r.state.isRetryable = true := by rw [state_eq]; rfl
  have live : ¬ r.IsEnding := Transfer.not_isEnding_of_canSuspend (by rw [state_eq]; rfl)
  refine ends_call_iff.2 fun answer t ht => ?_
  dsimp only
  split
  · exact ends_step (by rw [state_eq]; rfl)
  · exact ends_note_iff.2 (ends_retryOrFail hretry live ht _)
  · exact ends_fail live _

theorem ends_policyCheck (state_eq : r.state = .requested) :
    Ends at' (Settles c r at') (policyCheck c r) := by
  have hretry : r.state.isRetryable = true := by rw [state_eq]; rfl
  have live : ¬ r.IsEnding := Transfer.not_isEnding_of_canSuspend (by rw [state_eq]; rfl)
  refine ends_call_iff.2 fun answer t ht => ?_
  split
  · refine ends_ask_iff.2 fun verdict => ?_
    unfold judged
    split
    · exact ends_step (by rw [state_eq]; rfl)
    · exact ends_note_iff.2 (ends_fail live _)
  · exact ends_fail live _
  · exact ends_note_iff.2 (ends_retryOrFail hretry live ht _)
  · exact ends_note_iff.2 (ends_retryOrFail hretry live ht _)

theorem ends_startOn (state_eq : r.state = .starting) (d : DataPlane) :
    Ends at' (Settles c r at') (startOn c r d) := by
  have hretry : r.state.isRetryable = true := by rw [state_eq]; rfl
  have live : ¬ r.IsEnding := Transfer.not_isEnding_of_canSuspend (by rw [state_eq]; rfl)
  refine ends_call_iff.2 fun answer t ht => ?_
  split
  · exact ends_note_iff.2 (ends_step (b := r.recordDataFlow _ _ _)
      (show r.state.next? _ = _ by rw [state_eq]; rfl))
  · exact ends_fail live _
  · exact ends_note_iff.2 (ends_retryOrFail hretry live ht _)
  · exact ends_note_iff.2 (ends_retryOrFail hretry live ht _)

theorem ends_starting (state_eq : r.state = .starting) (hnow : at' now) :
    Ends at' (Settles c r at') (starting c r now) := by
  have hretry : r.state.isRetryable = true := by rw [state_eq]; rfl
  have live : ¬ r.IsEnding := Transfer.not_isEnding_of_canSuspend (by rw [state_eq]; rfl)
  refine ends_ask_iff.2 fun answer => ?_
  split
  · exact ends_startOn state_eq _
  · exact ends_note_iff.2 (ends_retryOrFail hretry live hnow _)
  · exact ends_note_iff.2 (ends_retryOrFail hretry live hnow _)

theorem ends_pollOn (state_eq : r.state = .started) (d : DataPlane) (handle : String)
    (nextPoll : Instant) : Ends at' (Settles c r at') (pollOn r d handle nextPoll) := by
  have hretry : r.state.isRetryable = true := by rw [state_eq]; rfl
  have live : ¬ r.IsEnding := Transfer.not_isEnding_of_canSuspend (by rw [state_eq]; rfl)
  refine ends_call_iff.2 fun answer t ht => ?_
  split
  · exact ends_flowEnded (b := r.recordCompletion _) state_eq _
  · exact ends_retry hretry _
  · exact ends_note_iff.2 (ends_fail live _)
  · exact ends_note_iff.2 (ends_retry hretry _)
  · exact ends_note_iff.2 (ends_retry hretry _)

theorem ends_pollFlow (state_eq : r.state = .started) (flow : Assignment)
    (nextPoll : Instant) : Ends at' (Settles c r at') (pollFlow r flow nextPoll now) := by
  have hretry : r.state.isRetryable = true := by rw [state_eq]; rfl
  refine ends_ask_iff.2 fun answer => ?_
  split
  · exact ends_pollOn state_eq _ _ _
  · exact ends_retry hretry _
  · exact ends_note_iff.2 (ends_retry hretry _)

theorem ends_tracking (state_eq : r.state = .started) (hnow : at' now) :
    Ends at' (Settles c r at') (tracking c r now) := by
  have live : ¬ r.IsEnding := Transfer.not_isEnding_of_canSuspend (by rw [state_eq]; rfl)
  unfold tracking
  split
  · exact ends_flowEnded state_eq _
  · split
    · exact ends_fail live _
    · split
      · exact ends_note_iff.2 (ends_fail live _)
      · split
        · exact ends_pollFlow state_eq _ _
        · rename_i hlate
          refine Or.inr ⟨rfl, now, hnow, fun timely => ?_⟩
          rw [IsTimely, hlate] at timely
          cases timely.2

theorem ends_completing (state_eq : r.state = .completing) :
    Ends at' (Settles c r at') (completing c r) := by
  have hretry : r.state.isRetryable = true := by rw [state_eq]; rfl
  have live : ¬ r.IsEnding := Transfer.not_isEnding_of_canSuspend (by rw [state_eq]; rfl)
  refine ends_call_iff.2 fun answer t ht => ?_
  dsimp only
  split
  · exact ends_step (by rw [state_eq]; rfl)
  · exact ends_note_iff.2 (ends_retryOrFail hretry live ht _)
  · exact ends_fail live _

theorem ends_terminating (state_eq : r.state = .terminating) :
    Ends at' (Settles c r at') (terminating c r) := by
  have hlast : r.state.next? .terminated = some .terminated := by rw [state_eq]; rfl
  refine ends_call_iff.2 fun answer t ht => ?_
  dsimp only
  split
  · exact ends_step hlast
  · split
    · exact ends_note_iff.2 (ends_step hlast)
    · exact ends_note_iff.2 (ends_retryLater (by rw [state_eq]; rfl) ht)
  · exact ends_note_iff.2 (ends_step hlast)

theorem ends_command {x : Transfer.Command} (hr : r.IsActionable)
    (pending : r.pendingCommand = some x) :
    Ends at' (Settles c r at') (command r.withoutCommand x now) := by
  have hsuits := hr.suits x pending
  refine ends_note_iff.2 ?_
  cases x with
  | cancel => exact ends_ended (Transfer.cancel_eq_ok_iff.2 ⟨hsuits, rfl⟩)
  | suspend =>
      have hstate : r.withoutCommand.state.canSuspend = true := hsuits
      dsimp only
      rw [if_pos hstate]
      exact ends_step (Transfer.State.next?_suspend_iff.2 ⟨hstate, rfl⟩)
  | resume =>
      have hstate : r.withoutCommand.state = .suspended := hsuits
      obtain ⟨prior, hprior, canSuspend⟩ := hr.suspended hsuits
      dsimp only
      rw [if_pos hstate]
      exact ends_ended (Transfer.resume_eq_ok_iff.2 ⟨prior, hprior, hstate, canSuspend, rfl⟩)

theorem ends_ofState (hr : r.IsActionable) (calm : r.pendingCommand = none) (hnow : at' now) :
    Ends at' (Settles c r at') (ofState c r now) := by
  unfold ofState
  split
  · exact ends_step (by rw [‹r.state = .initial›]; rfl)
  · exact ends_opening ‹_›
  · exact ends_policyCheck ‹_›
  · exact ends_starting ‹_› hnow
  · exact ends_tracking ‹_› hnow
  · exact ends_completing ‹_›
  · exact ends_terminating ‹_›
  · exact absurd calm (hr.commanded ‹_›)
  · exact absurd (hr.live.symm.trans (by rw [‹r.state = .completed›]; rfl)) Bool.false_ne_true
  · exact absurd (hr.live.symm.trans (by rw [‹r.state = .terminated›]; rfl)) Bool.false_ne_true

end States

/-- **No attempt comes to nothing.**  On a record on which there is something to do, every attempt
ends with a record, unless the clock is too short. -/
theorem ends_on (hr : r.IsActionable) (hnow : at' now) :
    Ends at' (Settles c r at') (on c r now) := by
  unfold on
  split
  · exact ends_command hr ‹_›
  · exact ends_ofState hr ‹_› hnow

/-- While the clock lasts, every attempt on such a record takes it one step along the state
graph. -/
theorem ends_on_passing (hr : r.IsActionable) (hnow : IsTimely c r now) :
    Ends (IsTimely c r) (fun x => ∃ p, x = .ok p ∧ ∃ s t, r.Passes s t p) (on c r now) := by
  refine (ends_on hr hnow).imp ?_
  rintro xs result hcourse (⟨p, rfl⟩ | ⟨-, t, timely, late⟩)
  · exact ⟨p, rfl, (result_of_yields hcourse).passes hr⟩
  · exact absurd timely late

/-- An attempt on such a record is never refused. -/
theorem Course.not_refused {e : Transfer.Refusal} (hr : r.IsActionable)
    (h : Course (on c r now) xs (.done (.error (.refused e)))) : False := by
  have hends := h.ends (ends_on hr trivial)
  rcases hends with ⟨p, hp⟩ | ⟨hclock, -⟩
  · cases hp
  · cases hclock

end Connector.Attempt
