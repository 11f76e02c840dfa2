import Connector.Proofs.Worker.Course

/-!
# The calls of an attempt

An attempt waits for nobody but those whom it calls, so that the number of its calls bounds how
long it takes; and whom it calls tells what the record was claimed for.  Statements:

* `Course.callsWithin` — along a course the calls made are taken off those that may still be made;
* `callsWithin_on`, `Course.suits` — the attempt on a record makes at most one call, and one that
  suits the state of the record: to the policy source, to the other side, or to a data plane.
-/

namespace Connector.Attempt

/-- Whatever is answered, the attempt makes no more than so many calls, all of them allowed. -/
def CallsWithin (allowed : Call → Prop) : Nat → Attempt → Prop
  | _, .done _ => True
  | n, .note _ rest => CallsWithin allowed n rest
  | n, .ask _ next => ∀ answer, CallsWithin allowed n (next answer)
  | 0, .call _ _ => False
  | n + 1, .call c next => allowed c ∧ ∀ answer now, CallsWithin allowed n (next answer now)

variable {allowed : Call → Prop} {n : Nat}

/-- Along a course the calls made are allowed, and are taken off those that the attempt may still
make. -/
theorem Course.callsWithin {a b : Attempt} {xs : List Exchange} (h : Course a xs b) {n : Nat}
    (ha : CallsWithin allowed n a) :
    ∃ m, CallsWithin allowed m b ∧ (Exchange.calls xs).length + m = n := by
  induction h generalizing n with
  | refl => exact ⟨n, ha, by simp⟩
  | note _ ih =>
      rw [CallsWithin] at ha
      exact ih ha
  | ask _ ih =>
      rw [CallsWithin] at ha
      exact ih (ha _)
  | call _ ih =>
      cases n with
      | zero => exact absurd ha (by simp [CallsWithin])
      | succ n =>
          rw [CallsWithin] at ha
          obtain ⟨m, hm, hlen⟩ := ih (ha.2 _ _)
          exact ⟨m, hm, by simp only [Exchange.calls_cons_call, List.length_cons]; omega⟩

/-- A call that is about to be made is allowed, and is one of those that may be made. -/
theorem callsWithin_call_iff {c : Call} {next : Option c.Answer → Instant → Attempt} :
    CallsWithin allowed n (.call c next) ↔
      allowed c ∧ ∃ m, n = m + 1 ∧ ∀ answer now, CallsWithin allowed m (next answer now) := by
  cases n with
  | zero => simp [CallsWithin]
  | succ n => simp [CallsWithin]

/-! ## The parts of an attempt -/

@[simp] theorem callsWithin_done (n : Nat) (r : Except AttemptFault Transfer) :
    CallsWithin allowed n (.done r) := by
  cases n <;> trivial

@[simp] theorem callsWithin_note_iff {x : Note} {rest : Attempt} :
    CallsWithin allowed n (.note x rest) ↔ CallsWithin allowed n rest := by
  rw [CallsWithin]

@[simp] theorem callsWithin_ask_iff {q : Inquiry} {next : q.Answer → Attempt} :
    CallsWithin allowed n (.ask q next) ↔ ∀ answer, CallsWithin allowed n (next answer) := by
  rw [CallsWithin]

theorem callsWithin_call {c : Call} {next : Option c.Answer → Instant → Attempt}
    (hc : allowed c) (hnext : ∀ answer now, CallsWithin allowed n (next answer now)) :
    CallsWithin allowed (n + 1) (.call c next) := by
  rw [CallsWithin]
  exact ⟨hc, hnext⟩

@[simp] theorem callsWithin_ended (n : Nat) (r : Except Transfer.Refusal Transfer) :
    CallsWithin allowed n (ended r) :=
  callsWithin_done n _

@[simp] theorem callsWithin_retryLater (n : Nat) (c : Setup) (p : Transfer) (now : Instant) :
    CallsWithin allowed n (retryLater c p now) := by
  unfold retryLater
  split
  · exact callsWithin_ended n _
  · exact callsWithin_done n _

@[simp] theorem callsWithin_retryOrFail (n : Nat) (c : Setup) (p : Transfer) (detail : String)
    (now : Instant) : CallsWithin allowed n (retryOrFail c p detail now) := by
  unfold retryOrFail
  split
  · simp
  · simp

@[simp] theorem callsWithin_flowEnded (n : Nat) (p : Transfer) (outcome : Outcome)
    (now : Instant) : CallsWithin allowed n (flowEnded p outcome now) := by
  unfold flowEnded
  split
  · simp
  · simp

@[simp] theorem callsWithin_judged (n : Nat) (p : Transfer) (verdict : Decision)
    (now : Instant) : CallsWithin allowed n (judged p verdict now) := by
  unfold judged
  split
  · simp
  · simp

@[simp] theorem callsWithin_unannounced (n : Nat) (p : Transfer) (e : DispatchFault)
    (now : Instant) : CallsWithin allowed n (unannounced p e now) := by
  simp [unannounced]

/-- A command is followed without calling anybody. -/
theorem callsWithin_command (n : Nat) (p : Transfer) (x : Transfer.Command) (now : Instant) :
    CallsWithin allowed n (command p x now) := by
  unfold command
  rw [callsWithin_note_iff]
  cases x with
  | cancel => simp
  | suspend => dsimp only; split <;> simp
  | resume => dsimp only; split <;> simp

/-! ## The attempts by state -/

/-- A call that the attempt on a record may make: whom it calls, by the state of the record. -/
inductive Suits (c : Setup) (p : Transfer) : Call → Prop where
  | opening (state_eq : p.state = .requesting) :
      Suits c p (.send (.ofTransfer (Message.openingKind p.role) p))
  | policy (state_eq : p.state = .requested) : Suits c p (.policy p.request.agreementId)
  | start {d : DataPlane} (state_eq : p.state = .starting) : Suits c p (.start d (flowOf c p))
  | poll {d : DataPlane} {flow : Assignment} (state_eq : p.state = .started)
      (dataFlow_eq : p.dataFlow = some flow) : Suits c p (.poll d flow.handle)
  | completion (state_eq : p.state = .completing) :
      Suits c p (.send (.ofTransfer .completion p))
  | termination (state_eq : p.state = .terminating) :
      Suits c p (.send (.ofTransfer .termination p))

variable {c : Setup} {p : Transfer}

theorem callsWithin_opening (state_eq : p.state = .requesting) :
    CallsWithin (Suits c p) 1 (opening c p) := by
  refine callsWithin_call (.opening state_eq) fun answer now => ?_
  dsimp only
  split <;> simp

theorem callsWithin_policyCheck (state_eq : p.state = .requested) :
    CallsWithin (Suits c p) 1 (policyCheck c p) := by
  refine callsWithin_call (.policy state_eq) fun answer now => ?_
  split
  · -- After the policy source only the judge is asked, who answers at once.
    rw [callsWithin_ask_iff]
    exact fun verdict => callsWithin_judged 0 p verdict now
  · simp
  · simp
  · simp

theorem callsWithin_startOn (state_eq : p.state = .starting) (d : DataPlane) :
    CallsWithin (Suits c p) 1 (startOn c p d) := by
  refine callsWithin_call (.start state_eq) fun answer now => ?_
  split <;> simp

theorem callsWithin_starting (state_eq : p.state = .starting) (now : Instant) :
    CallsWithin (Suits c p) 1 (starting c p now) := by
  unfold starting
  rw [callsWithin_ask_iff]
  intro answer
  split
  · exact callsWithin_startOn state_eq _
  · simp
  · simp

theorem callsWithin_pollOn {flow : Assignment} (state_eq : p.state = .started)
    (dataFlow_eq : p.dataFlow = some flow) (d : DataPlane) (nextPoll : Instant) :
    CallsWithin (Suits c p) 1 (pollOn p d flow.handle nextPoll) := by
  refine callsWithin_call (.poll state_eq dataFlow_eq) fun answer now => ?_
  split <;> simp

theorem callsWithin_pollFlow {flow : Assignment} (state_eq : p.state = .started)
    (dataFlow_eq : p.dataFlow = some flow) (nextPoll now : Instant) :
    CallsWithin (Suits c p) 1 (pollFlow p flow nextPoll now) := by
  unfold pollFlow
  rw [callsWithin_ask_iff]
  intro answer
  split
  · exact callsWithin_pollOn state_eq dataFlow_eq _ _
  · simp
  · simp

theorem callsWithin_tracking (state_eq : p.state = .started) (now : Instant) :
    CallsWithin (Suits c p) 1 (tracking c p now) := by
  unfold tracking
  split
  · simp
  · split
    · simp
    · rename_i flow dataFlow_eq
      split
      · simp
      · split
        · exact callsWithin_pollFlow state_eq dataFlow_eq _ _
        · simp

theorem callsWithin_completing (state_eq : p.state = .completing) :
    CallsWithin (Suits c p) 1 (completing c p) := by
  refine callsWithin_call (.completion state_eq) fun answer now => ?_
  dsimp only
  split <;> simp

theorem callsWithin_terminating (state_eq : p.state = .terminating) :
    CallsWithin (Suits c p) 1 (terminating c p) := by
  refine callsWithin_call (.termination state_eq) fun answer now => ?_
  dsimp only
  split
  · simp
  · split <;> simp
  · simp

theorem callsWithin_ofState (c : Setup) (p : Transfer) (now : Instant) :
    CallsWithin (Suits c p) 1 (ofState c p now) := by
  unfold ofState
  split
  · exact callsWithin_ended 1 _
  · exact callsWithin_opening ‹_›
  · exact callsWithin_policyCheck ‹_›
  · exact callsWithin_starting ‹_› now
  · exact callsWithin_tracking ‹_› now
  · exact callsWithin_completing ‹_›
  · exact callsWithin_terminating ‹_›
  · exact callsWithin_done 1 _
  · exact callsWithin_done 1 _
  · exact callsWithin_done 1 _

/-- **One call at most**, and one that suits the record. -/
theorem callsWithin_on (c : Setup) (p : Transfer) (now : Instant) :
    CallsWithin (Suits c p) 1 (on c p now) := by
  unfold on
  split
  · exact callsWithin_command 1 _ _ now
  · exact callsWithin_ofState c p now

variable {now : Instant} {xs : List Exchange}

theorem Course.calls_le_one {b : Attempt} (h : Course (on c p now) xs b) :
    (Exchange.calls xs).length ≤ 1 := by
  obtain ⟨m, -, hlen⟩ := h.callsWithin (callsWithin_on c p now)
  omega

/-- A call that is about to be made is the first one, and suits the record. -/
theorem Course.suits {k : Call} {next : Option k.Answer → Instant → Attempt}
    (h : Course (on c p now) xs (.call k next)) : Suits c p k ∧ Exchange.calls xs = [] := by
  obtain ⟨n, hcall, hlen⟩ := h.callsWithin (callsWithin_on c p now)
  obtain ⟨hsuits, m, rfl, -⟩ := callsWithin_call_iff.1 hcall
  exact ⟨hsuits, List.length_eq_zero_iff.1 (by omega)⟩

end Connector.Attempt
