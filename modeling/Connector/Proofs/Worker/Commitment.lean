import Connector.Proofs.Worker.Calls

/-!
# What an attempt commits others to

Four calls commit whoever accepts them: the messages that open, complete and terminate a transfer,
and the start of its flow.  An attempt whose call was accepted asks nobody else any more; it ends
with the record in the state that follows on the acceptance.  Statements:

* `eachAccepted_on` — what is left of an attempt on a record after every call that was accepted;
* `Course.commits` — the same, wherever an attempt has come to.
-/

namespace Connector

/-- What somebody is committed to who accepts a call. -/
inductive Commitment where
  /-- The other side takes part in the transfer. -/
  | opening
  /-- A data plane moves the data. -/
  | flow
  /-- The other side knows that the transfer is complete. -/
  | completion
  /-- The other side knows that the transfer is terminated. -/
  | termination
  deriving DecidableEq, Repr

namespace Commitment

/-- The state of a transfer for which a commitment is sought. -/
def source : Commitment → Transfer.State
  | opening => .requesting
  | flow => .starting
  | completion => .completing
  | termination => .terminating

/-- The state of a transfer that follows on a commitment. -/
def target : Commitment → Transfer.State
  | opening => .requested
  | flow => .started
  | completion => .completed
  | termination => .terminated

/-- What a message of a kind commits the other side to. -/
def ofKind : MessageKind → Commitment
  | .request | .start => opening
  | .completion => completion
  | .termination => termination

theorem ofKind_openingKind (role : Transfer.Role) :
    ofKind (Message.openingKind role) = opening := by
  cases role <;> rfl

theorem index_source_lt (k : Commitment) : k.source.index < k.target.index := by
  cases k <;> decide

end Commitment

namespace Exchange

/-- The transfer of an accepted call, and what was committed to. -/
def commitment? : Exchange → Option (String × Commitment)
  | .call (.send message) (some (.ok ())) _ =>
      some (message.transferId, Commitment.ofKind message.kind)
  | .call (.start _ flow) (some (.ok _)) _ => some (flow.transferId, .flow)
  | _ => none

/-- The commitments among some exchanges. -/
def commitments (xs : List Exchange) : List (String × Commitment) := xs.filterMap commitment?

theorem commitment?_send_iff {message : Message} {answer : Option (Except DispatchFault Unit)}
    {t : Instant} {id : String} {k : Commitment} :
    (Exchange.call (.send message) answer t).commitment? = some (id, k) ↔
      answer = some (.ok ()) ∧ id = message.transferId ∧ k = Commitment.ofKind message.kind := by
  rcases answer with _ | (e | ⟨⟩)
  · exact ⟨nofun, fun h => (by cases h.1)⟩
  · exact ⟨nofun, fun h => (by cases h.1)⟩
  · constructor
    · intro h
      cases h
      exact ⟨rfl, rfl, rfl⟩
    · rintro ⟨-, rfl, rfl⟩
      rfl

theorem commitment?_start_iff {d : DataPlane} {flow : DataFlow}
    {answer : Option (Except DataPlaneFault String)} {t : Instant} {id : String} {k : Commitment} :
    (Exchange.call (.start d flow) answer t).commitment? = some (id, k) ↔
      (∃ handle, answer = some (.ok handle)) ∧ id = flow.transferId ∧ k = .flow := by
  rcases answer with _ | (e | handle)
  · exact ⟨nofun, fun h => (by cases h.1.choose_spec)⟩
  · exact ⟨nofun, fun h => (by cases h.1.choose_spec)⟩
  · constructor
    · intro h
      cases h
      exact ⟨⟨handle, rfl⟩, rfl, rfl⟩
    · rintro ⟨-, rfl, rfl⟩
      rfl

/-- There are no more commitments than calls. -/
theorem length_commitments_le (xs : List Exchange) :
    (commitments xs).length ≤ (calls xs).length := by
  induction xs with
  | nil => exact Nat.le_refl _
  | cons x xs ih =>
      cases x with
      | inquiry q answer => exact ih
      | call c answer t =>
          rw [calls_cons_call, List.length_cons]
          cases hx : (Exchange.call c answer t).commitment? with
          | none =>
              rw [commitments, List.filterMap_cons_none hx]
              exact Nat.le_succ_of_le ih
          | some y =>
              rw [commitments, List.filterMap_cons_some hx, List.length_cons]
              exact Nat.succ_le_succ ih

end Exchange

namespace Attempt

/-- Whatever is answered: what is left after a call that was accepted has a property. -/
def EachAccepted (P : String → Commitment → Attempt → Prop) : Attempt → Prop
  | .done _ => True
  | .note _ rest => EachAccepted P rest
  | .ask _ next => ∀ answer, EachAccepted P (next answer)
  | .call c next => ∀ answer t, EachAccepted P (next answer t) ∧
      ∀ id k, (Exchange.call c answer t).commitment? = some (id, k) → P id k (next answer t)

variable {P : String → Commitment → Attempt → Prop}

/-- Wherever an attempt has come to, it still has the property after every accepted call. -/
theorem Course.eachAccepted {a b : Attempt} {xs : List Exchange} (h : Course a xs b)
    (ha : EachAccepted P a) : EachAccepted P b := by
  induction h with
  | refl => exact ha
  | note _ ih =>
      rw [EachAccepted] at ha
      exact ih ha
  | ask _ ih =>
      rw [EachAccepted] at ha
      exact ih (ha _)
  | call _ ih =>
      rw [EachAccepted] at ha
      exact ih (ha _ _).1

/-- An attempt that calls nobody who could be committed. -/
theorem eachAccepted_of_callsWithin {allowed : Call → Prop}
    (hallowed : ∀ c, allowed c → ∀ answer t, (Exchange.call c answer t).commitment? = none)
    {n : Nat} {a : Attempt} (h : CallsWithin allowed n a) : EachAccepted P a := by
  induction a generalizing n with
  | done => rw [EachAccepted]; trivial
  | note _ _ ih =>
      rw [callsWithin_note_iff] at h
      rw [EachAccepted]
      exact ih h
  | ask _ _ ih =>
      rw [callsWithin_ask_iff] at h
      rw [EachAccepted]
      exact fun answer => ih answer (h answer)
  | call c next ih =>
      obtain ⟨hc, m, -, hnext⟩ := callsWithin_call_iff.1 h
      rw [EachAccepted]
      refine fun answer t => ⟨ih answer t (hnext answer t), fun id k haccepted => ?_⟩
      cases (hallowed c hc answer t).symm.trans haccepted

/-- An attempt that calls nobody at all. -/
theorem eachAccepted_of_callsWithin_zero {allowed : Call → Prop} {a : Attempt}
    (h : CallsWithin allowed 0 a) : EachAccepted P a := by
  induction a with
  | done => rw [EachAccepted]; trivial
  | note _ _ ih =>
      rw [callsWithin_note_iff] at h
      rw [EachAccepted]
      exact ih h
  | ask _ _ ih =>
      rw [callsWithin_ask_iff] at h
      rw [EachAccepted]
      exact fun answer => ih answer (h answer)
  | call =>
      obtain ⟨-, m, hm, -⟩ := callsWithin_call_iff.1 h
      cases hm

/-- An attempt whose only call comes first. -/
theorem eachAccepted_of_call {allowed : Call → Prop} {c : Call}
    {next : Option c.Answer → Instant → Attempt} (h : CallsWithin allowed 1 (.call c next))
    (haccepted : ∀ answer t id k, (Exchange.call c answer t).commitment? = some (id, k) →
      P id k (next answer t)) : EachAccepted P (.call c next) := by
  obtain ⟨-, m, hm, hnext⟩ := callsWithin_call_iff.1 h
  obtain rfl : m = 0 := by omega
  rw [EachAccepted]
  exact fun answer t =>
    ⟨eachAccepted_of_callsWithin_zero (hnext answer t), fun id k => haccepted answer t id k⟩

/-! ## The attempts by state -/

/-- What is left of an attempt on a record after somebody was committed: it asks nobody any more,
and ends with the record in the state that follows. -/
def Fulfils (r : Transfer) (id : String) (k : Commitment) (rest : Attempt) : Prop :=
  id = r.id ∧ r.state = k.source ∧ ∃ p, rest.Yields [] p ∧ p.state = k.target

variable {c : Setup} {r : Transfer}

/-- An attempt that ends with a step fulfils the commitment to that step. -/
theorem fulfils_of_step {b : Transfer} {s : Transfer.Step} {t : Instant} {k : Commitment}
    (state_eq : r.state = k.source) (hb : b.state = r.state)
    (hnext : k.source.next? s = some k.target) : Fulfils r r.id k (ended (b.step s t)) := by
  rw [← state_eq, ← hb] at hnext
  exact ⟨rfl, state_eq, b.entered s k.target t,
    yields_ended_iff.2 ⟨rfl, Transfer.step_eq_ok_iff.2 ⟨_, hnext, rfl⟩⟩, rfl⟩

theorem eachAccepted_opening (state_eq : r.state = .requesting) :
    EachAccepted (Fulfils r) (opening c r) := by
  refine eachAccepted_of_call (callsWithin_opening state_eq) fun answer t id k haccepted => ?_
  obtain ⟨rfl, rfl, rfl⟩ := Exchange.commitment?_send_iff.1 haccepted
  rw [Message.ofTransfer, Commitment.ofKind_openingKind]
  exact fulfils_of_step state_eq rfl rfl

theorem eachAccepted_startOn (state_eq : r.state = .starting) (d : DataPlane) :
    EachAccepted (Fulfils r) (startOn c r d) := by
  refine eachAccepted_of_call (callsWithin_startOn state_eq d) fun answer t id k haccepted => ?_
  obtain ⟨⟨handle, rfl⟩, rfl, rfl⟩ := Exchange.commitment?_start_iff.1 haccepted
  obtain ⟨hid, hsource, p, hyields, htarget⟩ :=
    fulfils_of_step (b := r.recordDataFlow d.id handle t) (s := .workerStarted) (t := t)
      (k := .flow) state_eq rfl rfl
  exact ⟨hid, hsource, p, yields_note_iff.2 hyields, htarget⟩

theorem eachAccepted_starting (state_eq : r.state = .starting) (now : Instant) :
    EachAccepted (Fulfils r) (starting c r now) := by
  have hnobody : ∀ detail, CallsWithin (fun _ => False) 0 (retryOrFail c r detail now) :=
    fun detail => callsWithin_retryOrFail 0 c r detail now
  unfold starting
  rw [EachAccepted]
  intro answer
  split
  · exact eachAccepted_startOn state_eq _
  · exact eachAccepted_of_callsWithin_zero (callsWithin_note_iff.2 (hnobody _))
  · exact eachAccepted_of_callsWithin_zero (callsWithin_note_iff.2 (hnobody _))

theorem eachAccepted_completing (state_eq : r.state = .completing) :
    EachAccepted (Fulfils r) (completing c r) := by
  refine eachAccepted_of_call (callsWithin_completing state_eq) fun answer t id k haccepted => ?_
  obtain ⟨rfl, rfl, rfl⟩ := Exchange.commitment?_send_iff.1 haccepted
  exact fulfils_of_step state_eq rfl rfl

theorem eachAccepted_terminating (state_eq : r.state = .terminating) :
    EachAccepted (Fulfils r) (terminating c r) := by
  refine eachAccepted_of_call (callsWithin_terminating state_eq) fun answer t id k haccepted => ?_
  obtain ⟨rfl, rfl, rfl⟩ := Exchange.commitment?_send_iff.1 haccepted
  exact fulfils_of_step state_eq rfl rfl

/-- The policy source and a data plane that is asked about a flow are not committed to anything. -/
theorem eachAccepted_of_suits {a : Attempt} {n : Nat} (h : CallsWithin (Suits c r) n a)
    (hstate : ∀ k : Commitment, r.state ≠ k.source) : EachAccepted P a := by
  refine eachAccepted_of_callsWithin (fun call hcall answer t => ?_) h
  cases hcall with
  | policy | poll => rfl
  | opening state_eq => exact absurd state_eq (hstate .opening)
  | start state_eq => exact absurd state_eq (hstate .flow)
  | completion state_eq => exact absurd state_eq (hstate .completion)
  | termination state_eq => exact absurd state_eq (hstate .termination)

/-- **Whoever is committed by an attempt finds it fulfilled.** -/
theorem eachAccepted_on (c : Setup) (r : Transfer) (now : Instant) :
    EachAccepted (Fulfils r) (on c r now) := by
  unfold on
  split
  · have hnobody : ∀ x, CallsWithin (fun _ => False) 0 (command r.withoutCommand x now) :=
      fun x => callsWithin_command 0 _ x now
    exact eachAccepted_of_callsWithin_zero (hnobody _)
  · have hcalls := callsWithin_ofState c r now
    by_cases hstate : ∃ k : Commitment, r.state = k.source
    · obtain ⟨k, state_eq⟩ := hstate
      unfold ofState
      rw [state_eq]
      cases k with
      | opening => exact eachAccepted_opening state_eq
      | flow => exact eachAccepted_starting state_eq now
      | completion => exact eachAccepted_completing state_eq
      | termination => exact eachAccepted_terminating state_eq
    · exact eachAccepted_of_suits hcalls fun k state_eq => hstate ⟨k, state_eq⟩

variable {now : Instant} {xs : List Exchange}

/-- Wherever an attempt makes a call: if that is accepted, the attempt asks nobody any more, and
ends with the record in the state that follows. -/
theorem Course.commits {x : Call} {next : Option x.Answer → Instant → Attempt}
    (h : Course (on c r now) xs (.call x next)) {answer : Option x.Answer} {t : Instant}
    {id : String} {k : Commitment}
    (haccepted : (Exchange.call x answer t).commitment? = some (id, k)) :
    Fulfils r id k (next answer t) := by
  have hcall := h.eachAccepted (eachAccepted_on c r now)
  rw [EachAccepted] at hcall
  exact (hcall answer t).2 id k haccepted

end Attempt
end Connector
