import Connector.Proofs.Worker.Calls
import Connector.Proofs.World.Records

/-!
# The policy gate

A transfer is handed to a data plane only after its policy allowed it.  Other workers, signals,
conflicts, suspension and resumption between the verdict and the start make no difference: what
counts is an attempt that was written back.  Statements:

* `Result.to_starting`, `Result.suspendedFrom_starting` — the ways into the state in which a data
  plane is looked for;
* `isGated_invariant` — a record in that state, or suspended from it, was allowed;
* `policy_gate` — whenever a call is placed that starts a flow, its transfer was allowed before.
-/

namespace Connector

/-- The ways along the state graph into looking for a data plane. -/
theorem Transfer.State.next?_eq_starting {s : State} {step : Step}
    (h : s.next? step = some .starting) :
    (s = .requested ∧ step = .policyAllowed) ∨ step = .resume .starting ∨
      (s = .starting ∧ step = .retry) := by
  cases s <;> cases step <;> simp_all [next?, isRetryable, canSuspend, isTerminal]

namespace Attempt

variable {c : Setup} {r : Transfer} {now : Instant} {xs : List Exchange} {p : Transfer}

/-- The exchanges in which the policy of a record's agreement is had and allows the transfer. -/
def allowing (c : Setup) (r : Transfer) (resolved : ResolvedPolicy) (t : Instant) :
    List Exchange :=
  [.call (.policy r.request.agreementId) (some (.ok (some resolved))) t,
    .inquiry (.judge resolved.document (policyContext c r resolved.attributes)) .allow]

/-- A result is looking for a data plane only if the record was, or was suspended from that, or
has just been allowed. -/
theorem Result.to_starting (h : Result c r now xs p) (hp : p.state = .starting) :
    r.state = .starting ∨ r.suspendedFrom = some .starting ∨
      (r.state = .requested ∧ ∃ resolved t, xs = allowing c r resolved t) := by
  cases h with
  | ignored | idle => exact Or.inl hp
  | allowed _ state_eq => exact Or.inr (Or.inr ⟨state_eq, _, _, rfl⟩)
  | resumed _ _ moved =>
      obtain ⟨prior, hprior, -, -, rfl⟩ := Transfer.resume_eq_ok_iff.1 moved
      obtain rfl : prior = .starting := hp
      exact Or.inr (Or.inl hprior)
  | unannounced _ _ _ _ _ moved | retried _ _ _ _ moved | awaited _ _ _ _ moved =>
      obtain ⟨-, rfl⟩ := Transfer.retry_eq_ok_iff.1 moved
      exact Or.inl hp
  | cancelled _ moved =>
      obtain ⟨-, rfl⟩ := Transfer.cancel_eq_ok_iff.1 moved
      cases hp
  | exhausted _ _ _ moved =>
      obtain ⟨-, rfl⟩ := Transfer.fail_eq_ok_iff.1 moved
      cases hp
  | failed _ _ moved =>
      obtain ⟨-, rfl⟩ := Transfer.fail_eq_ok_iff.1 moved
      cases hp
  | suspended _ _ moved | begun _ _ moved | dispatched _ _ moved | started _ _ moved
  | reported _ _ _ moved | polled _ _ moved | finalized _ _ moved | terminated _ _ _ moved =>
      obtain ⟨target, hnext, rfl⟩ := Transfer.step_eq_ok_iff.1 moved
      obtain rfl : target = .starting := hp
      rcases Transfer.State.next?_eq_starting hnext with ⟨-, hstep⟩ | hstep | ⟨-, hstep⟩ <;>
        cases hstep

/-- A result is suspended from looking for a data plane only if the record was, or was looking for
one. -/
theorem Result.suspendedFrom_starting (h : Result c r now xs p)
    (hp : p.suspendedFrom = some .starting) :
    r.suspendedFrom = some .starting ∨ r.state = .starting := by
  cases h with
  | ignored | idle => exact Or.inl hp
  | cancelled _ moved =>
      obtain ⟨-, rfl⟩ := Transfer.cancel_eq_ok_iff.1 moved
      exact Or.inl hp
  | suspended _ _ moved =>
      obtain ⟨_, -, rfl⟩ := Transfer.step_eq_ok_iff.1 moved
      exact Or.inr (Option.some.inj hp)
  | resumed _ _ moved =>
      obtain ⟨_, -, -, -, rfl⟩ := Transfer.resume_eq_ok_iff.1 moved
      cases hp
  | begun _ _ moved | dispatched _ _ moved | allowed _ _ moved | started _ _ moved
  | reported _ _ _ moved | polled _ _ moved | finalized _ _ moved | terminated _ _ _ moved =>
      obtain ⟨_, -, rfl⟩ := Transfer.step_eq_ok_iff.1 moved
      exact Or.inl hp
  | unannounced _ _ _ _ _ moved | retried _ _ _ _ moved | awaited _ _ _ _ moved =>
      obtain ⟨-, rfl⟩ := Transfer.retry_eq_ok_iff.1 moved
      exact Or.inl hp
  | exhausted _ _ _ moved =>
      obtain ⟨-, rfl⟩ := Transfer.fail_eq_ok_iff.1 moved
      exact Or.inl hp
  | failed _ failure moved =>
      obtain ⟨-, rfl⟩ := Transfer.fail_eq_ok_iff.1 moved
      cases failure with
      | polled => exact Or.inl hp
      | openingRejected | unbound | denied | startRejected | reported | noFlow | overdue
      | pollRejected | completionRejected => exact Or.inl hp

end Attempt

namespace Ledger

/-- The policy of a record's transfer allowed it: in an attempt on the transfer that was written
back, made when the opening message had gone through, the policy source had a policy for the
agreement, and the judge allowed the transfer to the party that asks for it. -/
def WasAllowed (l : Ledger) (r : Transfer) : Prop :=
  ∃ setup claimed p resolved t,
    l.Attempted setup claimed
      [.call (.policy r.request.agreementId) (some (.ok (some resolved))) t,
        .inquiry (.judge resolved.document
          ⟨r.request.agreementId,
            match r.role with
            | .consumer => setup.identity.id
            | .provider => r.request.connectorId,
            "transfer", resolved.attributes⟩) .allow] p ∧
    claimed.id = r.id ∧ claimed.role = r.role ∧ claimed.request = r.request ∧
    claimed.state = .requested

/-- A record whose transfer is to be handed to a data plane, now or after resuming, was allowed. -/
def IsGated (l : Ledger) (r : Transfer) : Prop :=
  r.state = .starting ∨ r.suspendedFrom = some .starting → l.WasAllowed r

variable {l l' : Ledger} {a : Action} {r r' : Transfer}

/-- A verdict is one for every record of the transfer. -/
theorem WasAllowed.succeeds (h : l.WasAllowed r) (hr : r'.Succeeds r) : l.WasAllowed r' := by
  obtain ⟨setup, claimed, p, resolved, t, hatt, hid, hrole, hrequest, hstate⟩ := h
  refine ⟨setup, claimed, p, resolved, t, ?_, hid.trans hr.id_eq.symm, hrole.trans hr.role_eq.symm,
    hrequest.trans hr.request_eq.symm, hstate⟩
  rw [hr.role_eq, hr.request_eq]
  exact hatt

theorem wasAllowed_turn (h : l.Turn a l') (hr : l.WasAllowed r) : l'.WasAllowed r := by
  obtain ⟨setup, claimed, p, resolved, t, hatt, hclaimed⟩ := hr
  exact ⟨setup, claimed, p, resolved, t, attempted_turn h hatt, hclaimed⟩

/-- An attempt that was written back with the verdict of the judge is a verdict for its record. -/
theorem wasAllowed_of_attempted {setup : Setup} {p : Transfer} {resolved : ResolvedPolicy}
    {t : Instant} (hatt : l.Attempted setup r (Attempt.allowing setup r resolved t) p)
    (hstate : r.state = .requested) : l.WasAllowed r := by
  refine ⟨setup, r, p, resolved, t, ?_, rfl, rfl, rfl, hstate⟩
  unfold Attempt.allowing Attempt.policyContext Attempt.requestingParty at hatt
  cases hrole : r.role <;> rw [hrole] at hatt <;> exact hatt

/-- Every record that looks for a data plane, or was suspended from that, was allowed. -/
theorem isGated_invariant : IsInvariant IsGated where
  created l id role request now _ := by
    rintro (h | h) <;> cases h
  stays h hr hstate := wasAllowed_turn h (hr hstate)
  changed {l' r r'} _ h hchange := by
    have hsucceeds := hchange.succeeds
    cases hchange with
    | leased | released => exact fun hstate => (h hstate).succeeds hsucceeds
    | @signalled x q accepted =>
        have hframe := Transfer.accept_frame accepted
        intro hstate
        rw [Transfer.bumped, hframe] at hstate
        exact (h hstate).succeeds hsucceeds
    | @attempted setup now xs p hatt result =>
        rintro (hp | hp)
        · rcases result.to_starting hp with hstate | hstate | ⟨hstate, resolved, t, rfl⟩
          · exact (h (Or.inl hstate)).succeeds hsucceeds
          · exact (h (Or.inr hstate)).succeeds hsucceeds
          · exact (wasAllowed_of_attempted hatt hstate).succeeds hsucceeds
        · exact (h (result.suspendedFrom_starting hp).symm).succeeds hsucceeds

end Ledger

namespace World

theorem isGated_run (now : Instant) (capacity : Nat) (liveness : Option Int)
    (actions : List Action) :
    ((start now capacity liveness).run actions).ledger.Everywhere Ledger.IsGated :=
  Ledger.everywhere_run Ledger.isGated_invariant now capacity liveness actions

/-- A call that starts a flow is placed by a job on a record that looks for a data plane. -/
theorem job_of_placed_start {w : World} (hw : w.Sound) {a : Action} {d : DataPlane}
    {flow : DataFlow} (h : w.placed? a = some (.start d flow)) :
    ∃ j ∈ w.jobs, j.claimed.state = .starting ∧ flow = Attempt.flowOf j.setup j.claimed := by
  cases a with
  | advance i oracle =>
      obtain ⟨j, hj, hplacing⟩ := Option.bind_eq_some_iff.1 h
      obtain ⟨found, -⟩ := job?_eq_some_iff.1 hj
      have hmem : j ∈ w.jobs := List.mem_of_getElem? found
      refine ⟨j, hmem, ?_⟩
      unfold Job.placing? at hplacing
      split at hplacing
      · rename_i hphase
        cases hplacing
        obtain ⟨now, hcourse⟩ := (hw.ledger.jobs j hmem).reaches_of_running hphase
        cases hcourse.suits.1 with
        | start state_eq => exact ⟨state_eq, rfl⟩
      · cases hplacing
  | create | deliver | claim | answer | lose | pass | upkeep => cases h

/-- **The policy gate.**  After every run, whatever action may place a call next that hands a flow
to a data plane, the transfer of that flow was allowed by its policy before, in an attempt that was
written back; and so was every transfer that is stored as looking for a data plane. -/
theorem policy_gate (now : Instant) (capacity : Nat) (liveness : Option Int)
    (actions : List Action) :
    let w := (start now capacity liveness).run actions
    (∀ a d flow, w.placed? a = some (.start d flow) →
      ∃ r, w.find? flow.transferId = some r ∧ r.request = flow.request ∧ w.ledger.WasAllowed r) ∧
    ∀ id r, w.find? id = some r → r.state = .starting → w.ledger.WasAllowed r := by
  intro w
  have hw : w.Sound := sound_run (sound_start now capacity liveness) actions
  have hgated := isGated_run now capacity liveness actions
  refine ⟨?_, fun id r hr hstate => hgated.records id r hr (Or.inl hstate)⟩
  intro a d flow hplaced
  obtain ⟨j, hj, hstate, rfl⟩ := job_of_placed_start hw hplaced
  obtain ⟨r, hr, hsucceeds⟩ := Ledger.keepsCopies_run now capacity liveness actions j hj
  have hallowed := hgated.copies j hj (Or.inl hstate)
  exact ⟨r, hr, hsucceeds.request_eq, hallowed.succeeds hsucceeds⟩

/-- A transfer comes to the point where a data plane is about to be called. -/
theorem policy_gate_passed :
    let request : DataRequest :=
      ⟨"r", "a", "s", "c", "http://c", "p", ⟨"blob", []⟩, ⟨"http", []⟩, []⟩
    let setup : Setup := ⟨.ofHost "h", .standard⟩
    let oracle : (q : Inquiry) → q.Answer
      | .judge _ _ => Decision.allow
      | .select _ => Except.ok ⟨"d", "http://d", [], [], ⟨0⟩, ⟨0⟩, none⟩
      | .find _ => Except.ok none
    let reply : (c : Call) → Option c.Answer
      | .policy _ => some (Except.ok (some ⟨.object [], []⟩))
      | .send _ => some (Except.ok ())
      | .start _ _ | .poll _ _ => none
    let w := (start ⟨0⟩ 16 none).run [.create "t" .consumer request,
      .claim setup "w", .advance 0 oracle, .advance 0 oracle,
      .claim setup "w", .advance 1 oracle, .advance 1 oracle, .answer 1 reply, .advance 1 oracle,
      .claim setup "w", .advance 2 oracle, .advance 2 oracle, .answer 2 reply, .advance 2 oracle,
      .advance 2 oracle,
      .claim setup "w", .advance 3 oracle, .advance 3 oracle]
    ∃ d flow, w.placed? (.advance 3 oracle) = some (.start d flow) ∧
      ∃ r, w.find? flow.transferId = some r ∧ r.request = flow.request ∧
        w.ledger.WasAllowed r := by
  intro request setup oracle reply w
  have hstart : (w.placed? (.advance 3 oracle)).any
      (fun c => match c with | .start _ _ => true | _ => false) = true := by
    decide +kernel
  obtain ⟨c, hplaced, hc⟩ := (Option.any_eq_true _ _).1 hstart
  cases c with
  | start d flow => exact ⟨d, flow, hplaced, (policy_gate ⟨0⟩ 16 none _).1 _ d flow hplaced⟩
  | policy | send | poll => cases hc

end World
end Connector
