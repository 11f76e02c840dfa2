import Connector.Proofs.Transfer.Claimability
import Connector.Proofs.Worker.Report
import Connector.Proofs.World.Records

/-!
# Attempts and records in time

As long as time does not turn back, nothing that happened is later than now: an attempt begins
after its claim, the answers come before they are used, and no flow is started later than it is
recorded.  A record is claimed when its time has come, unless something urgent is to be done.
Statements:

* `Step.began`, `Began.since` — an attempt that was written back began when its record had been
  claimed;
* `isDated_turn` — a turn that does not turn time back keeps the order of things in time.
-/

namespace Connector

namespace Job

/-- What is left of the attempt follows from its beginning at an instant. -/
def Since (j : Job) (b : Instant) (rest : Attempt) : Prop :=
  Attempt.Course (.on j.setup j.claimed b) j.exchanges rest

/-- As long as the attempt goes on, it is one that began after the claim. -/
def Began (j : Job) : Prop :=
  match j.phase with
  | .running rest => ∃ b, j.claimedAt ≤ b ∧ j.Since b rest
  | .calling c _ next => ∃ b, j.claimedAt ≤ b ∧ j.Since b (.call c next)
  | .fresh | .yielding | .persisted _ _ _ | .released _ => True

/-- What a job knows is not later than now, and its record was claimed when its time had come. -/
structure IsDated (now : Instant) (j : Job) : Prop where
  claimedAt_le : j.claimedAt ≤ now
  began : j.Began
  answered : ∀ c answer t, .call c answer t ∈ j.exchanges → t ≤ now
  due : j.claimed.isUrgent = false → ∀ t, j.claimed.retryAt = some t → t ≤ j.claimedAt
  tracked : ∀ flow, j.claimed.dataFlow = some flow → flow.startedAt ≤ j.claimedAt

variable {now : Instant} {s t : Transfers} {j j' : Job}

/-- A step goes on with an attempt, or begins one now. -/
theorem Step.began (h : j.Step now s j' t) (course : j.IsCourse) (hnow : j.claimedAt ≤ now)
    (hj : j.Began) : j'.Began := by
  unfold Began at hj
  cases h with
  | begun phase_eq =>
      rw [IsCourse, phase_eq] at course
      have hsince : (j.inPhase (.running (.on j.setup j.claimed now))).Since now
          (.on j.setup j.claimed now) := by
        show Attempt.Course _ j.exchanges _
        rw [course]
        exact .refl _
      exact ⟨now, hnow, hsince⟩
  | noted phase_eq =>
      rw [phase_eq] at hj
      obtain ⟨b, hb, hcourse⟩ := hj
      have htail := Attempt.Course.trans hcourse (.note (.refl _))
      rw [List.append_nil] at htail
      exact ⟨b, hb, htail⟩
  | asked phase_eq =>
      rw [phase_eq] at hj
      obtain ⟨b, hb, hcourse⟩ := hj
      exact ⟨b, hb, Attempt.Course.trans hcourse (.ask (.refl _))⟩
  | placed phase_eq =>
      rw [phase_eq] at hj
      exact hj
  | answered phase_eq =>
      rw [phase_eq] at hj
      obtain ⟨b, hb, hcourse⟩ := hj
      exact ⟨b, hb, Attempt.Course.trans hcourse (.call (.refl _))⟩
  | failed | persisted | abandoned | told | released => exact trivial
  | lost => exact hj

/-- An attempt that has come to a record began after the claim. -/
theorem Began.since {p : Transfer} (h : j.Began) (phase_eq : j.phase = .running (.done (.ok p))) :
    ∃ b, j.claimedAt ≤ b ∧ (Attempt.on j.setup j.claimed b).Yields j.exchanges p := by
  unfold Began at h
  rw [phase_eq] at h
  exact h

theorem IsDated.later {u : Instant} (h : j.IsDated now) (later : now ≤ u) : j.IsDated u where
  claimedAt_le := Int.le_trans h.claimedAt_le later
  began := h.began
  answered c answer t hx := Int.le_trans (h.answered c answer t hx) later
  due := h.due
  tracked := h.tracked

theorem Step.isDated (h : j.Step now s j' t) (course : j.IsCourse) (dated : j.IsDated now) :
    j'.IsDated now where
  claimedAt_le := h.continues.claimedAt_eq ▸ dated.claimedAt_le
  began := h.began course dated.claimedAt_le dated.began
  answered c answer u hx := by
    rcases h.mem_exchanges hx with hx | ⟨since, next, -, rfl, -⟩
    · exact dated.answered c answer u hx
    · exact Int.le_refl _
  due := by
    rw [h.continues.claimed_eq, h.continues.claimedAt_eq]
    exact dated.due
  tracked := by
    rw [h.continues.claimed_eq, h.continues.claimedAt_eq]
    exact dated.tracked

end Job

/-- What is claimed without urgency is claimed when its time has come. -/
theorem Transfer.le_of_isClaimable {r : Transfer} {now t : Instant}
    (claimable : r.isClaimable now = true) (calm : r.isUrgent = false)
    (ht : r.retryAt = some t) : t ≤ now := by
  obtain ⟨-, -, urgent | due⟩ := isClaimable_iff.1 claimable
  · cases calm.symm.trans urgent
  · exact due t ht

namespace Ledger

/-- Nothing that is known is later than now. -/
structure IsDated (l : Ledger) : Prop where
  jobs : ∀ j ∈ l.jobs, j.IsDated l.now
  records : ∀ id r, l.transfers.find? id = some r → ∀ flow, r.dataFlow = some flow →
    flow.startedAt ≤ l.now

variable {l l' : Ledger} {a : Action}

/-- Time turns back only where an action says so. -/
theorem Turn.now_le (h : l.Turn a l') (later : ∀ t, a = .pass t → l.now ≤ t) :
    l.now ≤ l'.now := by
  cases h with
  | passed t => exact later t rfl
  | still | created | signalled | claimed | worked => exact Int.le_refl _

/-- What is claimed now is dated now. -/
theorem isDated_fresh (hl : l.Sound) (dated : l.IsDated) {setup : Setup} {holder : String}
    {p : Transfer} (hp : p ∈ (l.claimOf setup holder).1) :
    (Job.fresh setup holder l.now p).IsDated l.now := by
  obtain ⟨r, hr, rfl⟩ := Transfers.mem_claim_iff.1 hp
  obtain ⟨hstored, -, claimable⟩ := Transfers.mem_chosen hr
  have hfind := (Transfers.mem_values_iff hl.isKeyed).1 hstored
  refine ⟨Int.le_refl _, trivial, fun c answer t hx => absurd hx List.not_mem_nil, ?_, ?_⟩
  · exact fun calm t ht => Transfer.le_of_isClaimable claimable calm ht
  · exact fun flow hflow => dated.records r.id r hfind flow hflow

/-- A change keeps the flow of a record, or records one that has just been started. -/
theorem Change.dataFlow_cases {r r' : Transfer} (h : Change l' r r') :
    r'.dataFlow = r.dataFlow ∨ ∃ setup xs p c answer t, l'.Attempted setup r xs p ∧
      .call c answer t ∈ xs ∧ ∀ flow, r'.dataFlow = some flow → flow.startedAt = t := by
  cases h with
  | leased | released => exact Or.inl rfl
  | signalled accepted =>
      rw [Transfer.bumped, Transfer.accept_frame accepted]
      exact Or.inl rfl
  | @attempted setup now xs p hatt result =>
      cases result.news with
      | unchanged dataFlow_eq => exact Or.inl dataFlow_eq
      | reported _ dataFlow_eq => exact Or.inl dataFlow_eq
      | assigned _ _ dataFlow_eq =>
          refine Or.inr ⟨_, _, _, _, _, _, hatt, List.mem_cons_of_mem _ List.mem_cons_self, ?_⟩
          intro flow hflow
          cases dataFlow_eq.symm.trans hflow
          rfl

/-- **Time goes on.**  A turn after which it is not earlier keeps what is known in order. -/
theorem isDated_turn (hl : l.Sound) (h : l.Turn a l') (later : l.now ≤ l'.now)
    (dated : l.IsDated) : l'.IsDated := by
  have hjobs : ∀ j ∈ l'.jobs, j.IsDated l'.now := by
    intro j' hj'
    rcases h.jobs hj' with hj | ⟨j, hj, step⟩ | ⟨setup, holder, p, hp, -, rfl⟩
    · exact (dated.jobs j' hj).later later
    · exact (step.isDated (hl.jobs j hj).isCourse (dated.jobs j hj)).later later
    · exact (isDated_fresh hl dated hp).later later
  refine ⟨hjobs, ?_⟩
  intro id r' hr' flow hflow
  cases hr : l.transfers.find? id with
  | none =>
      obtain ⟨role, request, -, rfl⟩ := find?_turn_of_eq_none hl h hr hr'
      cases hflow
  | some r =>
      rcases find?_turn hl h hr with hsame | ⟨q, hq, hchange⟩
      · cases hr'.symm.trans hsame
        exact Int.le_trans (dated.records id r' hr flow hflow) later
      · cases hr'.symm.trans hq
        rcases hchange.dataFlow_cases with heq | ⟨_, _, _, c, answer, t, hatt, hx, hstart⟩
        · exact Int.le_trans (dated.records id r hr flow (heq ▸ hflow)) later
        · obtain ⟨j, hj, -, -, rfl, -⟩ := hatt
          rw [hstart flow hflow]
          exact (hjobs j hj).answered c answer t hx

end Ledger
end Connector
