import Connector.Proofs.Worker.Report
import Connector.Proofs.Worker.Retrying

/-!
# How many attempts a transfer can see

A transfer for which no command waits only goes on, and in each of its states it bears with so many
failures and no more, so that the attempts that are left can be counted beforehand.  Only the state
in which a flow is tracked does not count its attempts; there the time counts: the attempts are
paced by the interval between two questions, and the flow must not take longer than its limit.
Statements:

* `Result.budget_lt` — every attempt uses up one of those that are left, unless it tracks a flow;
* `Result.isPolled`, `IsPolled.le` — the attempts that track a flow are an interval apart, and all
  of them but the last come before the limit, so that they are not too many;
* `Result.of_overdue` — from the limit on the first attempt to track a flow turns the transfer to
  termination;
* `Result.isSpent` — all of this, from attempt to attempt.
-/

namespace Connector

namespace Transfer

/-- How many attempts may still be made on a transfer, but for those that track its flow. -/
def budget (most : Nat) (r : Transfer) : Nat :=
  match r.state with
  | .initial => 1 + 5 * most
  | .requesting => 5 * most - r.stateCount
  | .requested => 4 * most - r.stateCount
  | .starting => 3 * most - r.stateCount
  | .started => 2 * most
  | .completing => 2 * most - r.stateCount
  | .terminating => most - r.stateCount
  | .suspended | .completed | .terminated => 0

/-- A transfer that is under way has not been tried too often. -/
structure IsUnderWay (most : Nat) (r : Transfer) : Prop where
  calm : r.pendingCommand = none
  live : r.state.isTerminal = false
  going : r.state ≠ .suspended
  counted : r.state ≠ .started → r.stateCount < most

theorem IsUnderWay.budget_pos {most : Nat} {r : Transfer} (h : r.IsUnderWay most)
    (positive : 1 ≤ most) : 0 < r.budget most := by
  obtain ⟨-, live, going, counted⟩ := h
  unfold budget
  cases hstate : r.state with
  | suspended => exact absurd hstate going
  | completed | terminated =>
      rw [hstate] at live
      cases live
  | initial | started =>
      dsimp only
      omega
  | requesting | requested | starting | completing | terminating =>
      have hcount := counted (by rw [hstate]; simp)
      dsimp only
      omega

/-- The attempts that track a flow are within its limit, all of them but the last one. -/
def IsPaced (o : Config.Orchestration) (n : Nat) : Prop :=
  n ≤ 1 ∨ ∃ m : Nat, n = m + 2 ∧
    m * o.statusPollInterval.toDistance < o.transferTimeout.toDistance

/-- So many attempts have tracked the flow of a transfer.  While it is tracked, the last of them
came before the limit, and the next one has to wait until the interval is over. -/
def IsPolled (o : Config.Orchestration) (n : Nat) (r : Transfer) : Prop :=
  match r.state with
  | .initial | .requesting | .requested | .starting => n = 0
  | .started =>
      n = r.stateCount ∧ r.completion = none ∧ ∃ flow, r.dataFlow = some flow ∧
        (n = 0 ∨ ∃ (m : Nat) (t : Instant), n = m + 1 ∧
          m * o.statusPollInterval.toDistance < o.transferTimeout.toDistance ∧
          r.retryAt = some t ∧
          flow.startedAt.nanos + n * o.statusPollInterval.toDistance ≤ t.nanos)
  | .completing | .completed | .suspended | .terminating | .terminated => IsPaced o n

variable {o : Config.Orchestration} {n : Nat} {r : Transfer}

theorem isPolled_started_iff (hstate : r.state = .started) :
    r.IsPolled o n ↔ n = r.stateCount ∧ r.completion = none ∧ ∃ flow, r.dataFlow = some flow ∧
      (n = 0 ∨ ∃ (m : Nat) (t : Instant), n = m + 1 ∧
        m * o.statusPollInterval.toDistance < o.transferTimeout.toDistance ∧
        r.retryAt = some t ∧
        flow.startedAt.nanos + n * o.statusPollInterval.toDistance ≤ t.nanos) := by
  unfold IsPolled
  rw [hstate]

/-- After one more attempt the attempts that track a flow are still paced. -/
theorem IsPolled.isPaced (h : r.IsPolled o n) :
    IsPaced o (n + if r.state = .started then 1 else 0) := by
  unfold IsPolled at h
  cases hstate : r.state with
  | initial | requesting | requested | starting =>
      rw [hstate] at h
      exact Or.inl (by rw [show n = 0 from h]; simp)
  | started =>
      rw [hstate] at h
      obtain ⟨-, -, flow, -, rfl | ⟨m, t, rfl, hlimit, -⟩⟩ := h
      · exact Or.inl (by simp)
      · exact Or.inr ⟨m, by simp, hlimit⟩
  | completing | completed | suspended | terminating | terminated =>
      rw [hstate] at h
      simpa using h

/-- When the next attempt that tracks a flow may begin. -/
theorem IsPolled.due (h : r.IsPolled o n) (hstate : r.state = .started) {b : Instant}
    (waited : ∀ t, r.retryAt = some t → t ≤ b)
    (started : ∀ flow, r.dataFlow = some flow → flow.startedAt ≤ b) :
    ∃ flow, r.dataFlow = some flow ∧
      flow.startedAt.nanos + n * o.statusPollInterval.toDistance ≤ b.nanos := by
  obtain ⟨-, -, flow, hflow, rfl | ⟨m, t, -, -, hretry, hlate⟩⟩ :=
    (isPolled_started_iff hstate).1 h
  · have hstart : flow.startedAt.nanos ≤ b.nanos := started flow hflow
    exact ⟨flow, hflow, by simpa using hstart⟩
  · exact ⟨flow, hflow, Int.le_trans hlate (waited t hretry)⟩

/-- So many attempts that track a flow fit into its limit, and one or two more. -/
theorem IsPolled.le (h : r.IsPolled o n)
    (limit_eq : o.transferTimeout.toDistance = o.transferTimeout.nanos)
    (interval_eq : o.statusPollInterval.toDistance = o.statusPollInterval.nanos)
    (positive : 0 < o.statusPollInterval.nanos) :
    n ≤ (o.transferTimeout.nanos + o.statusPollInterval.nanos - 1) / o.statusPollInterval.nanos
      + 1 := by
  rcases Nat.lt_or_ge n 2 with hfew | hmany
  · exact Nat.le_trans (Nat.le_of_lt_succ hfew) (Nat.le_add_left 1 _)
  · obtain ⟨m, hn, hlimit⟩ : ∃ m : Nat, n ≤ m + 2 ∧
        m * o.statusPollInterval.toDistance < o.transferTimeout.toDistance := by
      unfold IsPolled at h
      cases hstate : r.state with
      | initial | requesting | requested | starting =>
          rw [hstate] at h
          cases Nat.le_zero.1 (h ▸ hmany)
      | started =>
          rw [hstate] at h
          obtain ⟨-, -, flow, -, hnone | ⟨m, t, hm, hlimit, -⟩⟩ := h
          · omega
          · exact ⟨m, by omega, hlimit⟩
      | completing | completed | suspended | terminating | terminated =>
          rw [hstate] at h
          obtain hfew | ⟨m, hm, hlimit⟩ := h
          · omega
          · exact ⟨m, by omega, hlimit⟩
    rw [limit_eq, interval_eq] at hlimit
    have hbefore : m * o.statusPollInterval.nanos < o.transferTimeout.nanos := by
      exact_mod_cast hlimit
    have hfits : (m + 1) * o.statusPollInterval.nanos ≤
        o.transferTimeout.nanos + o.statusPollInterval.nanos - 1 := by
      rw [Nat.add_mul, Nat.one_mul]
      omega
    have hdiv := (Nat.le_div_iff_mul_le positive).2 hfits
    omega

/-- What is known of a transfer after so many attempts, some of which tracked its flow. -/
structure IsSpent (o : Config.Orchestration) (attempts polls : Nat) (r : Transfer) : Prop where
  calm : r.pendingCommand = none
  going : r.state ≠ .suspended
  counted : r.state ≠ .started → r.stateCount < o.retry.maxAttempts
  spent : attempts + r.budget o.retry.maxAttempts ≤ 1 + 5 * o.retry.maxAttempts + polls
  polled : r.IsPolled o polls

theorem isSpent_create (positive : 1 ≤ o.retry.maxAttempts) (id : String) (role : Role)
    (request : DataRequest) (now : Instant) :
    (Transfer.create id role request now).IsSpent o 0 0 where
  calm := rfl
  going := nofun
  counted _ := positive
  spent := by simp [budget, create]
  polled := rfl

namespace IsSpent
variable {k : Nat}

theorem isUnderWay (h : r.IsSpent o n k) (live : r.state.isTerminal = false) :
    r.IsUnderWay o.retry.maxAttempts := ⟨h.calm, live, h.going, h.counted⟩

/-- Nothing urgent is ever to be done. -/
theorem not_isUrgent (h : r.IsSpent o n k) : r.isUrgent = false := by
  have hcompletion : r.state = .started → r.completion = none := fun hstate =>
    ((isPolled_started_iff hstate).1 h.polled).2.1
  rw [isUrgent, h.calm, Bool.or_eq_false_iff]
  refine ⟨rfl, ?_⟩
  cases hstate : r.state == .started with
  | false => rfl
  | true => rw [hcompletion (beq_iff_eq.1 hstate)]; rfl

/-- When such a transfer may be claimed. -/
theorem isClaimable_iff (h : r.IsSpent o n k) (t : Instant) :
    r.isClaimable t = true ↔ r.state.isTerminal = false ∧
      (∀ lease, r.lease = some lease → lease.isActive t = false) ∧
      ∀ u, r.retryAt = some u → u ≤ t := by
  have hgoing : (r.state == .suspended) = false := beq_eq_false_iff_ne.2 h.going
  simp only [isClaimable, h.not_isUrgent, hgoing, Bool.false_and, Bool.false_or, Bool.not_false,
    Bool.and_true, Bool.and_eq_true, Bool.not_eq_true', Option.all_eq_true, Option.any_eq_false,
    decide_eq_true_eq, and_assoc]

end IsSpent
end Transfer

namespace Attempt

variable {c : Setup} {r : Transfer} {b : Instant} {xs : List Exchange} {p : Transfer} {n : Nat}

/-- **Every attempt uses one up.**  After an attempt there is one less left, unless it tracked a
flow. -/
theorem Result.budget_lt (h : Result c r b xs p)
    (under : r.IsUnderWay c.orchestration.retry.maxAttempts) :
    p.budget c.orchestration.retry.maxAttempts + 1 ≤
      r.budget c.orchestration.retry.maxAttempts + if r.state = .started then 1 else 0 := by
  obtain ⟨calm, live, going, counted⟩ := under
  unfold Transfer.budget
  cases h.moves calm live going with
  | onward state_eq stateCount_eq =>
      cases hstate : r.state with
      | suspended | completed | terminated =>
          rw [hstate] at state_eq
          cases state_eq
      | initial | started =>
          rw [hstate] at state_eq
          rw [← Option.some.inj state_eq, stateCount_eq]
          simp only [reduceCtorEq, if_true, if_false]
          omega
      | requesting | requested | starting | completing | terminating =>
          have hcount := counted (by rw [hstate]; simp)
          rw [hstate] at state_eq
          rw [← Option.some.inj state_eq]
          simp only [reduceCtorEq, if_false, stateCount_eq]
          omega
  | terminated state_eq ending stateCount_eq =>
      rw [state_eq, stateCount_eq]
      cases hstate : r.state with
      | suspended => exact absurd hstate going
      | terminating => exact absurd (Or.inl hstate) ending
      | completed | terminated =>
          rw [hstate] at live
          cases live
      | initial | started =>
          simp only [reduceCtorEq, if_true, if_false]
          omega
      | requesting | requested | starting | completing =>
          have hcount := counted (by rw [hstate]; simp)
          simp only [reduceCtorEq, if_false]
          omega
  | again unexhausted _ untracked retried =>
      have hmore : r.stateCount + 1 < c.orchestration.retry.maxAttempts :=
        Nat.lt_of_not_le (of_decide_eq_false unexhausted)
      have hretryable := retried.retryable
      rw [retried.state_eq, retried.stateCount_eq]
      cases hstate : r.state with
      | started => exact absurd hstate untracked
      | initial | suspended | completed | terminated =>
          rw [hstate] at hretryable
          cases hretryable
      | requesting | requested | starting | completing | terminating =>
          simp only [reduceCtorEq, if_false]
          omega
  | awaited tracked _ retried =>
      rw [retried.state_eq, tracked.state_eq]
      simp

/-- **The attempts that track a flow are paced.**  What is known of them by the state of a record
is known of them by the state of the result, if the record was claimed when its time had come. -/
theorem Result.isPolled (h : Result c r b xs p)
    (under : r.IsUnderWay c.orchestration.retry.maxAttempts)
    (polled : r.IsPolled c.orchestration n)
    (waited : ∀ t, r.retryAt = some t → t ≤ b)
    (started : ∀ flow, r.dataFlow = some flow → flow.startedAt ≤ b) :
    p.IsPolled c.orchestration (n + if r.state = .started then 1 else 0) := by
  obtain ⟨calm, live, going, -⟩ := under
  have hpaced := polled.isPaced
  cases h.moves calm live going with
  | onward state_eq stateCount_eq =>
      unfold Transfer.IsPolled at polled
      cases hstate : r.state with
      | suspended | completed | terminated =>
          rw [hstate] at state_eq
          cases state_eq
      | initial | requesting | requested =>
          rw [hstate] at state_eq polled
          unfold Transfer.IsPolled
          rw [← Option.some.inj state_eq]
          simpa using polled
      | starting =>
          rw [hstate] at state_eq polled
          obtain rfl : n = 0 := polled
          have hp : p.state = .started := (Option.some.inj state_eq).symm
          refine (Transfer.isPolled_started_iff hp).2 ⟨by simp [stateCount_eq], ?_⟩
          cases h.news with
          | assigned _ _ dataFlow_eq completion_eq =>
              exact ⟨completion_eq, _, dataFlow_eq, Or.inl (by simp)⟩
          | unchanged _ _ unstarted => exact absurd hp (unstarted hstate)
          | reported tracked => cases hstate.symm.trans tracked.state_eq
      | started | completing | terminating =>
          rw [hstate] at state_eq hpaced
          unfold Transfer.IsPolled
          rw [← Option.some.inj state_eq]
          exact hpaced
  | terminated state_eq =>
      unfold Transfer.IsPolled
      rw [state_eq]
      exact hpaced
  | again _ _ untracked retried =>
      have hretryable := retried.retryable
      unfold Transfer.IsPolled at polled ⊢
      rw [retried.state_eq, if_neg untracked]
      cases hstate : r.state with
      | started => exact absurd hstate untracked
      | initial | suspended | completed | terminated =>
          rw [hstate] at hretryable
          cases hretryable
      | requesting | requested | starting | completing | terminating =>
          rw [hstate] at polled
          exact polled
  | @awaited flow t nextPoll tracked next_eq retried =>
      have hstate := tracked.state_eq
      obtain ⟨flow', hflow', hdue⟩ := polled.due hstate waited started
      cases tracked.dataFlow_eq.symm.trans hflow'
      obtain ⟨hcount, -⟩ := (Transfer.isPolled_started_iff hstate).1 polled
      have htime : b.nanos - flow.startedAt.nanos < c.orchestration.transferTimeout.toDistance :=
        Int.not_le.1 (of_decide_eq_false tracked.onTime)
      have hnext := Instant.later?_nanos next_eq
      rw [if_pos hstate]
      have hp : p.state = .started := retried.state_eq.trans hstate
      refine (Transfer.isPolled_started_iff hp).2 ⟨?_, ?_, flow, ?_, ?_⟩
      · rw [retried.stateCount_eq, hcount]
      · rw [retried.eq]
        exact tracked.completion_eq
      · rw [retried.eq]
        exact tracked.dataFlow_eq
      · -- This attempt began within the limit, and not before the intervals of those before it.
        refine Or.inr ⟨n, nextPoll, rfl, by omega, by rw [retried.eq], ?_⟩
        rw [Int.natCast_add, Int.add_mul, hnext]
        omega

/-- From the limit on an attempt that tracks a flow turns the transfer to termination. -/
theorem Result.of_overdue (h : Result c r b xs p) (calm : r.pendingCommand = none)
    (state_eq : r.state = .started) (completion_eq : r.completion = none) {flow : Assignment}
    (dataFlow_eq : r.dataFlow = some flow)
    (late : flow.startedAt.nanos + c.orchestration.transferTimeout.toDistance ≤ b.nanos) :
    p.state = .terminating := by
  -- A flow that takes too long is not asked about any more.
  have hlate : ∀ flow', ¬ IsTracked c r b flow' := by
    intro flow' tracked
    cases dataFlow_eq.symm.trans tracked.dataFlow_eq
    have hearly : ¬ c.orchestration.transferTimeout.toDistance ≤
        b.nanos - flow.startedAt.nanos := of_decide_eq_false tracked.onTime
    omega
  cases h.moves calm (by rw [state_eq]; rfl) (by rw [state_eq]; simp) with
  | terminated hp => exact hp
  | again _ _ untracked => exact absurd state_eq untracked
  | awaited tracked => exact absurd tracked (hlate _)
  | onward hp =>
      rw [state_eq] at hp
      cases h.news with
      | unchanged _ _ _ unfinished =>
          cases completion_eq.symm.trans (unfinished state_eq (Option.some.inj hp).symm)
      | assigned hr => cases state_eq.symm.trans hr
      | reported tracked => exact absurd tracked (hlate _)

/-- Without a command a transfer is never suspended. -/
theorem Result.not_suspended (h : Result c r b xs p) (calm : r.pendingCommand = none)
    (live : r.state.isTerminal = false) (going : r.state ≠ .suspended) :
    p.state ≠ .suspended := by
  cases h.moves calm live going with
  | onward hp =>
      intro hsuspended
      rw [hsuspended] at hp
      cases hstate : r.state <;> rw [hstate] at hp <;> cases hp
  | terminated hp => rw [hp]; simp
  | again _ _ _ retried => exact retried.state_eq ▸ going
  | awaited _ _ retried => exact retried.state_eq ▸ going

/-- **One more attempt.** -/
theorem Result.isSpent (h : Result c r b xs p)
    (positive : 1 ≤ c.orchestration.retry.maxAttempts) {k : Nat}
    (spent : r.IsSpent c.orchestration n k) (live : r.state.isTerminal = false)
    (waited : ∀ t, r.retryAt = some t → t ≤ b)
    (started : ∀ flow, r.dataFlow = some flow → flow.startedAt ≤ b) :
    p.IsSpent c.orchestration (n + 1) (k + if r.state = .started then 1 else 0) where
  calm := h.pendingCommand_eq
  going := h.not_suspended spent.calm live spent.going
  counted := h.stateCount_lt positive spent.counted
  spent := by
    have hlt := h.budget_lt (spent.isUnderWay live)
    have hspent := spent.spent
    omega
  polled := h.isPolled (spent.isUnderWay live) spent.polled waited started

end Attempt
end Connector
