import Connector.Proofs.Worker.Retrying
import Connector.Proofs.World.Writings

/-!
# How often a failing attempt is made

The count of entries into a state is the number of attempts that failed in it.  An attempt is the
last one if it makes that number full; until then the transfer stays in its state and is left alone
for a while.  Suspension, conflicts and lost workers only keep an attempt from being written back,
or let the count begin anew with the state.  Statements:

* `isWithinBudget_invariant` — no count of entries grows beyond the limit, but where a flow is
  tracked;
* `afterSetback_of_attempted` — what is written after a failure that may pass;
* `stay_length` — attempts that fail one after the other in one state are as many as the limit says
  when the transfer gives up;
* `retry_budget` — these for every run in which all workers have one configuration.
-/

namespace Connector

namespace Transfer

/-- After a failure that may pass: the state is entered once more, and left alone for the delay of
the retry policy. -/
structure IsTriedAgain (retry : RetryPolicy) (r p : Transfer) : Prop where
  state_eq : p.state = r.state
  stateCount_eq : p.stateCount = r.stateCount + 1
  retryAt_eq : ∃ t, p.retryAt = some t ∧
    t.nanos = p.stateTimestamp.nanos + (retry.delay r.stateCount).toDistance

/-- After too many failures: the transfer turns to termination for the reason that goes with its
state; a termination that cannot be announced is over. -/
def GivesUp (r p : Transfer) : Prop :=
  (∃ detail, Attempt.exhaustedDetail? r.state = some detail ∧ p.state = .terminating ∧
    p.errorDetail = some detail) ∨
  (r.state = .terminating ∧ p.state = .terminated)

theorem GivesUp.state_ne {r p : Transfer} (h : r.GivesUp p) : p.state ≠ r.state := by
  rcases h with ⟨detail, hdetail, hp, -⟩ | ⟨hr, hp⟩
  · rintro heq
    rw [← heq, hp] at hdetail
    cases hdetail
  · rw [hr, hp]
    simp

end Transfer

/-- A failure that may pass leads to another try exactly if the attempt was not the last one. -/
theorem Attempt.AfterSetback.cases {c : Setup} {r p : Transfer} {t : Instant}
    (h : AfterSetback c r t p) :
    p.stateTimestamp = t ∧
      (r.stateCount + 1 < c.orchestration.retry.maxAttempts →
        r.IsTriedAgain c.orchestration.retry p) ∧
      (c.orchestration.retry.maxAttempts ≤ r.stateCount + 1 → r.GivesUp p) := by
  cases h with
  | again unexhausted next_eq retried =>
      have hmore := of_decide_eq_false unexhausted
      obtain ⟨-, rfl⟩ := retried
      refine ⟨rfl, fun _ => ⟨rfl, if_pos rfl, _, rfl, Instant.later?_nanos next_eq⟩,
        fun hlast => absurd hlast hmore⟩
  | givenUp exhausted detail_eq moved =>
      have hlast := of_decide_eq_true exhausted
      obtain ⟨-, rfl⟩ := Transfer.fail_eq_ok_iff.1 moved
      exact ⟨rfl, fun hmore => absurd hlast (Nat.not_le.2 hmore),
        fun _ => Or.inl ⟨_, detail_eq, rfl, rfl⟩⟩
  | ended exhausted state_eq moved =>
      have hlast := of_decide_eq_true exhausted
      obtain ⟨_, hnext, rfl⟩ := Transfer.step_eq_ok_iff.1 moved
      rw [state_eq] at hnext
      cases hnext
      exact ⟨rfl, fun hmore => absurd hlast (Nat.not_le.2 hmore),
        fun _ => Or.inr ⟨state_eq, rfl⟩⟩

namespace Ledger

variable {o : Config.Orchestration} {l l' : Ledger} {a : Action}

/-- All workers have one configuration. -/
def IsUnder (o : Config.Orchestration) (l : Ledger) : Prop :=
  ∀ j ∈ l.jobs, j.setup.orchestration = o

/-- No job is ever taken off the list, so that those before a turn have the configuration too. -/
theorem IsUnder.of_turn (h : l.Turn a l') (under : l'.IsUnder o) : l.IsUnder o := by
  intro j hj
  cases h with
  | still | passed | created | signalled => exact under j hj
  | claimed => exact under j (List.mem_append_left _ hj)
  | @worked _ i k k' t found present step =>
      obtain ⟨n, hn⟩ := List.getElem?_of_mem hj
      obtain ⟨hlt, -⟩ := List.getElem?_eq_some_iff.1 found
      by_cases hin : i = n
      · subst hin
        cases found.symm.trans hn
        rw [← step.continues.setup_eq]
        exact under k' (List.mem_set hlt _)
      · exact under j (List.mem_of_getElem? ((List.getElem?_set_ne hin).trans hn))

theorem Attempted.orchestration_eq {setup : Setup} {r p : Transfer} {xs : List Exchange}
    (h : l.Attempted setup r xs p) (under : l.IsUnder o) : setup.orchestration = o := by
  obtain ⟨j, hj, rfl, -⟩ := h
  exact under j hj

/-- The state of a record was entered again less often than there may be attempts, unless a flow is
tracked. -/
def IsWithinBudget (o : Config.Orchestration) (l : Ledger) (r : Transfer) : Prop :=
  l.IsUnder o → r.state ≠ .started → r.stateCount < o.retry.maxAttempts

/-- No count of entries grows beyond the limit. -/
theorem isWithinBudget_invariant (positive : 1 ≤ o.retry.maxAttempts) :
    IsInvariant (IsWithinBudget o) where
  created l id role request now _ := fun _ _ => positive
  stays h hr := fun under => hr (under.of_turn h)
  changed {l' r r'} _ h hchange := by
    intro under
    have hr := h under
    cases hchange with
    | leased | released => exact hr
    | @signalled x q accepted =>
        rw [Transfer.bumped, Transfer.accept_frame accepted]
        exact hr
    | @attempted setup now xs p hatt result =>
        have heq := hatt.orchestration_eq under
        rw [← heq] at positive hr ⊢
        exact result.stateCount_lt positive hr

/-- What is written after a failure that may pass. -/
theorem afterSetback_of_attempted (hl : l.Sound) {setup : Setup} {r p : Transfer}
    {xs : List Exchange} {x : Exchange} (h : l.Attempted setup r xs p)
    (hlast : xs.getLast? = some x) (hx : x.isSetback = true) (under : l.IsUnder o) :
    (∀ t, x.answeredAt? = some t → p.stateTimestamp = t) ∧
      (r.stateCount + 1 < o.retry.maxAttempts → r.IsTriedAgain o.retry p) ∧
      (o.retry.maxAttempts ≤ r.stateCount + 1 → r.GivesUp p) := by
  obtain ⟨now, result⟩ := h.result hl
  obtain ⟨t, hat, hafter⟩ := result.of_setback hlast hx
  obtain ⟨hstamp, hcases⟩ := hafter.cases
  rw [h.orchestration_eq under] at hcases
  exact ⟨fun u hu => hstamp.trans (hat u hu).symm, hcases⟩

end Ledger

/-! ## A stay in one state -/

namespace Writing

/-- The attempt ended with a failure that may pass, and no command had waited. -/
structure IsSetback (x : Writing) : Prop where
  calm : x.claimed.pendingCommand = none
  failed : ∃ e, x.exchanges.getLast? = some e ∧ e.isSetback = true

/-- The attempt is tried again as long as there may be more attempts, and not after that. -/
structure IsCounted (most : Nat) (x : Writing) : Prop where
  again : x.claimed.stateCount + 1 < most →
    x.result.state = x.claimed.state ∧ x.result.stateCount = x.claimed.stateCount + 1
  final : most ≤ x.claimed.stateCount + 1 → x.result.state ≠ x.claimed.state

/-- Attempts on one transfer that are counted and follow each other in one state come to an end as
soon as, with the entries before them, they are as many as the limit says.  The induction is on the
attempts that are still to come; each one adds one entry. -/
theorem stay_length {most : Nat} {s : Transfer.State} {stay : List Writing}
    (linked : stay.IsChain fun x y => y.claimed.StandsAs x.result)
    (counted : ∀ x ∈ stay, x.IsCounted most) (here : ∀ x ∈ stay, x.claimed.state = s) {n : Nat}
    (hn : n < most) (first : ∀ x, stay.head? = some x → x.claimed.stateCount = n) :
    n + stay.length ≤ most ∧
      ∀ x, stay.getLast? = some x → (x.result.state ≠ s ↔ n + stay.length = most) := by
  induction stay generalizing n with
  | nil => exact ⟨Nat.le_of_lt hn, fun x hx => by cases hx⟩
  | cons x rest ih =>
      have hcount : x.claimed.stateCount = n := first x rfl
      have hstate : x.claimed.state = s := here x List.mem_cons_self
      obtain ⟨again, final⟩ := counted x List.mem_cons_self
      rw [hcount, hstate] at again final
      cases rest with
      | nil =>
          refine ⟨hn, fun y hy => ?_⟩
          cases hy
          refine ⟨fun hleft => ?_, fun hfull => final (Nat.le_of_eq hfull.symm)⟩
          by_cases hmore : n + 1 < most
          · exact absurd (again hmore).1 hleft
          · exact Nat.le_antisymm hn (Nat.not_lt.1 hmore)
      | cons y rest =>
          obtain ⟨hstands, hrest⟩ := List.isChain_cons_cons.1 linked
          have hy : y.claimed.state = s := here y (by simp)
          have hresult : x.result.state = s := hstands.state_eq.symm.trans hy
          have hmore : n + 1 < most := Nat.lt_of_not_le fun hlast => final hlast hresult
          have hnext : y.claimed.stateCount = n + 1 :=
            hstands.stateCount_eq.trans (again hmore).2
          obtain ⟨hle, hiff⟩ := ih hrest (fun z hz => counted z (List.mem_cons_of_mem _ hz))
            (fun z hz => here z (List.mem_cons_of_mem _ hz)) hmore
            (by rintro z ⟨⟩; exact hnext)
          have hlength : n + (x :: y :: rest).length = n + 1 + (y :: rest).length := by
            simp only [List.length_cons]
            omega
          rw [hlength, List.getLast?_cons_cons]
          exact ⟨hle, hiff⟩

end Writing

namespace World

/-- **The retry budget.**  Let all workers of a run have one configuration, which allows for an
attempt at least.  After every such run:

* the state of every record was entered again less often than there may be attempts, unless a flow
  is tracked;
* every attempt that was written back, and before which no command waited, and whose last exchange
  was a failure that may pass, left its transfer in the state to be tried again after the delay of
  the retry policy, counted from the instant at which the failure was seen, if it was not the last
  one that there may be; and otherwise the transfer gave up;
* of attempts that were written back one after the other in one state, from its first entry on and
  all of them failing so, there are no more than the limit says, and the last of them left the
  state exactly if they are as many. -/
theorem retry_budget (o : Config.Orchestration) (positive : 1 ≤ o.retry.maxAttempts)
    (now : Instant) (capacity : Nat) (liveness : Option Int) (actions : List Action) :
    let w := (start now capacity liveness).run actions
    let most := o.retry.maxAttempts
    (∀ j ∈ w.jobs, j.setup.orchestration = o) →
    (∀ id r, w.find? id = some r → r.state ≠ .started → r.stateCount ≤ most - 1) ∧
    (∀ setup r xs p e, w.ledger.Attempted setup r xs p → r.pendingCommand = none →
      xs.getLast? = some e → e.isSetback = true →
      (∀ t, e.answeredAt? = some t → p.stateTimestamp = t) ∧
      (r.stateCount + 1 < most → r.IsTriedAgain o.retry p) ∧
      (most ≤ r.stateCount + 1 → r.GivesUp p)) ∧
    ∀ id s stay, stay <:+: (start now capacity liveness).writings id actions →
      (∀ x ∈ stay, x.IsSetback ∧ x.claimed.state = s) →
      (∀ x, stay.head? = some x → x.claimed.stateCount = 0) →
      stay.length ≤ most ∧
        ∀ x, stay.getLast? = some x → (x.result.state ≠ s ↔ stay.length = most) := by
  intro w most under
  have hw : w.Sound := sound_run (sound_start now capacity liveness) actions
  have hbudget : w.ledger.Everywhere (Ledger.IsWithinBudget o) :=
    Ledger.everywhere_run (Ledger.isWithinBudget_invariant positive) now capacity liveness actions
  refine ⟨?_, ?_, ?_⟩
  · intro id r hr hstate
    have hlt := hbudget.records id r hr under hstate
    omega
  · intro setup r xs p e hatt _ hlast he
    exact Ledger.afterSetback_of_attempted hw.ledger hatt hlast he under
  · intro id s stay hpart hall first
    have hrecounts : w.Recounts id _ := recounts_run now capacity liveness id actions
    have counted : ∀ x ∈ stay, x.IsCounted most := by
      intro x hx
      obtain ⟨e, hlast, he⟩ := (hall x hx).1.failed
      have hatt := hrecounts.attempted x (hpart.subset hx)
      obtain ⟨-, again, final⟩ := Ledger.afterSetback_of_attempted hw.ledger hatt hlast he under
      exact ⟨fun hmore => ⟨(again hmore).state_eq, (again hmore).stateCount_eq⟩,
        fun hfull => (final hfull).state_ne⟩
    have hlinked := hrecounts.linked.infix hpart
    have hstay := Writing.stay_length hlinked counted (fun x hx => (hall x hx).2) positive first
    rwa [Nat.zero_add] at hstay

/-- With two attempts allowed for, the opening message fails twice, and the transfer gives up. -/
theorem retry_budget_of_two_attempts :
    let o : Config.Orchestration := { Config.Orchestration.standard with
      retry := ⟨2, .seconds 1, .seconds 300⟩ }
    let request : DataRequest :=
      ⟨"r", "a", "s", "c", "http://c", "p", ⟨"blob", []⟩, ⟨"http", []⟩, []⟩
    let setup : Setup := ⟨.ofHost "h", o⟩
    let oracle : (q : Inquiry) → q.Answer
      | .judge _ _ => Decision.deny []
      | .select _ => Except.error .clock
      | .find _ => Except.ok none
    let actions : List Action := [.create "t" .consumer request,
      .claim setup "w", .advance 0 oracle, .advance 0 oracle,
      .claim setup "w", .advance 1 oracle, .advance 1 oracle, .answer 1 fun _ => none,
      .advance 1 oracle, .advance 1 oracle, .pass ⟨1000000000⟩,
      .claim setup "w", .advance 2 oracle, .advance 2 oracle, .answer 2 fun _ => none,
      .advance 2 oracle, .advance 2 oracle, .advance 2 oracle]
    let w := (start ⟨0⟩ 16 none).run actions
    1 ≤ o.retry.maxAttempts ∧ (∀ j ∈ w.jobs, j.setup.orchestration = o) ∧
      ∃ x y, [x, y] <:+: (start ⟨0⟩ 16 none).writings "t" actions ∧
        (∀ z ∈ [x, y], z.IsSetback ∧ z.claimed.state = .requesting) ∧
        x.claimed.stateCount = 0 ∧ x.claimed.IsTriedAgain o.retry x.result ∧
        y.claimed.GivesUp y.result := by
  intro o request setup oracle actions w
  have under : ∀ j ∈ w.jobs, j.setup.orchestration = o := by
    have hall : w.jobs.all (fun j => decide (j.setup.orchestration = o)) = true := by
      decide +kernel
    exact fun j hj => of_decide_eq_true (List.all_eq_true.1 hall j hj)
  have hseen : ((start ⟨0⟩ 16 none).writings "t" actions).map (fun x =>
        (x.claimed.state, x.claimed.stateCount, x.claimed.pendingCommand,
          x.exchanges.getLast?.any Exchange.isSetback)) =
      [(.initial, 0, none, false), (.requesting, 0, none, true),
        (.requesting, 1, none, true)] := by decide +kernel
  obtain ⟨x₀, rest, heq, -, hrest⟩ := List.map_eq_cons_iff.1 hseen
  obtain ⟨x, rest, rfl, hx, hrest⟩ := List.map_eq_cons_iff.1 hrest
  obtain ⟨y, rest, rfl, hy, hrest⟩ := List.map_eq_cons_iff.1 hrest
  obtain rfl := List.map_eq_nil_iff.1 hrest
  have hpart : [x, y] <:+: (start ⟨0⟩ 16 none).writings "t" actions :=
    ⟨[x₀], [], by rw [heq]; rfl⟩
  simp only [Prod.mk.injEq, Option.any_eq_true] at hx hy
  obtain ⟨hx_state, hx_count, hx_calm, e, hx_last, he⟩ := hx
  obtain ⟨hy_state, hy_count, hy_calm, e', hy_last, he'⟩ := hy
  have positive : 1 ≤ o.retry.maxAttempts := by decide
  have hatt := (recounts_run ⟨0⟩ 16 none "t" actions).attempted
  obtain ⟨-, hone, -⟩ := retry_budget o positive ⟨0⟩ 16 none actions under
  refine ⟨positive, under, x, y, hpart, ?_, hx_count, ?_, ?_⟩
  · intro z hz
    simp only [List.mem_cons, List.not_mem_nil, or_false] at hz
    rcases hz with rfl | rfl
    · exact ⟨⟨hx_calm, e, hx_last, he⟩, hx_state⟩
    · exact ⟨⟨hy_calm, e', hy_last, he'⟩, hy_state⟩
  · obtain ⟨-, again, -⟩ :=
      hone _ _ _ _ e (hatt x (hpart.subset (by simp))) hx_calm hx_last he
    exact again (by rw [hx_count]; decide)
  · obtain ⟨-, -, final⟩ :=
      hone _ _ _ _ e' (hatt y (hpart.subset (by simp))) hy_calm hy_last he'
    exact final (by rw [hy_count])

/-- A delay that is longer than any distance between instants is cut to a hundred years: the next
attempt comes earlier than after the delay. -/
theorem retry_delay_cut :
    let delay : Span := .seconds (300000000 * 31557600)
    let o : Config.Orchestration := { Config.Orchestration.standard with
      retry := ⟨5, delay, delay⟩ }
    let request : DataRequest :=
      ⟨"r", "a", "s", "c", "http://c", "p", ⟨"blob", []⟩, ⟨"http", []⟩, []⟩
    let setup : Setup := ⟨.ofHost "h", o⟩
    let oracle : (q : Inquiry) → q.Answer
      | .judge _ _ => Decision.deny []
      | .select _ => Except.error .clock
      | .find _ => Except.ok none
    let actions : List Action := [.create "t" .consumer request,
      .claim setup "w", .advance 0 oracle, .advance 0 oracle,
      .claim setup "w", .advance 1 oracle, .advance 1 oracle, .answer 1 fun _ => none,
      .advance 1 oracle, .advance 1 oracle]
    let last := ((start ⟨0⟩ 16 none).writings "t" actions).getLast?
    last.map (fun x => (x.claimed.state, x.claimed.stateCount, x.claimed.pendingCommand)) =
        some (.requesting, 0, none) ∧
      last.any (fun x => x.exchanges.getLast?.any Exchange.isSetback) = true ∧
      last.map (fun x => (x.result.state, x.result.stateCount, x.result.stateTimestamp,
        x.result.retryAt)) =
        some (.requesting, 1, ⟨0⟩, some ⟨36500 * 86400 * 1000000000⟩) ∧
      36500 * 86400 * 1000000000 < (o.retry.delay 0).nanos := by
  decide +kernel

end World
end Connector
