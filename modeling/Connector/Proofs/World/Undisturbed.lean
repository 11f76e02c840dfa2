import Connector.Proofs.Worker.Budget
import Connector.Proofs.World.Dated
import Connector.Proofs.World.RetryBudget

/-!
# Transfers that are not disturbed

A transfer is not disturbed by a run that sends it no signal and in which time does not turn back.
What is written back on such a transfer can be counted: every attempt uses up one of those that it
has from the beginning, unless it tracks a flow, and of these there are only so many as fit into
the limit.  Workers may still be lost, and their attempts be refused; what is not written back does
not count.  Statements:

* `isAccounted_act`, `isAccounted_run` — the account of the attempts on a transfer is kept by every
  action that does not disturb it;
* `undisturbed_ends` — a transfer that is not disturbed ends, after so many attempts at most.
-/

namespace Connector

theorem Transfer.State.isTerminal_iff {s : State} :
    s.isTerminal = true ↔ s = .completed ∨ s = .terminated := by
  cases s <;> simp [isTerminal]

/-- A record that stands as another one, without a signal, is as far as that one is. -/
theorem Transfer.IsSpent.of_standsAs {o : Config.Orchestration} {n k : Nat} {r r' : Transfer}
    (h : r.IsSpent o n k) (stands : r'.StandsAs r)
    (pendingCommand_eq : r'.pendingCommand = r.pendingCommand)
    (completion_eq : r'.completion = r.completion) : r'.IsSpent o n k := by
  unfold StandsAs at stands
  rw [pendingCommand_eq, completion_eq] at stands
  rw [stands]
  exact ⟨h.calm, h.going, h.counted, h.spent, h.polled⟩

namespace Writing

/-- The attempt can have begun at an instant. -/
def BeganAt (x : Writing) (b : Instant) : Prop :=
  (Attempt.on x.setup x.claimed b).Yields x.exchanges x.result

/-- Whether the attempt tracked a flow. -/
def isPoll (x : Writing) : Bool := x.claimed.state == .started

/-- The attempt began after the claim; and if it tracked a flow, and began when the limit was over,
it turned the transfer to termination. -/
structure KeepsLimit (o : Config.Orchestration) (x : Writing) : Prop where
  began : ∃ b, x.claimedAt ≤ b ∧ x.BeganAt b
  limited : x.isPoll = true → ∃ flow, x.claimed.dataFlow = some flow ∧
    ∀ b, x.BeganAt b →
      flow.startedAt.nanos + o.transferTimeout.toDistance ≤ b.nanos →
      x.result.state = .terminating

end Writing

namespace World

/-- Whether an action does not disturb the transfer of an id: it sends it no signal, and does not
turn back the time. -/
def letsBe (w : World) (id : String) : Action → Bool
  | .deliver id' _ => id' != id
  | .pass t => decide (w.site.now ≤ t)
  | .create _ _ _ | .claim _ _ | .advance _ _ | .answer _ _ | .lose _ | .upkeep _ => true

/-- Whether a run does not disturb the transfer of an id. -/
def isUndisturbed (w : World) (id : String) : List Action → Bool
  | [] => true
  | a :: rest => w.letsBe id a && isUndisturbed (w.act a) id rest

/-- The attempts on the transfer of an id that were written back so far are accounted for. -/
structure IsAccounted (o : Config.Orchestration) (w : World) (id : String) (xs : List Writing) :
    Prop where
  unknown : w.find? id = none → xs = []
  spent : ∀ r, w.find? id = some r → r.IsSpent o xs.length (xs.countP Writing.isPoll)
  limits : ∀ x ∈ xs, x.KeepsLimit o

variable {o : Config.Orchestration} {w : World} {a : Action} {id : String} {xs : List Writing}

/-- All workers had one configuration before a run if they have it after that. -/
theorem isUnder_of_run (hw : w.Sound) (actions : List Action)
    (under : (w.run actions).ledger.IsUnder o) : w.ledger.IsUnder o := by
  induction actions generalizing w with
  | nil => exact under
  | cons a rest ih =>
      obtain ⟨hturn, -⟩ := turns_act hw.calm a
      exact (ih (sound_act hw a) under).of_turn hturn

section Writes
variable (hw : w.Sound) (dated : w.ledger.IsDated) (hjobs : w.ledger.HandsOutActionable)
  {r : Transfer} (hr : w.find? id = some r) {x : Writing} (hx : w.writing? id a = some x)
include hw dated hjobs hr hx

/-- An attempt that is written back was made on a transfer that had not ended, and began when its
time had come: after the claim, after the delay, and after the start of the flow. -/
theorem began_of_writing? (calm : r.isUrgent = false) :
    r.state.isTerminal = false ∧ ∃ b, x.claimedAt ≤ b ∧ x.BeganAt b ∧
      (∀ t, r.retryAt = some t → t ≤ b) ∧ ∀ flow, r.dataFlow = some flow → flow.startedAt ≤ b := by
  obtain ⟨rfl, -, -, j, hj, p, hphase, rfl⟩ := of_writing?_eq_some hw hr hx
  have hdated := dated.jobs j hj
  obtain ⟨b, hb, hyields⟩ := hdated.began.since hphase
  have waited : ∀ t, j.claimed.retryAt = some t → t ≤ b := fun t ht =>
    Int.le_trans (hdated.due calm t ht) hb
  have started : ∀ flow, j.claimed.dataFlow = some flow → flow.startedAt ≤ b := fun flow hflow =>
    Int.le_trans (hdated.tracked flow hflow) hb
  exact ⟨(hjobs j hj).live, b, hb, hyields, waited, started⟩

/-- **One more attempt is written back.** -/
theorem IsAccounted.written (h : w.IsAccounted o id xs) (under : (w.act a).ledger.IsUnder o)
    (positive : 1 ≤ o.retry.maxAttempts) : (w.act a).IsAccounted o id (xs ++ [x]) := by
  have hspent := h.spent r hr
  obtain ⟨live, b, hb, hbegan, waited, started⟩ :=
    began_of_writing? hw dated hjobs hr hx hspent.not_isUrgent
  obtain ⟨rfl, hr', hatt, -⟩ := of_writing?_eq_some hw hr hx
  obtain rfl := hatt.orchestration_eq under
  refine ⟨fun hnone => (by cases hr'.symm.trans hnone), ?_, ?_⟩
  · intro q hq
    cases hr'.symm.trans hq
    have hnext := (Attempt.result_of_yields hbegan).isSpent positive hspent live waited started
    have hcount : (xs ++ [x]).countP Writing.isPoll =
        xs.countP Writing.isPoll + if x.claimed.state = .started then 1 else 0 := by
      simp [List.countP_append, List.countP_singleton, Writing.isPoll]
    rw [List.length_append, hcount]
    exact hnext.of_standsAs rfl rfl rfl
  · intro y hy
    rcases List.mem_append.1 hy with hy | hy
    · exact h.limits y hy
    · cases List.mem_singleton.1 hy
      refine ⟨⟨b, hb, hbegan⟩, fun hpoll => ?_⟩
      have hstate : x.claimed.state = .started := beq_iff_eq.1 hpoll
      obtain ⟨-, hcompletion, flow, hflow, -⟩ :=
        (Transfer.isPolled_started_iff hstate).1 hspent.polled
      exact ⟨flow, hflow, fun b' hbegan' late =>
        (Attempt.result_of_yields hbegan').of_overdue hspent.calm hstate hcompletion hflow late⟩

end Writes

/-- An action that does not disturb the transfer keeps the account. -/
theorem isAccounted_act (hw : w.Sound) (dated : w.ledger.IsDated)
    (hjobs : w.ledger.HandsOutActionable) (under : (w.act a).ledger.IsUnder o)
    (positive : 1 ≤ o.retry.maxAttempts) (silent : ∀ x, a ≠ .deliver id x)
    (h : w.IsAccounted o id xs) :
    (w.act a).IsAccounted o id (xs ++ (w.writing? id a).toList) := by
  cases hr : w.find? id with
  | none =>
      rw [h.unknown hr, writing?_of_find?_eq_none hr]
      refine ⟨fun _ => rfl, ?_, by simp⟩
      intro r hr'
      obtain ⟨role, request, -, rfl⟩ := find?_act_of_eq_none hw hr hr'
      exact Transfer.isSpent_create positive _ _ _ _
  | some r =>
      rcases find?_act_writing hw hr a with ⟨x, hx, -, -⟩ | ⟨hnone, r', hr', stands, hkept⟩
      · rw [hx]
        exact h.written hw dated hjobs hr hx under positive
      · rw [hnone, Option.toList_none, List.append_nil]
        refine ⟨fun hno => (by cases hr'.symm.trans hno), ?_, h.limits⟩
        intro q hq
        cases hr'.symm.trans hq
        obtain ⟨pendingCommand_eq, completion_eq⟩ := hkept silent
        exact (h.spent r hr).of_standsAs stands pendingCommand_eq completion_eq

/-- A run that does not disturb the transfer keeps the account. -/
theorem isAccounted_run (hw : w.Sound) (dated : w.ledger.IsDated)
    (hcoherent : w.ledger.Everywhere fun _ r => r.IsCoherent)
    (hjobs : w.ledger.HandsOutActionable) (positive : 1 ≤ o.retry.maxAttempts)
    (h : w.IsAccounted o id xs) (actions : List Action)
    (under : (w.run actions).ledger.IsUnder o)
    (undisturbed : w.isUndisturbed id actions = true) :
    (w.run actions).IsAccounted o id (xs ++ w.writings id actions) := by
  induction actions generalizing w xs with
  | nil => simpa [writings] using h
  | cons a rest ih =>
      obtain ⟨hbe, hrest⟩ := (Bool.and_eq_true_iff).1 undisturbed
      obtain ⟨hturn, -⟩ := turns_act hw.calm a
      have silent : ∀ x, a ≠ .deliver id x := by
        rintro x rfl
        simp [letsBe] at hbe
      have later : w.ledger.now ≤ (w.act a).ledger.now := by
        refine hturn.now_le ?_
        rintro t rfl
        exact of_decide_eq_true hbe
      have hunder : (w.act a).ledger.IsUnder o := isUnder_of_run (sound_act hw a) rest under
      have hnext := isAccounted_act hw dated hjobs hunder positive silent h
      have hafter := ih (sound_act hw a) (Ledger.isDated_turn hw.ledger hturn later dated)
        (Ledger.everywhere_turn Ledger.isCoherent_invariant hw.ledger hturn hcoherent)
        (Ledger.handsOutActionable_turn hw.ledger hturn hcoherent hjobs) hnext under hrest
      rwa [List.append_assoc] at hafter

/-- **A transfer that is not disturbed ends.**  Let all workers of a run have one configuration,
which allows for an attempt at least, and let the run not disturb the transfer of an id.  Of the
attempts on the transfer that were written back:

* there are no more than one, and five times as many as may be made in one state, and those that
  tracked its flow; and when there are as many, the transfer is completed or terminated;
* as long as it is neither, it may be claimed as soon as its lease and its delay are over, and as
  long as the clock lasts the attempt on it ends with a record to be written back;
* every one that tracked the flow, and began when the limit of the flow was over, turned the
  transfer to termination;
* those that tracked the flow are no more than the intervals that the limit has, rounded up, and
  one. -/
theorem undisturbed_ends (o : Config.Orchestration) (positive : 1 ≤ o.retry.maxAttempts)
    (limit_eq : o.transferTimeout.toDistance = o.transferTimeout.nanos)
    (interval_eq : o.statusPollInterval.toDistance = o.statusPollInterval.nanos)
    (now : Instant) (capacity : Nat) (liveness : Option Int) (id : String)
    (actions : List Action)
    (undisturbed : (start now capacity liveness).isUndisturbed id actions = true) :
    let w := (start now capacity liveness).run actions
    let xs := (start now capacity liveness).writings id actions
    let polls := xs.countP Writing.isPoll
    let most := 1 + 5 * o.retry.maxAttempts + polls
    let limit := o.transferTimeout.nanos
    let interval := o.statusPollInterval.nanos
    (∀ j ∈ w.jobs, j.setup.orchestration = o) →
    xs.length ≤ most ∧
    (∀ r, w.find? id = some r →
      (xs.length = most → r.state = .completed ∨ r.state = .terminated) ∧
      (∀ t, r.isClaimable t = true ↔
        ¬ (r.state = .completed ∨ r.state = .terminated) ∧
          (∀ lease, r.lease = some lease → lease.isActive t = false) ∧
          ∀ u, r.retryAt = some u → u ≤ t) ∧
      ∀ c : Claim, r.isClaimable c.now = true → ∀ setup t,
        Attempt.IsTimely setup (r.leased c) t →
        Attempt.Ends (Attempt.IsTimely setup (r.leased c)) (fun x => ∃ p, x = .ok p)
          (.on setup (r.leased c) t)) ∧
    (∀ x ∈ xs, (∃ b, x.claimedAt ≤ b ∧ x.BeganAt b) ∧
      (x.claimed.state = .started → ∃ flow, x.claimed.dataFlow = some flow ∧
        ∀ b, x.BeganAt b → flow.startedAt.nanos + limit ≤ b.nanos →
          x.result.state = .terminating)) ∧
    (0 < interval → polls ≤ (limit + interval - 1) / interval + 1) := by
  intro w xs polls most limit interval under
  have hstart := sound_start now capacity liveness
  have hcoherent := isCoherent_run now capacity liveness actions
  have haccounted : w.IsAccounted o id ([] ++ xs) :=
    isAccounted_run hstart ⟨by simp [start, ledger], fun _ _ h => (by cases h)⟩
      (isCoherent_run now capacity liveness []) (actionable_run now capacity liveness [])
      positive ⟨fun _ => rfl, fun _ h => (by cases h), by simp⟩ actions under undisturbed
  rw [List.nil_append] at haccounted
  refine ⟨?_, ?_, ?_, ?_⟩
  · cases hr : w.find? id with
    | none =>
        rw [haccounted.unknown hr]
        exact Nat.zero_le _
    | some r => exact Nat.le_trans (Nat.le_add_right _ _) (haccounted.spent r hr).spent
  · intro r hr
    have hspent := haccounted.spent r hr
    refine ⟨?_, ?_, ?_⟩
    · intro hfull
      rw [← Transfer.State.isTerminal_iff]
      cases live : r.state.isTerminal with
      | true => rfl
      | false =>
          have hleft := (hspent.isUnderWay live).budget_pos positive
          have hsum := hspent.spent
          omega
    · intro t
      rw [hspent.isClaimable_iff, ← Transfer.State.isTerminal_iff, Bool.not_eq_true]
    · intro c claimable setup t timely
      have hactionable := Transfer.isActionable_of_isClaimable (hcoherent.records id r hr) claimable
      refine (Attempt.ends_on_passing (hactionable.leased c) timely).imp ?_
      rintro _ _ _ ⟨p, hp, -⟩
      exact ⟨p, hp⟩
  · intro x hx
    obtain ⟨began, limited⟩ := haccounted.limits x hx
    refine ⟨began, fun hstate => ?_⟩
    rw [limit_eq] at limited
    exact limited (beq_iff_eq.2 hstate)
  · intro hinterval
    cases hr : w.find? id with
    | none =>
        have hnil : xs = [] := haccounted.unknown hr
        simp [polls, hnil]
    | some r => exact (haccounted.spent r hr).polled.le limit_eq interval_eq hinterval

/-- With one attempt allowed for in each state, a flow of which there is no news is asked about
twice within its limit of two seconds; the third attempt finds it overdue, and the transfer
ends. -/
theorem undisturbed_ends_of_silent_flow :
    let o : Config.Orchestration := { Config.Orchestration.standard with
      retry := ⟨1, .seconds 1, .seconds 300⟩
      statusPollInterval := .seconds 1
      transferTimeout := .seconds 2 }
    let request : DataRequest :=
      ⟨"r", "a", "s", "c", "http://c", "p", ⟨"blob", []⟩, ⟨"http", []⟩, []⟩
    let setup : Setup := ⟨.ofHost "h", o⟩
    let oracle : (q : Inquiry) → q.Answer
      | .judge _ _ => Decision.allow
      | .select _ => Except.ok ⟨"d", "http://d", [], [], ⟨0⟩, ⟨0⟩, none⟩
      | .find _ => Except.ok none
    let reply : (c : Call) → Option c.Answer
      | .policy _ => some (Except.ok (some ⟨.object [], []⟩))
      | .send _ => some (Except.ok ())
      | .start _ _ => some (Except.ok "f")
      | .poll _ _ => none
    let go (i : Nat) : Action := .advance i oracle
    let actions : List Action := [.create "t" .consumer request,
      .claim setup "w", go 0, go 0,
      .claim setup "w", go 1, go 1, .answer 1 reply, go 1,
      .claim setup "w", go 2, go 2, .answer 2 reply, go 2, go 2,
      .claim setup "w", go 3, go 3, go 3, .answer 3 reply, go 3, go 3,
      .claim setup "w", go 4, go 4, go 4, .pass ⟨1000000000⟩,
      .claim setup "w", go 5, go 5, go 5, .pass ⟨2000000000⟩,
      .claim setup "w", go 6, go 6, go 6,
      .claim setup "w", go 7, go 7, .answer 7 reply, go 7]
    let w := (start ⟨0⟩ 16 none).run actions
    let xs := (start ⟨0⟩ 16 none).writings "t" actions
    1 ≤ o.retry.maxAttempts ∧ o.transferTimeout.toDistance = o.transferTimeout.nanos ∧
      o.statusPollInterval.toDistance = o.statusPollInterval.nanos ∧
      (start ⟨0⟩ 16 none).isUndisturbed "t" actions = true ∧
      (∀ j ∈ w.jobs, j.setup.orchestration = o) ∧
      xs.map (fun x => x.claimed.state) = [.initial, .requesting, .requested, .starting,
        .started, .started, .started, .terminating] ∧
      xs.length ≤ 1 + 5 * 1 + xs.countP Writing.isPoll ∧ xs.countP Writing.isPoll ≤ 3 ∧
      ∃ r, w.find? "t" = some r ∧ r.state = .terminated ∧ ∀ t, r.isClaimable t = false := by
  intro o request setup oracle reply go actions w xs
  have positive : 1 ≤ o.retry.maxAttempts := by decide
  have limit_eq : o.transferTimeout.toDistance = o.transferTimeout.nanos := by decide
  have interval_eq : o.statusPollInterval.toDistance = o.statusPollInterval.nanos := by decide
  have undisturbed : (start ⟨0⟩ 16 none).isUndisturbed "t" actions = true := by decide +kernel
  have under : ∀ j ∈ w.jobs, j.setup.orchestration = o := by
    have hall : w.jobs.all (fun j => decide (j.setup.orchestration = o)) = true := by
      decide +kernel
    exact fun j hj => of_decide_eq_true (List.all_eq_true.1 hall j hj)
  have hstates : xs.map (fun x => x.claimed.state) = [.initial, .requesting, .requested,
      .starting, .started, .started, .started, .terminating] := by decide +kernel
  have hstate : (w.find? "t").map (·.state) = some .terminated := by decide +kernel
  obtain ⟨r, hr, hterminated⟩ := Option.map_eq_some_iff.1 hstate
  obtain ⟨hfew, hends, -, hpolls⟩ := undisturbed_ends o positive limit_eq interval_eq ⟨0⟩ 16 none
    "t" actions undisturbed under
  have hmost : (o.transferTimeout.nanos + o.statusPollInterval.nanos - 1) /
      o.statusPollInterval.nanos + 1 = 3 := by decide
  refine ⟨positive, limit_eq, interval_eq, undisturbed, under, hstates, hfew,
    hmost ▸ hpolls (by decide), r, hr, hterminated, fun t => ?_⟩
  obtain ⟨-, hclaimable, -⟩ := hends r hr
  exact Bool.eq_false_iff.2 fun h => ((hclaimable t).1 h).1 (Or.inr hterminated)

end World
end Connector
