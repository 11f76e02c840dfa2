import Connector.Proofs.Transfer.Passage
import Connector.Proofs.Worker.Report
import Connector.Proofs.World.Access
import Connector.Proofs.World.Coherence
import Mathlib.Data.List.Induction

/-!
# Completion is earned

A transfer comes to completion by way of a flow that was assigned to it once, a report that the
flow succeeded, and a message of completion that was accepted.  Reports come by signal and on
asking, at any time between the start of the flow and the end of the transfer, be it suspended or
not; the first one counts.  Statements:

* `isInOrder_invariant` — what is known of the flow suits where the transfer stands;
* `wasFinalized_invariant` — a completed transfer had its message of completion accepted;
* `dataFlow_run` — a flow that is assigned stays assigned;
* `isReported_run` — every report came from somewhere;
* `completion_earned` — all of this, of every record in every run.
-/

namespace Connector

open Transfer (State)

/-- A state is known by its place in the order. -/
theorem Transfer.State.eq_of_index {s t : State} (h : s.index = t.index) : s = t := by
  have hall : ∀ u : State, State.all[u.index]? = some u := by
    intro u
    cases u <;> rfl
  exact Option.some.inj ((hall s).symm.trans (h ▸ hall t))

/-- What is known of the flow of a record suits where the transfer stands. -/
structure Transfer.IsEarned (r : Transfer) : Prop where
  unassigned : r.position.index < State.started.index → r.dataFlow = none
  assigned : State.started.index ≤ r.position.index →
    r.position.index ≤ State.completed.index → r.dataFlow.isSome = true
  succeeded : State.completing.index ≤ r.position.index →
    r.position.index ≤ State.completed.index → r.completion = some .succeeded
  known : r.completion.isSome = true → r.dataFlow.isSome = true

namespace Transfer.IsEarned

variable {r q : Transfer}

/-- Of the flow of a new transfer nothing is known. -/
theorem create (id : String) (role : Role) (request : DataRequest) (now : Instant) :
    (Transfer.create id role request now).IsEarned := by
  have hposition : (Transfer.create id role request now).position = .initial := rfl
  refine ⟨fun _ => rfl, ?_, ?_, nofun⟩
  · rw [hposition]
    exact fun hle => absurd hle (by decide)
  · rw [hposition]
    exact fun hle => absurd hle (by decide)

/-- Nothing else matters for it than where the transfer stands and what is known of its flow. -/
theorem congr (h : r.IsEarned) (position_eq : q.position = r.position)
    (dataFlow_eq : q.dataFlow = r.dataFlow) (completion_eq : q.completion = r.completion) :
    q.IsEarned := by
  refine ⟨?_, ?_, ?_, ?_⟩
  · rw [position_eq, dataFlow_eq]
    exact h.unassigned
  · rw [position_eq, dataFlow_eq]
    exact h.assigned
  · rw [position_eq, completion_eq]
    exact h.succeeded
  · rw [completion_eq, dataFlow_eq]
    exact h.known

/-- A first report on a flow that is assigned is in order wherever the transfer stands. -/
theorem reported (h : r.IsEarned) (position_eq : q.position = r.position)
    (dataFlow_eq : q.dataFlow = r.dataFlow) (assigned : r.dataFlow.isSome = true)
    (first : r.completion = none) : q.IsEarned := by
  refine ⟨?_, ?_, ?_, ?_⟩
  · rw [position_eq, dataFlow_eq]
    exact h.unassigned
  · rw [position_eq, dataFlow_eq]
    exact h.assigned
  · rw [position_eq]
    intro hle hle'
    cases first.symm.trans (h.succeeded hle hle')
  · rw [dataFlow_eq]
    exact fun _ => assigned

theorem accept {x : Signal} (h : r.IsEarned) (accepted : r.accept x = .ok (some q)) :
    q.IsEarned := by
  have hframe := accept_frame accepted
  have hposition : q.position = r.position := by
    rw [hframe]
    rfl
  have hflow : q.dataFlow = r.dataFlow := by rw [hframe]
  rcases completion_of_accept accepted with hsame | ⟨flow, outcome, hsome, hnone, -, -⟩
  · exact h.congr hposition hflow hsame
  · exact h.reported hposition hflow (by rw [hsome]; rfl) hnone

/-- A transfer whose flow is to be tracked has a flow. -/
theorem of_started (h : r.IsEarned) (hposition : r.position = .started) :
    r.dataFlow.isSome = true := by
  have hassigned := h.assigned
  rw [hposition] at hassigned
  exact hassigned (by decide) (by decide)

/-- A transfer that is completed, or about to be, has a flow that succeeded. -/
theorem of_completing (h : r.IsEarned)
    (hposition : r.position = .completing ∨ r.position = .completed) :
    r.dataFlow.isSome = true ∧ r.completion = some .succeeded := by
  have hassigned := h.assigned
  have hsucceeded := h.succeeded
  rcases hposition with heq | heq
  · rw [heq] at hassigned hsucceeded
    exact ⟨hassigned (by decide) (by decide), hsucceeded (by decide) (by decide)⟩
  · rw [heq] at hassigned hsucceeded
    exact ⟨hassigned (by decide) (by decide), hsucceeded (by decide) (by decide)⟩

/-- A transfer that turned to termination keeps what was known of its flow. -/
theorem ending (h : q.position = .terminating)
    (known : q.completion.isSome = true → q.dataFlow.isSome = true) : q.IsEarned := by
  have hindex : q.position.index = 8 := by rw [h]; rfl
  have hstarted : State.started.index = 4 := rfl
  have hcompleted : State.completed.index = 6 := rfl
  exact ⟨fun _ => by omega, fun _ _ => by omega, fun _ _ => by omega, known⟩

/-- A step to the next state without news of the flow. -/
theorem forward (h : r.IsEarned) (hr : r.position = r.state) (hq : q.position = q.state)
    (hnext : q.state.index = r.state.index + 1) (dataFlow_eq : q.dataFlow = r.dataFlow)
    (completion_eq : q.completion = r.completion)
    (unstarted : r.state = .starting → q.state ≠ .started)
    (unfinished : r.state = .started → q.state = .completing → r.completion = some .succeeded) :
    q.IsEarned := by
  obtain ⟨unassigned, assigned, succeeded, known⟩ := h
  rw [hr] at unassigned assigned succeeded
  have hstarting : State.starting.index = 3 := rfl
  have hstarted : State.started.index = 4 := rfl
  have hcompleting : State.completing.index = 5 := rfl
  have hcompleted : State.completed.index = 6 := rfl
  refine ⟨?_, ?_, ?_, by rwa [completion_eq, dataFlow_eq]⟩
  · rw [hq, dataFlow_eq]
    exact fun _ => unassigned (by omega)
  · rw [hq, dataFlow_eq]
    intro hle hle'
    by_cases hwas : State.started.index ≤ r.state.index
    · exact assigned hwas (by omega)
    · have hr_state : r.state = .starting := State.eq_of_index (by omega)
      exact absurd (State.eq_of_index (by omega)) (unstarted hr_state)
  · rw [hq, completion_eq]
    intro hle hle'
    by_cases hwas : State.completing.index ≤ r.state.index
    · exact succeeded hwas (by omega)
    · exact unfinished (State.eq_of_index (by omega)) (State.eq_of_index (by omega))

/-- No passage takes a transfer out of order, whatever was learnt of its flow. -/
theorem passes {c : Setup} {now t : Instant} {xs : List Exchange} {p : Transfer} {s : Step}
    (h : r.IsEarned) (hr : r.IsCoherent) (hpasses : r.Passes s t p)
    (hnews : Attempt.News c r now xs p) : p.IsEarned := by
  have hcases := hpasses.position_cases hr
  cases hnews with
  | unchanged dataFlow_eq completion_eq unstarted unfinished =>
      rcases hcases with hsame | ⟨hterm, -⟩ | ⟨hr_eq, hp_eq, hnext⟩
      · exact h.congr hsame dataFlow_eq completion_eq
      · refine ending hterm ?_
        rw [dataFlow_eq, completion_eq]
        exact h.known
      · exact h.forward hr_eq hp_eq hnext dataFlow_eq completion_eq unstarted unfinished
  | assigned _ started dataFlow_eq completion_eq =>
      have hposition : p.position = .started :=
        (position_of_state_ne (by rw [started]; decide)).trans started
      refine ⟨?_, ?_, ?_, ?_⟩
      · rw [hposition]
        exact fun hlt => absurd hlt (by decide)
      · rw [dataFlow_eq]
        exact fun _ _ => rfl
      · rw [hposition]
        exact fun hle => absurd hle (by decide)
      · rw [completion_eq]
        exact nofun
  | reported tracked dataFlow_eq completion_eq finished =>
      have hflow : r.dataFlow.isSome = true := by rw [tracked.dataFlow_eq]; rfl
      rcases hcases with hsame | ⟨hterm, -⟩ | ⟨-, hp_eq, hnext⟩
      · exact h.reported hsame dataFlow_eq hflow tracked.completion_eq
      · exact ending hterm fun _ => by rw [dataFlow_eq]; exact hflow
      · rw [tracked.state_eq] at hnext
        have hp_state : p.state = .completing := State.eq_of_index hnext
        refine ⟨?_, fun _ _ => by rw [dataFlow_eq]; exact hflow, ?_, ?_⟩
        · rw [hp_eq, hp_state]
          exact fun hlt => absurd hlt (by decide)
        · rw [completion_eq, finished hp_state]
          exact fun _ _ => rfl
        · rw [dataFlow_eq]
          exact fun _ => hflow

end Transfer.IsEarned

/-- What is known of the flow of a record stays in order through every result of an attempt. -/
theorem Attempt.Result.isEarned {c : Setup} {r p : Transfer} {now : Instant} {xs : List Exchange}
    (h : Result c r now xs p) (hr : r.IsCoherent) (hearned : r.IsEarned) : p.IsEarned := by
  rcases h.passes_or_idle with ⟨s, t, hpasses, -⟩ | ⟨rfl, -⟩
  · exact hearned.passes hr hpasses h.news
  · exact hearned.congr rfl rfl rfl

/-- A result never takes a flow from a record that has one. -/
theorem Attempt.Result.dataFlow_eq {c : Setup} {r p : Transfer} {now : Instant}
    {xs : List Exchange} (h : Result c r now xs p) (hearned : r.IsEarned) :
    p.dataFlow = r.dataFlow ∨ r.dataFlow = none := by
  cases h.news with
  | unchanged dataFlow_eq => exact Or.inl dataFlow_eq
  | reported _ dataFlow_eq => exact Or.inl dataFlow_eq
  | assigned state_eq =>
      refine Or.inr (hearned.unassigned ?_)
      rw [Transfer.position_of_state_ne (by rw [state_eq]; decide), state_eq]
      decide

/-- No result misses the flow of a record for which that was not the reason before. -/
theorem Attempt.Result.found {c : Setup} {r p : Transfer} {now : Instant} {xs : List Exchange}
    (h : Result c r now xs p) (hearned : r.IsEarned)
    (hfound : r.errorDetail ≠ some noFlowDetail) : p.errorDetail ≠ some noFlowDetail := by
  intro hp
  rcases h.of_noFlow hp with hwas | ⟨hstate, hnone⟩
  · exact hfound hwas
  · have hposition := Transfer.position_of_state_ne (p := r) (by rw [hstate]; decide)
    have hassigned := hearned.of_started (hposition.trans hstate)
    rw [hnone] at hassigned
    cases hassigned

namespace Ledger

/-- A record fits together, what is known of its flow is in order, and its flow was not missed. -/
structure IsInOrder (r : Transfer) : Prop where
  coherent : r.IsCoherent
  earned : r.IsEarned
  found : r.errorDetail ≠ some Attempt.noFlowDetail

/-- What is known of the flow of a record is in order, whatever happens. -/
theorem isInOrder_invariant : IsInvariant fun _ r => IsInOrder r where
  created l id role request now hvalid :=
    ⟨isCoherent_invariant.created l id role request now hvalid, .create id role request now, nofun⟩
  stays _ h := h
  changed {l' r r'} hl h hchange := by
    have hcoherent := isCoherent_invariant.changed hl h.coherent hchange
    cases hchange with
    | leased | released => exact ⟨hcoherent, h.earned.congr rfl rfl rfl, h.found⟩
    | @signalled x q accepted =>
        refine ⟨hcoherent, (h.earned.accept accepted).congr rfl rfl rfl, ?_⟩
        rw [Transfer.bumped, Transfer.accept_frame accepted]
        exact h.found
    | attempted _ result =>
        exact ⟨hcoherent, (result.isEarned h.coherent h.earned).congr rfl rfl rfl,
          result.found h.earned h.found⟩

/-- The message of completion of a record's transfer was accepted, in an attempt that was written
back. -/
def WasFinalized (l : Ledger) (r : Transfer) : Prop :=
  ∃ setup claimed p t, claimed.id = r.id ∧ p.state = .completed ∧
    l.Attempted setup claimed
      [.call (.send (.ofTransfer .completion claimed)) (some (.ok ())) t] p

variable {l l' : Ledger} {a : Action} {id : String} {r r' : Transfer}

theorem wasFinalized_turn (h : l.Turn a l') (hr : l.WasFinalized r) : l'.WasFinalized r := by
  obtain ⟨setup, claimed, p, t, hid, hp, hatt⟩ := hr
  exact ⟨setup, claimed, p, t, hid, hp, attempted_turn h hatt⟩

theorem WasFinalized.of_id (h : l.WasFinalized r) (hid : r'.id = r.id) : l.WasFinalized r' := by
  obtain ⟨setup, claimed, p, t, hclaimed, hp, hatt⟩ := h
  exact ⟨setup, claimed, p, t, hclaimed.trans hid.symm, hp, hatt⟩

/-- The message of completion of every completed transfer was accepted. -/
theorem wasFinalized_invariant :
    IsInvariant fun l r => r.state = .completed → l.WasFinalized r where
  created l id role request now _ := nofun
  stays h hr hstate := wasFinalized_turn h (hr hstate)
  changed {l' r r'} _ h hchange := by
    have hid := hchange.succeeds.id_eq
    cases hchange with
    | leased | released => exact fun hstate => (h hstate).of_id hid
    | @signalled x q accepted =>
        intro hstate
        rw [Transfer.bumped, Transfer.accept_frame accepted] at hstate
        exact (h hstate).of_id hid
    | @attempted setup now xs p hatt result =>
        intro hstate
        rcases result.to_completed hstate with hwas | ⟨t, rfl⟩
        · exact (h hwas).of_id hid
        · exact ⟨setup, r, p, t, hid.symm, hstate, hatt⟩

/-- A flow that is assigned stays assigned. -/
theorem dataFlow_turn (hl : l.Sound) (hall : l.Everywhere fun _ r => IsInOrder r) (h : l.Turn a l')
    {flow : Assignment} (hr : ∃ r, l.transfers.find? id = some r ∧ r.dataFlow = some flow) :
    ∃ r', l'.transfers.find? id = some r' ∧ r'.dataFlow = some flow := by
  obtain ⟨r, hr, hflow⟩ := hr
  have hearned := (hall.records id r hr).earned
  rcases find?_turn hl h hr with hsame | ⟨r', hr', hchange⟩
  · exact ⟨r, hsame, hflow⟩
  · refine ⟨r', hr', ?_⟩
    cases hchange with
    | leased | released => exact hflow
    | signalled accepted =>
        rw [Transfer.bumped, Transfer.accept_frame accepted]
        exact hflow
    | @attempted setup now xs p _ result =>
        rcases result.dataFlow_eq hearned with hsame | hnone
        · exact hsame.trans hflow
        · cases hnone.symm.trans hflow

/-- A report on a flow came as the answer to a question, in an attempt that was written back. -/
def WasPolled (l : Ledger) (id : String) (flow : Assignment) (outcome : Outcome) : Prop :=
  ∃ setup claimed xs p d t, claimed.id = id ∧ claimed.dataFlow = some flow ∧
    .call (.poll d flow.handle) (some (.ok (some outcome))) t ∈ xs ∧
    l.Attempted setup claimed xs p

theorem wasPolled_turn (h : l.Turn a l') {flow : Assignment} {outcome : Outcome}
    (hpolled : l.WasPolled id flow outcome) : l'.WasPolled id flow outcome := by
  obtain ⟨setup, claimed, xs, p, d, t, hid, hflow, hxs, hatt⟩ := hpolled
  exact ⟨setup, claimed, xs, p, d, t, hid, hflow, hxs, attempted_turn h hatt⟩

end Ledger

namespace World

theorem isInOrder_run (now : Instant) (capacity : Nat) (liveness : Option Int)
    (actions : List Action) :
    ((start now capacity liveness).run actions).ledger.Everywhere fun _ r =>
      Ledger.IsInOrder r :=
  Ledger.everywhere_run Ledger.isInOrder_invariant now capacity liveness actions

variable {w : World} {id : String} {flow : Assignment} {outcome : Outcome}

/-- A flow that is assigned stays assigned, as long as a run goes on. -/
theorem dataFlow_run (hw : w.Sound) (hall : w.ledger.Everywhere fun _ r => Ledger.IsInOrder r)
    {r : Transfer} (hr : w.find? id = some r) (hflow : r.dataFlow = some flow)
    (actions : List Action) :
    ∃ r', (w.run actions).find? id = some r' ∧ r'.dataFlow = some flow := by
  have hboth := run_induction
    (P := fun l => (l.Everywhere fun _ r => Ledger.IsInOrder r) ∧
      ∃ r, l.transfers.find? id = some r ∧ r.dataFlow = some flow)
    (fun hl hturn h => ⟨Ledger.everywhere_turn Ledger.isInOrder_invariant hl hturn h.1,
      Ledger.dataFlow_turn hl h.1 hturn h.2⟩)
    hw ⟨hall, r, hr, hflow⟩ actions
  exact hboth.2

/-- A report on a flow was sent under the handle of just that flow, to a record that had the flow
and no report. -/
def WasPushed (w : World) (actions : List Action) (id : String) (flow : Assignment)
    (outcome : Outcome) : Prop :=
  ∃ before after r, actions = before ++ .deliver id (.completion flow.handle outcome) :: after ∧
    (w.run before).find? id = some r ∧ r.dataFlow = some flow ∧ r.completion = none

/-- What is known of the end of a flow was reported, by signal or on asking. -/
def WasReported (w : World) (actions : List Action) (id : String) (flow : Assignment)
    (outcome : Outcome) : Prop :=
  w.WasPushed actions id flow outcome ∨ (w.run actions).ledger.WasPolled id flow outcome

/-- A report stays one while the run goes on. -/
theorem WasReported.append (hw : w.Sound) {actions : List Action}
    (h : w.WasReported actions id flow outcome) (a : Action) :
    w.WasReported (actions ++ [a]) id flow outcome := by
  rcases h with ⟨before, after, r, rfl, hr, hflow, hfirst⟩ | hpolled
  · exact Or.inl ⟨before, after ++ [a], r, by simp, hr, hflow, hfirst⟩
  · obtain ⟨hturn, -⟩ := turns_act (sound_run hw actions).calm a
    rw [WasReported, run_append]
    exact Or.inr (Ledger.wasPolled_turn hturn hpolled)

/-- The report on a record's flow has its source. -/
def IsReported (w : World) (actions : List Action) (id : String) (r : Transfer) : Prop :=
  ∀ outcome, r.completion = some outcome →
    ∃ flow, r.dataFlow = some flow ∧ w.WasReported actions id flow outcome

/-- What an action makes of a record leaves it with a report that has its source. -/
theorem isReported_of_effect {actions : List Action} (hw : w.Sound) {r r' : Transfer}
    {a : Action} {op : Operation} (hr : (w.run actions).find? id = some r)
    (hop : (w.run actions).access? a = some op)
    (heff : Transfers.Effect (w.run actions).site.transfers r op r')
    (h : w.IsReported actions id r) : w.IsReported (actions ++ [a]) id r' := by
  have hrun := sound_run hw actions
  have hsame : ∀ outcome, r.completion = some outcome →
      ∃ flow, r.dataFlow = some flow ∧ w.WasReported (actions ++ [a]) id flow outcome := by
    intro outcome hcompletion
    obtain ⟨flow, hflow, hreported⟩ := h outcome hcompletion
    exact ⟨flow, hflow, hreported.append hw a⟩
  cases heff with
  | leased | released => exact hsame
  | @signalled x q accepted =>
      have hflow_eq : q.dataFlow = r.dataFlow := by rw [Transfer.accept_frame accepted]
      intro outcome hcompletion
      rcases Transfer.completion_of_accept accepted with
        hkept | ⟨flow, first, hflow, hnone, rfl, hq⟩
      · obtain ⟨flow, hflow, hreported⟩ := hsame outcome (hkept.symm.trans hcompletion)
        exact ⟨flow, hflow_eq.trans hflow, hreported⟩
      · cases hq.symm.trans hcompletion
        cases makes_of_access? hop
        rw [Transfers.id_of_find? hrun.ledger.isKeyed hr]
        exact ⟨flow, hflow_eq.trans hflow, Or.inl ⟨actions, [], r, rfl, hr, hflow, hnone⟩⟩
  | @written p id_eq version_eq holder_eq =>
      obtain ⟨-, j, -, -, ⟨now, result⟩, hatt⟩ :=
        attempted_of_written hrun hop hr (.written id_eq version_eq holder_eq)
      have hnews := result.news
      generalize j.exchanges = xs at hnews hatt
      intro outcome hcompletion
      cases hnews with
      | unchanged dataFlow_eq completion_eq =>
          obtain ⟨flow, hflow, hreported⟩ := hsame outcome (completion_eq.symm.trans hcompletion)
          exact ⟨flow, dataFlow_eq.trans hflow, hreported⟩
      | assigned _ _ _ completion_eq => cases completion_eq.symm.trans hcompletion
      | @reported _ flow d _ t tracked dataFlow_eq completion_eq =>
          cases completion_eq.symm.trans hcompletion
          refine ⟨flow, dataFlow_eq.trans tracked.dataFlow_eq, Or.inr ?_⟩
          rw [run_append]
          exact ⟨j.setup, r, _, p, d, t, Transfers.id_of_find? hrun.ledger.isKeyed hr,
            tracked.dataFlow_eq, by simp, hatt⟩

/-- **Every report has its source.** -/
theorem isReported_run (now : Instant) (capacity : Nat) (liveness : Option Int)
    (actions : List Action) {r : Transfer}
    (hr : ((start now capacity liveness).run actions).find? id = some r) :
    (start now capacity liveness).IsReported actions id r := by
  induction actions using List.reverseRecOn generalizing r with
  | nil => cases hr
  | append_singleton before a ih =>
      have hstart := sound_start now capacity liveness
      have hw := sound_run hstart before
      rw [run_append] at hr
      cases hwas : ((start now capacity liveness).run before).find? id with
      | none =>
          obtain ⟨role, request, -, rfl⟩ := find?_act_of_eq_none hw hwas hr
          exact nofun
      | some r₀ =>
          rcases find?_act hw hwas a with ⟨op, r', hop, heff, hr'⟩ | ⟨-, hr'⟩
          · cases hr.symm.trans hr'
            exact isReported_of_effect hstart hwas hop heff (ih hwas)
          · cases hr.symm.trans hr'
            intro outcome hcompletion
            obtain ⟨flow, hflow, hreported⟩ := ih hwas outcome hcompletion
            exact ⟨flow, hflow, hreported.append hstart a⟩

/-- **Completion is earned.**  Take any run.  A record from which the flow is to be tracked, be it
suspended, has a flow; one that is about to be completed, be it suspended, or is completed, has a
flow and the report that it succeeded.  Every report was sent under the handle of the flow that is
recorded, or came as the answer to a question about it.  A completed transfer had its message of
completion accepted, in an attempt that was written back.  A flow that is assigned stays assigned
however the run goes on: whatever is answered, no attempt on a record that was handed out replaces
a flow, or misses one. -/
theorem completion_earned (now : Instant) (capacity : Nat) (liveness : Option Int)
    (actions : List Action) :
    let w := (start now capacity liveness).run actions
    (∀ id r, w.find? id = some r →
      (r.state = .started ∨ (r.state = .suspended ∧ r.suspendedFrom = some .started) →
        r.dataFlow.isSome = true) ∧
      (r.state = .completing ∨ r.state = .completed ∨
          (r.state = .suspended ∧ r.suspendedFrom = some .completing) →
        r.dataFlow.isSome = true ∧ r.completion = some .succeeded) ∧
      (∀ outcome, r.completion = some outcome → ∃ flow, r.dataFlow = some flow ∧
        ((start now capacity liveness).WasPushed actions id flow outcome ∨
          w.ledger.WasPolled id flow outcome)) ∧
      (r.state = .completed → ∃ setup claimed p t, claimed.id = id ∧ p.state = .completed ∧
        w.ledger.Attempted setup claimed
          [.call (.send (.ofTransfer .completion claimed)) (some (.ok ())) t] p) ∧
      (∀ flow, r.dataFlow = some flow → ∀ later, ∃ r', (w.run later).find? id = some r' ∧
        r'.dataFlow = some flow) ∧
      r.errorDetail ≠ some "no data flow recorded") ∧
    ∀ j ∈ w.jobs, ∀ t xs p, (Attempt.on j.setup j.claimed t).Yields xs p →
      (p.dataFlow = j.claimed.dataFlow ∨ j.claimed.dataFlow = none) ∧
      p.errorDetail ≠ some "no data flow recorded" := by
  intro w
  have hw : w.Sound := sound_run (sound_start now capacity liveness) actions
  have hall := isInOrder_run now capacity liveness actions
  have hfinal := Ledger.everywhere_run Ledger.wasFinalized_invariant now capacity liveness actions
  refine ⟨?_, ?_⟩
  · intro id r hr
    obtain ⟨-, earned, found⟩ := hall.records id r hr
    refine ⟨?_, ?_, ?_, ?_, ?_, found⟩
    · exact fun hstate => earned.of_started (Transfer.position_eq_of (by decide) hstate)
    · rintro (hstate | hstate | hstate)
      · exact earned.of_completing (Or.inl (Transfer.position_eq_of (by decide) (Or.inl hstate)))
      · exact earned.of_completing (Or.inr (Transfer.position_eq_of (by decide) (Or.inl hstate)))
      · exact earned.of_completing (Or.inl (Transfer.position_eq_of (by decide) (Or.inr hstate)))
    · exact isReported_run now capacity liveness actions hr
    · intro hstate
      obtain ⟨setup, claimed, p, t, hid, hp, hatt⟩ := hfinal.records id r hr hstate
      exact ⟨setup, claimed, p, t, hid.trans (Transfers.id_of_find? hw.ledger.isKeyed hr), hp, hatt⟩
    · intro flow hflow later
      exact dataFlow_run hw hall hr hflow later
  · intro j hj t xs p hyields
    obtain ⟨-, earned, found⟩ := hall.copies j hj
    have result := Attempt.result_of_yields hyields
    exact ⟨result.dataFlow_eq earned, result.found earned found⟩

/-- A transfer goes all the way: its flow is started, the data plane reports success by itself, and
the other side accepts the message of completion. -/
theorem completion_earned_by_push :
    let request : DataRequest :=
      ⟨"r", "a", "s", "c", "http://c", "p", ⟨"blob", []⟩, ⟨"http", []⟩, []⟩
    let setup : Setup := ⟨.ofHost "h", .standard⟩
    let oracle : (q : Inquiry) → q.Answer
      | .judge _ _ => Decision.allow
      | .select _ => Except.ok ⟨"d", "http://d", [], [], ⟨0⟩, ⟨0⟩, none⟩
      | .find _ => Except.ok none
    let reply : (c : Call) → Option c.Answer
      | .policy _ => some (Except.ok (some ⟨.object [], []⟩))
      | .send _ => some (Except.ok ())
      | .start _ _ => some (Except.ok "f")
      | .poll _ _ => none
    let go (i : Nat) : Action := .advance i oracle
    let actions : List Action := [.create "t" .consumer request,
      .claim setup "w", go 0, go 0,
      .claim setup "w", go 1, go 1, .answer 1 reply, go 1,
      .claim setup "w", go 2, go 2, .answer 2 reply, go 2, go 2,
      .claim setup "w", go 3, go 3, go 3, .answer 3 reply, go 3, go 3,
      .deliver "t" (.completion "f" .succeeded),
      .claim setup "w", go 4, go 4,
      .claim setup "w", go 5, go 5, .answer 5 reply, go 5]
    let w := (start ⟨0⟩ 16 none).run actions
    ∃ r, w.find? "t" = some r ∧ r.state = .completed ∧ r.completion = some .succeeded ∧
      (∃ flow, r.dataFlow = some flow ∧
        ((start ⟨0⟩ 16 none).WasPushed actions "t" flow .succeeded ∨
          w.ledger.WasPolled "t" flow .succeeded)) ∧
      ∃ setup claimed p t, claimed.id = "t" ∧ p.state = .completed ∧
        w.ledger.Attempted setup claimed
          [.call (.send (.ofTransfer .completion claimed)) (some (.ok ())) t] p := by
  intro request setup oracle reply go actions w
  have hstate : (w.find? "t").map (·.state) = some .completed := by decide +kernel
  obtain ⟨r, hr, hcompleted⟩ := Option.map_eq_some_iff.1 hstate
  obtain ⟨-, hfinished, hreported, hfinal, -, -⟩ :=
    (completion_earned ⟨0⟩ 16 none actions).1 "t" r hr
  obtain ⟨-, hcompletion⟩ := hfinished (Or.inr (Or.inl hcompleted))
  exact ⟨r, hr, hcompleted, hcompletion, hreported _ hcompletion, hfinal hcompleted⟩

end World
end Connector
