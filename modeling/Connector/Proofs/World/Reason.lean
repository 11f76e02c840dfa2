import Connector.Proofs.Worker.Calls
import Connector.Proofs.World.Cancellation
import Connector.Proofs.World.Tidings

/-!
# The reason of a failure

Why a transfer failed is written once, in the very update that turns it to termination, and stands
from then on.  The message that announces the termination is made from the copy that a worker
claimed, and the event from the record that it wrote; both are still true when they come out, since
the reason does not change any more.  Statements:

* `Change.keepsEnding`, `keepsEnding_run` — what ends goes on to end for the reason it had;
* `keepsReasons_run` — the copies and results of the workers tell the reason that is stored;
* `reasons_truthful` — where a reason is found, how it came there, and who tells it.
-/

namespace Connector

/-- The second record ends like the first one: for the same reason, and for good. -/
structure Transfer.KeepsEnding (r r' : Transfer) : Prop where
  ending : r'.IsEnding
  errorDetail_eq : r'.errorDetail = r.errorDetail
  terminated : r.state = .terminated → r'.state = .terminated

namespace Transfer.KeepsEnding

theorem refl {r : Transfer} (ending : r.IsEnding) : r.KeepsEnding r := ⟨ending, rfl, fun h => h⟩

theorem trans {r r' r'' : Transfer} (h : r.KeepsEnding r') (h' : r'.KeepsEnding r'') :
    r.KeepsEnding r'' :=
  ⟨h'.ending, h'.errorDetail_eq.trans h.errorDetail_eq, fun ht => h'.terminated (h.terminated ht)⟩

end Transfer.KeepsEnding

namespace Ledger

variable {l l' : Ledger} {a : Action} {id : String} {r r' : Transfer}

/-- What ends goes on to end for the reason it had. -/
theorem Change.keepsEnding (h : Change l' r r') (ending : r.IsEnding) : r.KeepsEnding r' := by
  cases h with
  | leased | released => exact ⟨ending, rfl, fun h => h⟩
  | @signalled x q accepted =>
      have hframe := Transfer.accept_frame accepted
      have hstate : q.bumped.state = r.state := by rw [Transfer.bumped, hframe]
      refine ⟨?_, ?_, fun ht => hstate.trans ht⟩
      · unfold Transfer.IsEnding at ending ⊢
        rwa [hstate]
      · rw [Transfer.bumped, hframe]
  | @attempted setup now xs p _ result =>
      obtain ⟨herror, hstate⟩ := result.of_isEnding ending
      rcases hstate with hsame | ⟨hterminating, hterminated⟩
      · have hending : p.IsEnding := by
          unfold Transfer.IsEnding at ending ⊢
          rwa [hsame]
        exact ⟨hending, herror, fun ht => hsame.trans ht⟩
      · exact ⟨Or.inr (by rw [show (p.written r).state = .terminated from hterminated]; rfl),
          herror, fun _ => hterminated⟩

/-- If a record ends, what is stored of its transfer ends like it. -/
def StoresEnding (l : Ledger) (r : Transfer) : Prop :=
  r.IsEnding → ∃ r', l.transfers.find? r.id = some r' ∧ r.KeepsEnding r'

theorem storesEnding_turn (hl : l.Sound) (h : l.Turn a l') (hr : l.StoresEnding r) :
    l'.StoresEnding r := by
  intro ending
  obtain ⟨r', hr', hkeeps⟩ := hr ending
  rcases find?_turn hl h hr' with hsame | ⟨r'', hr'', hchange⟩
  · exact ⟨r', hsame, hkeeps⟩
  · exact ⟨r'', hr'', hkeeps.trans (hchange.keepsEnding hkeeps.ending)⟩

/-- The copies that were handed out and the results that were written back tell of an ending what
is stored. -/
structure KeepsReasons (l : Ledger) : Prop where
  copies : ∀ j ∈ l.jobs, l.StoresEnding j.claimed
  results : ∀ j ∈ l.jobs, ∀ p t isTold, j.phase = .persisted p t isTold → l.StoresEnding p

theorem keepsReasons_turn (hl : l.Sound) (h : l.Turn a l') (hkeeps : l.KeepsReasons) :
    l'.KeepsReasons := by
  refine ⟨?_, ?_⟩
  · intro j' hj'
    rcases h.jobs hj' with hj | ⟨j, hj, step⟩ | ⟨setup, holder, p, hp, heq, rfl⟩
    · exact storesEnding_turn hl h (hkeeps.copies j' hj)
    · rw [step.continues.claimed_eq]
      exact storesEnding_turn hl h (hkeeps.copies j hj)
    · have hholds := (Transfers.holds_of_mem_claim hl.isKeyed hp).1
      exact fun ending => ⟨p, heq ▸ hholds, .refl ending⟩
  · intro j' hj' p t isTold hphase
    rcases h.jobs hj' with hj | ⟨j, hj, step⟩ | ⟨setup, holder, q, hq, heq, rfl⟩
    · exact storesEnding_turn hl h (hkeeps.results j' hj p t isTold hphase)
    · rcases step.persisted_cases hphase with ⟨isTold', hphase'⟩ | ⟨-, taken⟩
      · exact storesEnding_turn hl h (hkeeps.results j hj p t isTold' hphase')
      · obtain ⟨stored, -, -, hfind⟩ := Transfers.find?_update taken
        exact fun ending => ⟨_, hfind, ending, rfl, fun ht => ht⟩
    · cases hphase

end Ledger

namespace World

theorem keepsReasons_run (now : Instant) (capacity : Nat) (liveness : Option Int)
    (actions : List Action) :
    ((start now capacity liveness).run actions).ledger.KeepsReasons :=
  run_induction (fun hl h => Ledger.keepsReasons_turn hl h) (sound_start now capacity liveness)
    ⟨by simp [start, ledger], by simp [start, ledger]⟩ actions

variable {w : World} {a : Action} {id : String} {r r' : Transfer}

/-- What ends goes on to end in every run. -/
theorem keepsEnding_run (hw : w.Sound) (hr : w.find? id = some r) (ending : r.IsEnding)
    (later : List Action) :
    ∃ r', (w.run later).find? id = some r' ∧ r.KeepsEnding r' := by
  refine run_induction
    (P := fun l => ∃ r', l.transfers.find? id = some r' ∧ r.KeepsEnding r')
    (fun hl hturn => ?_) hw ⟨r, hr, .refl ending⟩ later
  rintro ⟨q, hq, hkeeps⟩
  rcases Ledger.find?_turn hl hturn hq with hsame | ⟨q', hq', hchange⟩
  · exact ⟨q, hsame, hkeeps⟩
  · exact ⟨q', hq', hkeeps.trans (hchange.keepsEnding hkeeps.ending)⟩

/-- By an action, an attempt is written back that turns the first record to termination and leaves
the second: on command and without a reason, or because it failed, and for that reason. -/
def Ends (w : World) (a : Action) (r r' : Transfer) : Prop :=
  ∃ setup t xs p, (w.act a).ledger.Attempted setup r xs p ∧ r' = p.written r ∧
    ((r.pendingCommand = some .cancel ∧ r'.errorDetail = none) ∨
      (r.pendingCommand = none ∧ ∃ detail, Attempt.FailsBy setup r t xs detail ∧
        r'.errorDetail = some detail))

/-- The reason of a record stands, unless an action turns the transfer to termination. -/
theorem reason_act (hw : w.Sound) (truthful : r.IsTruthful) (hr : w.find? id = some r)
    (hr' : (w.act a).find? id = some r') :
    (r'.errorDetail = r.errorDetail ∧ (r'.state = .terminating → r.state = .terminating)) ∨
      (¬ r.IsEnding ∧ r.errorDetail = none ∧ r'.state = .terminating ∧ w.Ends a r r') := by
  rcases Ledger.find?_turn hw.ledger (turns_act hw.calm a).1 hr with hsame | ⟨q, hq, hchange⟩
  · cases hr'.symm.trans hsame
    exact Or.inl ⟨rfl, fun h => h⟩
  · cases hr'.symm.trans hq
    cases hchange with
    | leased | released => exact Or.inl ⟨rfl, fun h => h⟩
    | signalled accepted =>
        have hframe := Transfer.accept_frame accepted
        refine Or.inl ⟨by rw [Transfer.bumped, hframe], fun hstate => ?_⟩
        rwa [Transfer.bumped, hframe] at hstate
    | @attempted setup t xs p hatt result =>
        by_cases ending : r.IsEnding
        · obtain ⟨herror, hstate⟩ := result.of_isEnding ending
          refine Or.inl ⟨herror, fun hp => ?_⟩
          rcases hstate with hsame | ⟨hterminating, -⟩
          · exact hsame ▸ hp
          · exact hterminating
        · have live : r.state ≠ .terminating := fun h => ending (Or.inl h)
          have hnone : r.errorDetail = none := truthful.errorDetail_eq ending
          by_cases hp : p.state = .terminating
          · refine Or.inr ⟨ending, hnone, hp, setup, t, xs, p, hatt, rfl, ?_⟩
            rcases result.to_terminating hp live with ⟨pending, herror⟩ | hfails
            · exact Or.inl ⟨pending, herror.trans hnone⟩
            · exact Or.inr hfails
          · exact Or.inl ⟨result.errorDetail_eq.resolve_right hp, fun h => absurd h hp⟩

/-- The message that announces a termination is placed by a job on a transfer that ends. -/
theorem job_of_placed_termination (hw : w.Sound) {m : Message}
    (h : w.placed? a = some (.send m)) (hkind : m.kind = .termination) :
    ∃ j ∈ w.jobs, j.claimed.state = .terminating ∧ m = .ofTransfer .termination j.claimed := by
  cases a with
  | advance i oracle =>
      obtain ⟨j, hj, hplacing⟩ := Option.bind_eq_some_iff.1 h
      obtain ⟨found, -⟩ := job?_eq_some_iff.1 hj
      have hmem : j ∈ w.jobs := List.mem_of_getElem? found
      refine ⟨j, hmem, ?_⟩
      unfold Job.placing? at hplacing
      split at hplacing
      · rename_i hphase
        cases hplacing
        obtain ⟨now, hcourse⟩ := (hw.ledger.jobs j hmem).reaches_of_running hphase
        cases hcourse.suits.1 with
        | opening =>
            have hopening : Message.openingKind j.claimed.role = .termination := hkind
            cases hrole : j.claimed.role <;> rw [hrole] at hopening <;> cases hopening
        | completion => cases hkind
        | termination state_eq => exact ⟨state_eq, rfl⟩
      · cases hplacing
  | create | deliver | claim | answer | lose | pass | upkeep => cases h

/-- An event of termination is published of an attempt that ended its transfer. -/
theorem job_of_published_terminated {detail : Option String} {u : Instant}
    (h : .terminated id detail u ∈ w.published a) :
    ∃ j ∈ w.jobs, ∃ p t, j.phase = .persisted p t false ∧ p.state = .terminated ∧ id = p.id ∧
      detail = p.errorDetail := by
  cases a with
  | advance i oracle =>
      cases hjob : w.job? i with
      | none => simp [published, hjob] at h
      | some j =>
          refine ⟨j, List.mem_of_getElem? (job?_eq_some_iff.1 hjob).1, ?_⟩
          have htidings : .terminated id detail u ∈ j.tidings := by
            simpa [published, hjob] using h
          unfold Job.tidings at htidings
          split at htidings
          · rename_i p t huntold
            refine ⟨p, t, Job.untold?_eq_some_iff.1 huntold, ?_⟩
            unfold Transfer.tidings at htidings
            split at htidings
            · cases htidings
            · simp only [List.mem_cons, reduceCtorEq, Option.mem_toList, false_or,
                followUp_eq_terminated_iff] at htidings
              exact ⟨htidings.2.1, htidings.2.2.1, htidings.2.2.2.1⟩
          · cases htidings
  | create id' role request =>
      simp only [published] at h
      split at h
      · split at h <;> simp at h
      · cases h
  | deliver | claim | answer | lose | pass | upkeep => cases h

/-- **The reason of a failure is told truly.**  After every run:

* a reason is stored only where a transfer has turned to termination;
* whatever action comes next, the reason of a record stands, unless the action turns the transfer
  to termination: then it is a written attempt, which followed a cancellation and gives no reason,
  or failed and gives that reason;
* a transfer that has turned to termination keeps its reason in every run that follows;
* whenever a message of termination is sent, and whenever an event of termination is published, it
  carries the reason that is stored; what is published is what comes onto the bus. -/
theorem reasons_truthful (now : Instant) (capacity : Nat) (liveness : Option Int)
    (actions : List Action) :
    let w := (start now capacity liveness).run actions
    (∀ id r, w.find? id = some r → r.errorDetail ≠ none →
      r.state = .terminating ∨ r.state = .terminated) ∧
    (∀ id r a r', w.find? id = some r → (w.act a).find? id = some r' →
      (r'.errorDetail = r.errorDetail ∧ (r'.state = .terminating → r.state = .terminating)) ∨
        (¬ r.IsEnding ∧ r.errorDetail = none ∧ r'.state = .terminating ∧ w.Ends a r r')) ∧
    (∀ id r later, w.find? id = some r → r.IsEnding →
      ∃ r', (w.run later).find? id = some r' ∧ r'.IsEnding ∧ r'.errorDetail = r.errorDetail) ∧
    (∀ a m, w.placed? a = some (.send m) → m.kind = .termination →
      ∃ r, w.find? m.transferId = some r ∧ r.IsEnding ∧
        m.payload = .object [("reason", Json.orNull .str r.errorDetail)]) ∧
    (∀ a, (∀ f, a ≠ .upkeep f) → (w.act a).site.bus = w.site.bus.tellAll (w.published a)) ∧
    ∀ a id detail u, .terminated id detail u ∈ w.published a →
      ∃ r, w.find? id = some r ∧ r.state = .terminated ∧ r.errorDetail = detail := by
  intro w
  have hw : w.Sound := sound_run (sound_start now capacity liveness) actions
  have htruthful : w.ledger.Everywhere fun _ r => r.IsTruthful :=
    Ledger.everywhere_run Ledger.isTruthful_invariant now capacity liveness actions
  have hkeeps : w.ledger.KeepsReasons := keepsReasons_run now capacity liveness actions
  refine ⟨?_, ?_, ?_, ?_, fun a hother => bus_act hw.calm hother, ?_⟩
  · exact fun id r hr => (htruthful.records id r hr).ending_of_errorDetail
  · exact fun id r a r' hr hr' => reason_act hw (htruthful.records id r hr) hr hr'
  · intro id r later hr ending
    obtain ⟨r', hr', hends⟩ := keepsEnding_run hw hr ending later
    exact ⟨r', hr', hends.ending, hends.errorDetail_eq⟩
  · intro a m hplaced hkind
    obtain ⟨j, hj, hstate, rfl⟩ := job_of_placed_termination hw hplaced hkind
    obtain ⟨r, hr, hends⟩ := hkeeps.copies j hj (Or.inl hstate)
    refine ⟨r, hr, hends.ending, ?_⟩
    rw [hends.errorDetail_eq]
    rfl
  · intro a id detail u hpublished
    obtain ⟨j, hj, p, t, hphase, hstate, rfl, rfl⟩ := job_of_published_terminated hpublished
    have ending : p.IsEnding := Or.inr (by rw [hstate]; rfl)
    obtain ⟨r, hr, hends⟩ := hkeeps.results j hj p t false hphase ending
    exact ⟨r, hr, hends.terminated hstate, hends.errorDetail_eq⟩

/-- The other side refuses a transfer; the message of termination says why, and so does the event
that follows it. -/
theorem reasons_truthful_of_refusal :
    let request : DataRequest :=
      ⟨"r", "a", "s", "c", "http://c", "p", ⟨"blob", []⟩, ⟨"http", []⟩, []⟩
    let setup : Setup := ⟨.ofHost "h", .standard⟩
    let oracle : (q : Inquiry) → q.Answer
      | .judge _ _ => Decision.deny []
      | .select _ => Except.error .clock
      | .find _ => Except.ok none
    let refusal : (c : Call) → Option c.Answer
      | .send _ => some (Except.error (.rejected "no"))
      | .policy _ | .start _ _ | .poll _ _ => none
    let listen : Action := .upkeep fun s => { s with bus := s.bus.subscribe.2 }
    let actions : List Action := [listen, .create "t" .consumer request,
      .claim setup "w", .advance 0 oracle, .advance 0 oracle,
      .claim setup "w", .advance 1 oracle, .advance 1 oracle, .answer 1 refusal, .advance 1 oracle,
      .pass ⟨1⟩, .claim setup "w", .advance 2 oracle]
    let w := (start ⟨0⟩ 16 none).run actions
    let later : List Action := [.advance 2 oracle, .answer 2 refusal, .advance 2 oracle,
      .advance 2 oracle]
    let w' := (start ⟨0⟩ 16 none).run (actions ++ later)
    (∃ m r, w.placed? (.advance 2 oracle) = some (.send m) ∧ m.kind = .termination ∧
      w.find? m.transferId = some r ∧ r.IsEnding ∧
      m.payload = .object [("reason", Json.orNull .str r.errorDetail)]) ∧
    .terminated "t" (some "dispatch rejected: no") ⟨1⟩ ∈ w'.published (.advance 2 oracle) ∧
    .transfer (.terminated "t" (some "dispatch rejected: no") ⟨1⟩) ∈
      (w'.act (.advance 2 oracle)).site.bus.kept ∧
    ∃ r, w'.find? "t" = some r ∧ r.state = .terminated ∧
      r.errorDetail = some "dispatch rejected: no" := by
  intro request setup oracle refusal listen actions w later w'
  have hplaced : (w.placed? (.advance 2 oracle)).any
      (fun c => match c with | .send m => decide (m.kind = .termination) | _ => false) = true := by
    decide +kernel
  have hpublished : .terminated "t" (some "dispatch rejected: no") ⟨1⟩ ∈
      w'.published (.advance 2 oracle) := by decide +kernel
  obtain ⟨-, -, -, hmessage, -⟩ := reasons_truthful ⟨0⟩ 16 none actions
  obtain ⟨-, -, -, -, hbus, hevent⟩ := reasons_truthful ⟨0⟩ 16 none (actions ++ later)
  refine ⟨?_, hpublished, ?_, hevent _ _ _ _ hpublished⟩
  case refine_2 =>
    rw [hbus (.advance 2 oracle) (by simp)]
    decide +kernel
  obtain ⟨c, hc, hkind⟩ := (Option.any_eq_true _ _).1 hplaced
  cases c with
  | send m =>
      obtain ⟨r, hr, ending, hpayload⟩ := hmessage _ m hc (of_decide_eq_true hkind)
      exact ⟨m, r, hc, of_decide_eq_true hkind, hr, ending, hpayload⟩
  | policy | start | poll => cases hkind

end World
end Connector
