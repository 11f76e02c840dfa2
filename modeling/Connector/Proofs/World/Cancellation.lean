import Connector.Proofs.Worker.Ending
import Connector.Proofs.World.Records

/-!
# An accepted cancellation wins

Between the signal to cancel a transfer and the attempt that follows it, a worker may be in the
middle of another attempt on the transfer, may write it back or lose its lease, and more signals
may come.  None of that keeps the transfer from being cancelled.  Statements:

* `isTruthful_invariant` — a transfer has a reason for its failure only where it ends, and no
  command waits there;
* `Change.of_cancel_pending`, `Change.isCancelled` — what becomes of a record while a cancellation
  waits, and afterwards;
* `cancellation_wins` — a run goes on with the cancellation waiting until an attempt turns the
  transfer to termination, and from then on the transfer stays terminated, without a reason.
-/

namespace Connector

namespace Transfer

/-- A reason is given only where a transfer ends in failure, and no command waits where it
ends. -/
structure IsTruthful (r : Transfer) : Prop where
  ending_of_errorDetail : r.errorDetail ≠ none → r.state = .terminating ∨ r.state = .terminated
  calm_of_ending : r.IsEnding → r.pendingCommand = none

/-- A transfer that does not end has no reason for its failure. -/
theorem IsTruthful.errorDetail_eq {r : Transfer} (h : r.IsTruthful) (live : ¬ r.IsEnding) :
    r.errorDetail = none := by
  by_cases herror : r.errorDetail = none
  · exact herror
  · rcases h.ending_of_errorDetail herror with hstate | hstate
    · exact absurd (Or.inl hstate) live
    · exact absurd (Or.inr (by rw [hstate]; rfl)) live

/-- The second record is the first one with its command still waiting: only the report on the
flow, the lease and the version may differ. -/
def Awaits (r r' : Transfer) : Prop :=
  r' = { r with completion := r'.completion, lease := r'.lease, version := r'.version }

theorem Awaits.trans {r r' r'' : Transfer} (h : r.Awaits r') (h' : r'.Awaits r'') :
    r.Awaits r'' := by
  rw [Awaits] at h h' ⊢
  rw [h', h]

/-- The transfer is terminated or about to be, without a reason and for good. -/
structure IsCancelled (r : Transfer) : Prop where
  state : r.state = .terminating ∨ r.state = .terminated
  errorDetail_eq : r.errorDetail = none
  pendingCommand_eq : r.pendingCommand = none

theorem IsCancelled.isEnding {r : Transfer} (h : r.IsCancelled) : r.IsEnding := by
  rcases h.state with hstate | hstate
  · exact Or.inl hstate
  · exact Or.inr (by rw [hstate]; rfl)

end Transfer

namespace Ledger

variable {l' : Ledger} {r r' : Transfer}

/-- A transfer has a reason for its failure only where it ends, and no command waits there. -/
theorem isTruthful_invariant : IsInvariant fun _ r => r.IsTruthful where
  created l id role request now _ := by
    refine ⟨fun h => absurd rfl h, fun _ => rfl⟩
  stays _ h := h
  changed {l' r r'} _ h hchange := by
    cases hchange with
    | leased | released => exact ⟨h.ending_of_errorDetail, h.calm_of_ending⟩
    | @signalled x q accepted =>
        have hframe := Transfer.accept_frame accepted
        have hstate : q.bumped.state = r.state := by rw [Transfer.bumped, hframe]
        have herror : q.bumped.errorDetail = r.errorDetail := by rw [Transfer.bumped, hframe]
        refine ⟨?_, ?_⟩
        · rw [herror, hstate]
          exact h.ending_of_errorDetail
        · intro ending
          have hr : r.IsEnding := by
            unfold Transfer.IsEnding at ending ⊢
            rwa [hstate] at ending
          exact (Transfer.pendingCommand_of_accept hr (h.calm_of_ending hr) accepted :)
    | @attempted setup now xs p _ result =>
        refine ⟨?_, fun _ => result.pendingCommand_eq⟩
        intro herror
        rcases result.errorDetail_eq with heq | hstate
        · -- The reason was there before, and where it is there is no way back.
          have hstate := h.ending_of_errorDetail (heq ▸ herror)
          have ending : r.IsEnding := by
            rcases hstate with hstate | hstate
            · exact Or.inl hstate
            · exact Or.inr (by rw [hstate]; rfl)
          rcases (result.of_isEnding ending).2 with hsame | ⟨-, hlast⟩
          · exact hsame ▸ hstate
          · exact Or.inr hlast
        · exact Or.inl hstate

/-- While a cancellation waits, a record is changed in its lease and version, a report on the flow
is added, or it is cancelled. -/
theorem Change.of_cancel_pending (h : Change l' r r') (pending : r.pendingCommand = some .cancel)
    (truthful : r.IsTruthful) :
    r.Awaits r' ∨
      ∃ setup p, l'.Attempted setup r [] p ∧ r' = p.written r ∧ p.state = .terminating ∧
        r'.IsCancelled := by
  cases h with
  | leased | released => exact Or.inl rfl
  | @signalled x q accepted =>
      have heq := Transfer.eq_of_accept_of_cancel_pending pending accepted
      exact Or.inl (by rw [Transfer.Awaits, Transfer.bumped, heq])
  | @attempted setup now xs p hatt result =>
      obtain ⟨rfl, moved⟩ := result.of_cancel pending
      obtain ⟨⟨hlive, hne⟩, rfl⟩ := Transfer.cancel_eq_ok_iff.1 moved
      have herror : r.errorDetail = none :=
        truthful.errorDetail_eq (Transfer.not_isEnding_iff.2 ⟨hlive, hne⟩)
      exact Or.inr ⟨setup, _, hatt, rfl, rfl, Or.inl rfl, herror, rfl⟩

/-- A cancelled transfer stays cancelled. -/
theorem Change.isCancelled (h : Change l' r r') (hr : r.IsCancelled) : r'.IsCancelled := by
  cases h with
  | leased | released => exact ⟨hr.state, hr.errorDetail_eq, hr.pendingCommand_eq⟩
  | @signalled x q accepted =>
      have hframe := Transfer.accept_frame accepted
      have hcalm := Transfer.pendingCommand_of_accept hr.isEnding hr.pendingCommand_eq accepted
      refine ⟨?_, ?_, hcalm⟩
      · rw [Transfer.bumped, hframe]
        exact hr.state
      · rw [Transfer.bumped, hframe]
        exact hr.errorDetail_eq
  | @attempted setup now xs p _ result =>
      obtain ⟨herror, hstate⟩ := result.of_isEnding hr.isEnding
      refine ⟨?_, herror.trans hr.errorDetail_eq, result.pendingCommand_eq⟩
      rcases hstate with hsame | ⟨-, hlast⟩
      · exact hsame ▸ hr.state
      · exact Or.inr hlast

end Ledger

namespace World

/-- The cancellation of a record waits: the record stands, and the other commands are refused. -/
structure AwaitsCancellation (w : World) (r : Transfer) : Prop where
  stored : ∃ r', w.find? r.id = some r' ∧ r.Awaits r'
  refuses : ∀ x, x = .suspend ∨ x = .resume → (SiteM.deliver r.id x w.site).1 =
    .error (.refused (.wrongState r.state .cancellationPending))

/-- By an action, an attempt on the record of an id is written back that turns it to
termination. -/
def TurnsToTermination (w : World) (a : Action) (id : String) : Prop :=
  ∃ r setup p, w.find? id = some r ∧ (w.act a).ledger.Attempted setup r [] p ∧
    (w.act a).find? id = some (p.written r) ∧ p.state = .terminating

/-- The transfer of an id is terminated or about to be, without a reason. -/
def HasCancelled (w : World) (id : String) : Prop := ∃ r, w.find? id = some r ∧ r.IsCancelled

variable {w : World}

theorem hasCancelled_run (hw : w.Sound) {id : String} (h : w.HasCancelled id)
    (actions : List Action) : (w.run actions).HasCancelled id := by
  refine run_induction (P := fun l => ∃ r, l.transfers.find? id = some r ∧ r.IsCancelled)
    (fun hl hturn => ?_) hw h actions
  rintro ⟨r, hr, hcancelled⟩
  rcases Ledger.find?_turn hl hturn hr with hr' | ⟨r', hr', hchange⟩
  · exact ⟨r, hr', hcancelled⟩
  · exact ⟨r', hr', hchange.isCancelled hcancelled⟩

/-- A record that stands with its cancellation waiting refuses the other commands. -/
theorem awaitsCancellation_of_stored (hw : w.Sound) {r r' : Transfer}
    (pending : r.pendingCommand = some .cancel) (live : ¬ r.IsEnding)
    (hr' : w.find? r.id = some r') (h : r.Awaits r') : w.AwaitsCancellation r := by
  refine ⟨⟨r', hr', h⟩, ?_⟩
  intro x hx
  have hstate : r'.state = r.state := by rw [h]
  have hpending : r'.pendingCommand = some .cancel := by rw [h]; exact pending
  have hlive : ¬ r'.IsEnding := by rwa [Transfer.IsEnding, hstate]
  have hrefused := Transfer.accept_of_cancel_pending hpending hlive hx
  have hsignal : w.site.transfers.signal r.id x =
      .error (.rejected (.wrongState r.state .cancellationPending)) := by
    rw [Transfers.signal, show w.site.transfers.find? r.id = some r' from hr']
    simp only [hrefused, hstate]
  rcases SiteM.deliver_spec hw.calm r.id x with ⟨p, t, htaken, -⟩ | ⟨e, hrefusal, hanswer, -⟩
  · rw [hsignal] at htaken
    cases htaken
  · rw [hsignal] at hrefusal
    cases hrefusal
    exact hanswer

/-- While a cancellation waits, an action leaves it waiting, or writes back the attempt that
follows it. -/
theorem act_of_awaits (hw : w.Sound) {r r' : Transfer} (pending : r.pendingCommand = some .cancel)
    (truthful : r.IsTruthful) (hr' : w.find? r.id = some r') (h : r.Awaits r') (a : Action) :
    (∃ q, (w.act a).find? r.id = some q ∧ r.Awaits q) ∨
      (w.TurnsToTermination a r.id ∧ (w.act a).HasCancelled r.id) := by
  have hpending : r'.pendingCommand = some .cancel := by rw [h]; exact pending
  have htruthful : r'.IsTruthful := by
    rw [h]
    exact ⟨truthful.ending_of_errorDetail, truthful.calm_of_ending⟩
  rcases Ledger.find?_turn hw.ledger (turns_act hw.calm a).1 hr' with hq | ⟨q, hq, hchange⟩
  · exact Or.inl ⟨r', hq, h⟩
  · rcases hchange.of_cancel_pending hpending htruthful with
      hawaits | ⟨setup, p, hatt, rfl, hstate, hcancelled⟩
    · exact Or.inl ⟨q, hq, h.trans hawaits⟩
    · exact Or.inr ⟨⟨r', setup, p, hr', hatt, hq, hstate⟩, ⟨_, hq, hcancelled⟩⟩

/-- What goes on while a cancellation waits, and how the wait ends. -/
theorem awaits_or_cancelled_run (hw : w.Sound) {r r' : Transfer}
    (pending : r.pendingCommand = some .cancel) (truthful : r.IsTruthful)
    (hr' : w.find? r.id = some r') (h : r.Awaits r') (after : List Action) :
    Throughout (·.AwaitsCancellation r) w after ∨
      ∃ first a last, after = first ++ a :: last ∧
        Throughout (·.AwaitsCancellation r) w first ∧
        (w.run first).TurnsToTermination a r.id ∧
        Throughout (·.HasCancelled r.id) ((w.run first).act a) last := by
  have live : ¬ r.IsEnding := fun ending => by
    rw [truthful.calm_of_ending ending] at pending
    cases pending
  induction after generalizing w r' with
  | nil => exact Or.inl (throughout_nil_iff.2 (awaitsCancellation_of_stored hw pending live hr' h))
  | cons a rest ih =>
      have hnow : w.AwaitsCancellation r := awaitsCancellation_of_stored hw pending live hr' h
      have hact : (w.act a).Sound := sound_act hw a
      rcases act_of_awaits hw pending truthful hr' h a with
        ⟨q, hq, hawaits⟩ | ⟨hturn, hcancelled⟩
      · rcases ih hact hq hawaits with hall | ⟨first, b, last, rfl, hfirst, hturn, hlast⟩
        · exact Or.inl (throughout_cons_iff.2 ⟨hnow, hall⟩)
        · exact Or.inr ⟨a :: first, b, last, rfl, throughout_cons_iff.2 ⟨hnow, hfirst⟩, hturn,
            hlast⟩
      · exact Or.inr ⟨[], a, rest, rfl, throughout_nil_iff.2 hnow, hturn,
          fun some _ => hasCancelled_run hact hcancelled some⟩

/-- **An accepted cancellation wins.**  Let a signal to cancel a transfer leave it with that
command waiting, after any run and before any other.  The transfer has not ended then, and no
reason for a failure is given.  All through the second run the record keeps its state, its command
and everything but the report on the flow, the lease and the version, and refuses to be suspended
or resumed; or it does so until an attempt on it is written back that turns it to termination, and
from then on it is terminated or about to be, without a reason, to the end of the run. -/
theorem cancellation_wins (now : Instant) (capacity : Nat) (liveness : Option Int)
    (before after : List Action) (id : String) (r : Transfer) :
    let w := ((start now capacity liveness).run before).act (.deliver id .cancel)
    w.find? id = some r → r.pendingCommand = some .cancel →
    (r.state.isTerminal = false ∧ r.errorDetail = none) ∧
      (Throughout (·.AwaitsCancellation r) w after ∨
        ∃ first a last, after = first ++ a :: last ∧
          Throughout (·.AwaitsCancellation r) w first ∧
          (w.run first).TurnsToTermination a id ∧
          Throughout (·.HasCancelled id) ((w.run first).act a) last) := by
  intro w hr pending
  have hrun : w = (start now capacity liveness).run (before ++ [.deliver id .cancel]) :=
    (run_append _ before [.deliver id .cancel]).symm
  have hw : w.Sound := sound_act (sound_run (sound_start now capacity liveness) before) _
  have truthful : r.IsTruthful := by
    have hall := Ledger.everywhere_run Ledger.isTruthful_invariant now capacity liveness
      (before ++ [.deliver id .cancel])
    rw [← hrun] at hall
    exact hall.records id r hr
  obtain rfl : r.id = id := Transfers.id_of_find? hw.ledger.isKeyed hr
  have live : ¬ r.IsEnding := fun ending => by
    rw [truthful.calm_of_ending ending] at pending
    cases pending
  obtain ⟨hlive, hne⟩ := Transfer.not_isEnding_iff.1 live
  refine ⟨⟨hlive, ?_⟩, awaits_or_cancelled_run hw pending truthful hr rfl after⟩
  by_cases herror : r.errorDetail = none
  · exact herror
  · rcases truthful.ending_of_errorDetail herror with hstate | hstate
    · exact absurd hstate hne
    · exact absurd (hlive.symm.trans (by rw [hstate]; rfl)) Bool.false_ne_true

/-- The cancellation comes while a worker waits for the other side to take the opening message.
The answer is accepted, too late: the attempt is abandoned, and the next one cancels. -/
theorem cancellation_wins_over_accepted_opening :
    let request : DataRequest :=
      ⟨"r", "a", "s", "c", "http://c", "p", ⟨"blob", []⟩, ⟨"http", []⟩, []⟩
    let setup : Setup := ⟨.ofHost "h", .standard⟩
    let oracle : (q : Inquiry) → q.Answer
      | .judge _ _ => Decision.deny []
      | .select _ => Except.error .clock
      | .find _ => Except.ok none
    let reply : (c : Call) → Option c.Answer
      | .send _ => some (Except.ok ())
      | .policy _ | .start _ _ | .poll _ _ => none
    let before : List Action := [.create "t" .consumer request, .claim setup "w",
      .advance 0 oracle, .advance 0 oracle, .claim setup "w", .advance 1 oracle, .advance 1 oracle]
    let after : List Action := [.answer 1 reply, .advance 1 oracle, .advance 1 oracle,
      .claim setup "w", .advance 2 oracle, .advance 2 oracle, .advance 2 oracle]
    let w := ((start ⟨0⟩ 16 none).run before).act (.deliver "t" .cancel)
    let r : Transfer := { Transfer.create "t" .consumer request ⟨0⟩ with
      state := .requesting, pendingCommand := some .cancel
      lease := some ⟨"w", ⟨60000000000⟩⟩, version := 4 }
    w.find? "t" = some r ∧ r.pendingCommand = some .cancel ∧
      ((w.run after).find? "t").map (·.state) = some .terminating ∧
      (Throughout (·.AwaitsCancellation r) w after ∨
        ∃ first a last, after = first ++ a :: last ∧
          Throughout (·.AwaitsCancellation r) w first ∧
          (w.run first).TurnsToTermination a "t" ∧
          Throughout (·.HasCancelled "t") ((w.run first).act a) last) := by
  intro request setup oracle reply before after w r
  have hr : w.find? "t" = some r := by decide +kernel
  have hlast : ((w.run after).find? "t").map (·.state) = some .terminating := by decide +kernel
  have hlaw := cancellation_wins ⟨0⟩ 16 none before after "t" r hr rfl
  exact ⟨hr, rfl, hlast, hlaw.2⟩

end World
end Connector
