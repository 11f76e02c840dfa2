import Connector.Proofs.Transfer.Claimability
import Connector.Proofs.World.Access
import Connector.Proofs.World.Coherence

/-!
# Live transfers stay claimable

A lease ends by itself, and so does the time for which a record is to be left alone.  Suspension
does not: for that a signal is needed, and what the signal leaves must not have to wait.  So it has
to be known that a suspended record has no instant to wait for.  Statements:

* `isReady_invariant` — a suspended record has nothing to wait for;
* `isClaimable_of_accept` — after a pressing signal a record may be claimed as soon as it is free;
* `live_stay_claimable` — from when on a live record may be claimed, and what signals do to that.
-/

namespace Connector

namespace Transfer

variable {r q : Transfer} {x : Signal} {t : Instant}

/-- A suspended record has no instant to wait for. -/
def IsReady (r : Transfer) : Prop := r.state = .suspended → r.retryAt = none

/-- A passage leads to suspension only without a wait. -/
theorem Passes.isReady {s : Step} {now : Instant} (h : r.Passes s now q) : q.IsReady := by
  intro hstate
  obtain ⟨rfl, -⟩ := State.next?_eq_suspended (hstate ▸ h.edge)
  exact h.retryAt_eq (by simp)

/-- A signal that is not to wait for the instant of a record: a cancellation, the command that ends
a suspension, or the report on a flow that is tracked. -/
def IsPressing (r : Transfer) : Signal → Prop
  | .cancel => True
  | .suspend => False
  | .resume => r.state = .suspended ∧ r.pendingCommand = none
  | .completion _ _ => r.state = .started

/-- A pressing signal that is taken leaves a live record that is urgent, or has nothing to wait
for. -/
theorem of_accept_isPressing (ready : r.IsReady) (pressing : r.IsPressing x)
    (accepted : r.accept x = .ok (some q)) :
    q.IsLive ∧ (q.isUrgent = true ∨ q.retryAt = none) := by
  cases x with
  | cancel =>
      obtain ⟨live, -, rfl⟩ := accept_cancel_iff.1 accepted
      exact ⟨⟨(not_isEnding_iff.1 live).1, by simp [withCommand]⟩,
        Or.inl (by simp [isUrgent, withCommand])⟩
  | suspend => exact pressing.elim
  | resume =>
      obtain ⟨hstate, hnone⟩ := pressing
      rcases accept_resume_iff.1 accepted with ⟨hpending, -⟩ | ⟨-, -, rfl⟩
      · cases hnone.symm.trans hpending
      · exact ⟨⟨by simp [withCommand, hstate, State.isTerminal], by simp [withCommand]⟩,
          Or.inr (ready hstate)⟩
  | completion handle outcome =>
      have hstate : r.state = .started := pressing
      obtain ⟨going, -, -, rfl⟩ := accept_completion_iff.1 accepted
      exact ⟨⟨going, by simp [hstate]⟩, Or.inl (by simp [isUrgent, hstate])⟩

/-- After such a signal a record may be claimed as soon as it is free. -/
theorem isClaimable_of_accept (ready : r.IsReady) (pressing : r.IsPressing x)
    (accepted : r.accept x = .ok (some q)) (free : q.IsFreeAt t) :
    q.bumped.isClaimable t = true := by
  obtain ⟨⟨going, commanded⟩, hsoon⟩ := of_accept_isPressing ready pressing accepted
  refine isClaimable_iff.2 ⟨⟨going, commanded⟩, free, hsoon.imp_right fun hnone at' hat => ?_⟩
  cases hnone.symm.trans hat

end Transfer

/-- Nothing that happens leaves a suspended record to be waited for. -/
theorem Ledger.isReady_invariant : IsInvariant fun _ r => r.IsReady where
  created l id role request now _ := nofun
  stays _ h := h
  changed _ h hchange := by
    cases hchange with
    | leased | released => exact h
    | signalled accepted =>
        rw [Transfer.bumped, Transfer.accept_frame accepted]
        exact h
    | attempted _ result =>
        rcases result.passes_or_idle with ⟨s, u, hpasses, -⟩ | ⟨rfl, -⟩
        · exact hpasses.isReady
        · exact h

namespace World

variable {w : World} {id : String} {r q : Transfer} {x : Transfer.Signal}

/-- A signal that is taken is stored at once. -/
theorem find?_act_deliver (hw : w.Sound) (hr : w.find? id = some r)
    (accepted : r.accept x = .ok (some q)) :
    (w.act (.deliver id x)).find? id = some q.bumped := by
  have taken := Transfers.signal_eq_ok_iff.2 ⟨r, hr, Or.inr ⟨q, accepted, rfl, rfl⟩⟩
  have htransfers : (w.act (.deliver id x)).site.transfers = _ :=
    (transfers_act hw.calm _).trans (Transfers.apply_signal_of_ok taken)
  rw [find?, htransfers]
  exact Table.get?_put_self _ _ _

/-- **No live transfer becomes unclaimable for good.**  In every run a record that is neither at its
end nor suspended without a command may be claimed from when on it is neither on lease nor to be
waited for; and what may be claimed stays so for as long as it is left alone.  After a cancellation,
after the command that ends a suspension, and after the report on a flow that is tracked, the record
may be claimed as soon as it is not on lease, however long it was to be waited for. -/
theorem live_stay_claimable (now : Instant) (capacity : Nat) (liveness : Option Int)
    (actions : List Action) :
    let w := (start now capacity liveness).run actions
    ∀ id r, w.find? id = some r →
      (r.IsLive → (∀ t, r.IsFreeAt t → r.IsDueAt t → r.isClaimable t = true) ∧
        ∀ t u, t ≤ u → r.isClaimable t = true → r.isClaimable u = true) ∧
      ∀ x q, r.IsPressing x → r.accept x = .ok (some q) →
        (w.act (.deliver id x)).find? id = some q.bumped ∧
          ∀ t, q.bumped.IsFreeAt t → q.bumped.isClaimable t = true := by
  intro w id r hr
  have hw : w.Sound := sound_run (sound_start now capacity liveness) actions
  have hall := Ledger.everywhere_run Ledger.isReady_invariant now capacity liveness actions
  have ready : r.IsReady := hall.records id r hr
  refine ⟨fun live => ⟨fun t free due => ?_, fun t u later h => ?_⟩, fun x q pressing accepted => ?_⟩
  · exact Transfer.isClaimable_iff.2 ⟨live, free, Or.inr due⟩
  · exact Transfer.isClaimable_mono h later
  · exact ⟨find?_act_deliver hw hr accepted, fun t free =>
      Transfer.isClaimable_of_accept ready pressing accepted free⟩

/-- A transfer that failed to be opened is to be left alone for a second.  It may be claimed from
then on; once it is cancelled, at once. -/
theorem live_stay_claimable_after_failure :
    let request : DataRequest :=
      ⟨"r", "a", "s", "c", "http://c", "p", ⟨"blob", []⟩, ⟨"http", []⟩, []⟩
    let setup : Setup := ⟨.ofHost "h", .standard⟩
    let oracle : (q : Inquiry) → q.Answer
      | .judge _ _ => Decision.deny []
      | .select _ => Except.error .clock
      | .find _ => Except.ok none
    let actions : List Action := [.create "t" .consumer request,
      .claim setup "w", .advance 0 oracle, .advance 0 oracle,
      .claim setup "w", .advance 1 oracle, .advance 1 oracle, .answer 1 fun _ => none,
      .advance 1 oracle, .advance 1 oracle]
    let w := (start ⟨0⟩ 16 none).run actions
    ∃ r, w.find? "t" = some r ∧ r.retryAt = some ⟨1000000000⟩ ∧ r.isClaimable ⟨0⟩ = false ∧
      r.isClaimable ⟨1000000000⟩ = true ∧
      ∃ q, (w.act (.deliver "t" .cancel)).find? "t" = some q ∧
        q.retryAt = some ⟨1000000000⟩ ∧ q.isClaimable ⟨0⟩ = true := by
  intro request setup oracle actions w
  have hfacts : (w.find? "t").any (fun r => r.retryAt = some ⟨1000000000⟩ ∧
      r.isClaimable ⟨0⟩ = false ∧ r.lease = none ∧ r.state = .requesting ∧
      r.pendingCommand = none) = true := by decide +kernel
  obtain ⟨r, hr, hr_facts⟩ := (Option.any_eq_true _ _).1 hfacts
  obtain ⟨hretry, hearly, hlease, hstate, hpending⟩ := of_decide_eq_true hr_facts
  obtain ⟨hlive, hsignals⟩ := live_stay_claimable ⟨0⟩ 16 none actions "t" r hr
  have accepted : r.accept .cancel = .ok (some (r.withCommand .cancel)) :=
    Transfer.accept_cancel_iff.2 ⟨by simp [Transfer.IsEnding, hstate, Transfer.State.isTerminal],
      by simp [hpending], rfl⟩
  obtain ⟨hstored, hsoon⟩ := hsignals .cancel _ trivial accepted
  obtain ⟨hthen, -⟩ := hlive ⟨by rw [hstate]; rfl, by simp [hstate]⟩
  refine ⟨r, hr, hretry, hearly, ?_, _, hstored, hretry, ?_⟩
  · refine hthen ⟨1000000000⟩ (fun lease hl => ?_) fun u hu => ?_
    · cases hlease.symm.trans hl
    · cases hretry.symm.trans hu
      exact Int.le_refl _
  · refine hsoon ⟨0⟩ fun lease hl => ?_
    cases hlease.symm.trans hl

end World
end Connector
