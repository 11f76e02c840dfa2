import Connector.Proofs.Worker.Progress
import Connector.Proofs.World.Records

/-!
# No transfer is stuck

An attempt that is refused is not written back, so that a record on which every attempt is refused
would be claimed and given back for ever.  There is no such record: in every run the command of a
record suits its state, and a suspended record knows where to come back to.  Statements:

* `isCoherent_invariant` — no turn makes a record that does not fit together;
* `actionable_run` — what was handed out is a record on which there is something to do;
* `attempts_succeed` — whoever claims a record, and whatever is answered, the attempt takes it one
  step along the state graph.
-/

namespace Connector

/-- Being on lease makes no difference to what there is to do. -/
theorem Transfer.IsActionable.leased {r : Transfer} (h : r.IsActionable) (c : Claim) :
    (r.leased c).IsActionable :=
  ⟨⟨h.suits, h.suspended⟩, h.live, h.commanded⟩

namespace Ledger

/-- The command of a record suits its state, whatever happens. -/
theorem isCoherent_invariant : IsInvariant fun _ r => r.IsCoherent where
  created l id role request now _ := ⟨by rintro _ ⟨⟩, by rintro ⟨⟩⟩
  stays _ h := h
  changed _ h hchange := by
    cases hchange with
    | leased | released => exact ⟨h.suits, h.suspended⟩
    | signalled accepted =>
        have hq := Transfer.isCoherent_accept h accepted
        exact ⟨hq.suits, hq.suspended⟩
    | attempted _ result =>
        have hp := result.isCoherent h
        exact ⟨hp.suits, hp.suspended⟩

/-- On every record that was handed out there was something to do. -/
def HandsOutActionable (l : Ledger) : Prop := ∀ j ∈ l.jobs, j.claimed.IsActionable

variable {l l' : Ledger} {a : Action}

/-- On what a claim hands out there is something to do. -/
theorem isActionable_of_mem_claim (hl : l.Sound) (hall : l.Everywhere fun _ r => r.IsCoherent)
    {setup : Setup} {holder : String} {p : Transfer} (hp : p ∈ (l.claimOf setup holder).1) :
    p.IsActionable := by
  obtain ⟨r, hr, rfl⟩ := Transfers.mem_claim_iff.1 hp
  obtain ⟨hstored, -, claimable⟩ := Transfers.mem_chosen hr
  have hcoherent := hall.records r.id r ((Transfers.mem_values_iff hl.isKeyed).1 hstored)
  exact (Transfer.isActionable_of_isClaimable hcoherent claimable).leased _

theorem handsOutActionable_turn (hl : l.Sound) (h : l.Turn a l')
    (hall : l.Everywhere fun _ r => r.IsCoherent) (hjobs : l.HandsOutActionable) :
    l'.HandsOutActionable := by
  intro j' hj'
  rcases h.jobs hj' with hj | ⟨j, hj, step⟩ | ⟨setup, holder, p, hp, -, rfl⟩
  · exact hjobs j' hj
  · rw [step.continues.claimed_eq]
    exact hjobs j hj
  · exact isActionable_of_mem_claim hl hall hp

end Ledger

namespace World

theorem isCoherent_run (now : Instant) (capacity : Nat) (liveness : Option Int)
    (actions : List Action) :
    ((start now capacity liveness).run actions).ledger.Everywhere fun _ r => r.IsCoherent :=
  Ledger.everywhere_run Ledger.isCoherent_invariant now capacity liveness actions

theorem actionable_run (now : Instant) (capacity : Nat) (liveness : Option Int)
    (actions : List Action) :
    ((start now capacity liveness).run actions).ledger.HandsOutActionable := by
  have hboth := run_induction
    (P := fun l => (l.Everywhere fun _ r => r.IsCoherent) ∧ l.HandsOutActionable)
    (fun hl hturn h => ⟨Ledger.everywhere_turn Ledger.isCoherent_invariant hl hturn h.1,
      Ledger.handsOutActionable_turn hl hturn h.1 h.2⟩)
    (sound_start now capacity liveness)
    ⟨isCoherent_run now capacity liveness [], by simp [Ledger.HandsOutActionable, start, ledger]⟩
    actions
  exact hboth.2

/-- A job on a record on which there was something to do is not refused. -/
theorem not_refused_of_isActionable {w : World} (hw : w.Sound) {j : Job} (hj : j ∈ w.jobs)
    (hr : j.claimed.IsActionable) (e : Transfer.Refusal) :
    j.phase ≠ .running (.done (.error (.refused e))) := by
  intro hphase
  obtain ⟨t, hcourse⟩ := (hw.ledger.jobs j hj).reaches_of_running hphase
  exact hcourse.not_refused hr

/-- **No transfer is stuck.**  After every run, whatever record is stored: its command suits its
state, and if it is suspended it knows where to come back to.  Whoever may claim it, there is
something to do on it; and as long as the clock lasts the attempt ends, whatever is answered, with
a record that is one passage along the state graph further.  No attempt of the run is refused. -/
theorem attempts_succeed (now : Instant) (capacity : Nat) (liveness : Option Int)
    (actions : List Action) :
    let w := (start now capacity liveness).run actions
    (∀ id r, w.find? id = some r → r.IsCoherent ∧
      ∀ c : Claim, r.isClaimable c.now = true → (r.leased c).IsActionable ∧
        ∀ setup t, Attempt.IsTimely setup (r.leased c) t →
          Attempt.Ends (Attempt.IsTimely setup (r.leased c))
            (fun x => ∃ p, x = .ok p ∧ ∃ s u, (r.leased c).Passes s u p)
            (.on setup (r.leased c) t)) ∧
    ∀ j ∈ w.jobs, j.claimed.IsActionable ∧
      ∀ e, j.phase ≠ .running (.done (.error (.refused e))) := by
  intro w
  have hw : w.Sound := sound_run (sound_start now capacity liveness) actions
  have hjobs := actionable_run now capacity liveness actions
  refine ⟨?_, fun j hj => ⟨hjobs j hj, not_refused_of_isActionable hw hj (hjobs j hj)⟩⟩
  intro id r hr
  have hcoherent := (isCoherent_run now capacity liveness actions).records id r hr
  refine ⟨hcoherent, fun c claimable => ?_⟩
  have hleased : (r.leased c).IsActionable :=
    (Transfer.isActionable_of_isClaimable hcoherent claimable).leased c
  exact ⟨hleased, fun setup t timely => Attempt.ends_on_passing hleased timely⟩

/-- A transfer was suspended while it was about to be opened, and is to go on. -/
theorem attempts_succeed_on_suspended :
    let request : DataRequest :=
      ⟨"r", "a", "s", "c", "http://c", "p", ⟨"blob", []⟩, ⟨"http", []⟩, []⟩
    let setup : Setup := ⟨.ofHost "h", .standard⟩
    let oracle : (q : Inquiry) → q.Answer
      | .judge _ _ => Decision.deny []
      | .select _ => Except.error .clock
      | .find _ => Except.ok none
    let actions : List Action := [.create "t" .consumer request,
      .claim setup "w", .advance 0 oracle, .advance 0 oracle, .deliver "t" .suspend,
      .claim setup "w", .advance 1 oracle, .advance 1 oracle, .advance 1 oracle,
      .deliver "t" .resume]
    let w := (start ⟨0⟩ 16 none).run actions
    let r : Transfer := { Transfer.create "t" .consumer request ⟨0⟩ with
      state := .suspended, suspendedFrom := some .requesting, pendingCommand := some .resume
      version := 6 }
    let c : Claim := ⟨"v", ⟨0⟩, 60000000000⟩
    w.find? "t" = some r ∧ r.isClaimable c.now = true ∧
      Attempt.IsTimely setup (r.leased c) ⟨0⟩ ∧
      Attempt.Ends (Attempt.IsTimely setup (r.leased c))
        (fun x => ∃ p, x = .ok p ∧ ∃ s u, (r.leased c).Passes s u p)
        (.on setup (r.leased c) ⟨0⟩) ∧
      ∃ j ∈ w.jobs, j.claimed.pendingCommand = some .suspend ∧ j.claimed.IsActionable := by
  intro request setup oracle actions w r c
  have hr : w.find? "t" = some r := by decide +kernel
  have claimable : r.isClaimable c.now = true := by decide +kernel
  have timely : Attempt.IsTimely setup (r.leased c) ⟨0⟩ := ⟨by decide +kernel, by decide +kernel⟩
  have hlaw := attempts_succeed ⟨0⟩ 16 none actions
  have hjob : (w.jobs[1]?.map (·.claimed.pendingCommand)) = some (some .suspend) := by
    decide +kernel
  obtain ⟨j, hj, hpending⟩ := Option.map_eq_some_iff.1 hjob
  have hmem : j ∈ w.jobs := List.mem_of_getElem? hj
  exact ⟨hr, claimable, timely, (((hlaw.1 "t" r hr).2 c claimable).2 setup ⟨0⟩ timely),
    j, hmem, hpending, (hlaw.2 j hmem).1⟩

end World
end Connector
