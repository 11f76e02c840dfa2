import Connector.Proofs.Site.Tidings
import Connector.Proofs.World.Coherence

/-!
# What the tidings mean

Whoever listens to the bus learns of a transfer what was published of it, and nothing else.  What
an action publishes can be told before it, and what it says of an attempt can be read off the
record that was claimed and the one that was written.  Statements:

* `bus_act` — what an action leaves on the bus;
* `followUp_eq_suspended_iff` to `followUp_eq_resumed_iff` — which change of state leads to which
  event;
* `tidings_truthful` — after an attempt the events tell the state that was entered; to have left
  suspension is told as a resumption, be it to go on, be it to be cancelled.
-/

namespace Connector

namespace Job

/-- What a job has written back, and when, as long as nobody was told of it. -/
def untold? (j : Job) : Option (Transfer × Instant) :=
  match j.phase with
  | .persisted p t false => some (p, t)
  | .persisted _ _ true | .fresh | .running _ | .calling _ _ _ | .yielding | .released _ => none

/-- What the next step of a job publishes: the tidings of what was written back, if they are not
told yet. -/
def tidings (j : Job) : List TransferEvent :=
  match j.untold? with
  | some (p, _) => j.claimed.tidings p
  | none => []

theorem untold?_eq_some_iff {j : Job} {p : Transfer} {t : Instant} :
    j.untold? = some (p, t) ↔ j.phase = .persisted p t false := by
  unfold untold?
  cases j.phase with
  | persisted q u isTold => cases isTold <;> simp
  | fresh | running | calling | yielding | released => simp

end Job

namespace World

/-- What an action publishes of transfers. -/
def published (w : World) : Action → List TransferEvent
  | .create id role request =>
      match request.validate with
      | .ok () =>
          if w.find? id = none then [.created id role request.agreementId w.site.now] else []
      | .error _ => []
  | .advance i _ => ((w.job? i).map Job.tidings).getD []
  | .deliver _ _ | .claim _ _ | .answer _ _ | .lose _ | .pass _ | .upkeep _ => []

variable {w : World} {a : Action}

/-- What a job publishes. -/
theorem publishes_onJob {f : Job → SiteM Job} {g : Job → List TransferEvent}
    (h : ∀ j, w.site.Publishes (g j) (f j w.site).2) (i : Nat) :
    w.site.Publishes (((w.job? i).map g).getD []) (w.onJob i f).site := by
  unfold onJob
  cases w.job? i with
  | none => exact .nothing _
  | some j => exact h j

section Calm
variable (calm : w.site.failing = [])
include calm

/-- What the next step of a job publishes. -/
theorem publishes_advance (j : Job) (oracle : (q : Inquiry) → q.Answer) :
    w.site.Publishes j.tidings (j.advance oracle w.site).2 := by
  unfold Job.advance Job.tidings Job.untold?
  cases j.phase with
  | fresh | calling | released => exact .nothing _
  | running rest =>
      cases rest with
      | note => exact SiteM.publishes_note _ _ _ _
      | ask | call => exact .nothing _
      | done result =>
          rcases result with (e | _) | p
          · exact (SiteM.publishes_writeBack calm j.claimed (.error e) :)
          · exact .nothing _
          · have h := SiteM.publishes_writeBack calm j.claimed (.ok p)
            show w.site.Publishes [] (j.writeBack (.ok p) w.site).2
            unfold Job.writeBack
            cases hp : (SiteM.writeBack j.claimed (.ok p) w.site).1 with
            | none =>
                rw [SiteM.bind_eq (Prod.ext hp rfl)]
                exact h
            | some q =>
                rw [SiteM.bind_eq (Prod.ext hp rfl)]
                exact h
  | yielding => exact SiteM.publishes_conclude_none calm j.claimed j.holder
  | persisted p t isTold =>
      cases isTold with
      | false => exact SiteM.publishes_conclude_some j.claimed j.holder p _
      | true => exact .nothing _

/-- **What an action leaves on the bus** is what it publishes of transfers, unless it is about
something else. -/
theorem bus_act (hother : ∀ f, a ≠ .upkeep f) :
    w.site.Publishes (w.published a) (w.act a).site := by
  cases a with
  | create id role request =>
      simp only [act, published]
      cases request.validate with
      | error e => exact .nothing _
      | ok u => exact SiteM.publishes_openTransfer calm id role request
  | deliver id x => exact SiteM.publishes_deliver calm id x
  | claim setup holder =>
      have hsite : (w.claim setup holder).site = (SiteM.openCycle setup holder w.site).2 := by
        unfold claim
        split
        · rename_i heq
          rw [heq]
        · rename_i heq
          rw [heq]
      show w.site.Publishes [] (w.claim setup holder).site
      rw [hsite]
      exact SiteM.publishes_openCycle calm setup holder
  | advance i oracle => exact publishes_onJob (fun j => publishes_advance calm j oracle) i
  | answer i reply =>
      have hnone : ∀ j : Job, w.site.Publishes [] (j.answer reply w.site).2 := by
        intro j
        unfold Job.answer
        cases j.phase <;> exact .nothing _
      have h := publishes_onJob (g := fun _ => []) hnone i
      cases hjob : w.job? i <;> rw [hjob] at h <;> exact h
  | lose i =>
      have h := publishes_onJob (w := w) (f := fun j => j.lose) (g := fun _ => [])
        (fun _ => .nothing _) i
      cases hjob : w.job? i <;> rw [hjob] at h <;> exact h
  | pass t => exact .nothing _
  | upkeep f => exact absurd rfl (hother f)

end Calm
end World

/-! ## Which change leads to which event -/

section FollowUp
open SiteM
variable {prior : Transfer.State} {p : Transfer} {id : String} {u : Instant}

theorem followUp_eq_suspended_iff {s : Transfer.State} :
    followUp prior p = some (.suspended id s u) ↔
      prior ≠ .suspended ∧ p.state = .suspended ∧ id = p.id ∧ s = prior ∧
        u = p.stateTimestamp := by
  unfold followUp
  split <;> grind

theorem followUp_eq_completed_iff :
    followUp prior p = some (.completed id u) ↔
      prior ≠ .completed ∧ p.state = .completed ∧ id = p.id ∧ u = p.stateTimestamp := by
  unfold followUp
  split <;> grind

theorem followUp_eq_terminated_iff {detail : Option String} :
    followUp prior p = some (.terminated id detail u) ↔
      prior ≠ .terminated ∧ p.state = .terminated ∧ id = p.id ∧ detail = p.errorDetail ∧
        u = p.stateTimestamp := by
  unfold followUp
  split <;> grind

theorem followUp_eq_resumed_iff {s : Transfer.State} :
    followUp prior p = some (.resumed id s u) ↔
      prior = .suspended ∧ p.state ≠ .suspended ∧ p.state ≠ .completed ∧
        p.state ≠ .terminated ∧ id = p.id ∧ s = p.state ∧ u = p.stateTimestamp := by
  unfold followUp
  split <;> grind

end FollowUp

namespace Transfer

variable {r p : Transfer} {s : Step} {t : Instant}

/-- From suspension a transfer goes back to where it was suspended, or turns to termination; either
of them is told as a resumption. -/
theorem Passes.resumes_iff (h : r.Passes s t p) :
    (r.state = .suspended ∧ p.state ≠ .suspended ∧ p.state ≠ .completed ∧
        p.state ≠ .terminated) ↔
      r.state = .suspended ∧ (r.suspendedFrom = some p.state ∨ p.state = .terminating) := by
  refine and_congr_right fun hstate => ?_
  have hedge := h.edge
  rw [hstate] at hedge
  rcases State.next?_suspended hedge with hterm | rfl
  · simp [hterm]
  · obtain ⟨-, canSuspend, -⟩ := State.next?_resume_iff.1 hedge
    refine ⟨fun _ => Or.inl (h.resumes _ rfl), fun _ => ?_⟩
    refine ⟨?_, ?_, ?_⟩ <;>
    · intro hp
      rw [hp] at canSuspend
      cases canSuspend

/-- What is suspended by a passage was not suspended before. -/
theorem Passes.state_ne_of_suspended (h : r.Passes s t p) (hp : p.state = .suspended) :
    r.state ≠ .suspended := by
  intro hstate
  obtain ⟨-, canSuspend⟩ := State.next?_eq_suspended (hp ▸ h.edge)
  rw [hstate] at canSuspend
  cases canSuspend

/-- All tidings are about the transfer that was written. -/
theorem transferId_of_mem_tidings {e : TransferEvent} (he : e ∈ r.tidings p) :
    e.transferId = p.id := by
  unfold tidings at he
  split at he
  · cases he
  · rw [List.mem_cons, Option.mem_toList] at he
    rcases he with rfl | he
    · rfl
    · cases e with
      | created | stateChanged => exact absurd he (by unfold SiteM.followUp; grind)
      | suspended => exact (followUp_eq_suspended_iff.1 he).2.2.1
      | resumed => exact (followUp_eq_resumed_iff.1 he).2.2.2.2.1
      | completed => exact (followUp_eq_completed_iff.1 he).2.2.1
      | terminated => exact (followUp_eq_terminated_iff.1 he).2.2.1

section Tidings
variable (moved : p.stateTimestamp ≠ r.stateTimestamp)
include moved

/-- The tidings are the change of state and what follows from it. -/
theorem tidings_of_moved : r.tidings p =
    .stateChanged p.id r.state p.state p.stateCount p.stateTimestamp ::
      (SiteM.followUp r.state p).toList :=
  if_neg moved

theorem Passes.tells_suspended (h : r.Passes s t p) :
    (∃ prior u, .suspended p.id prior u ∈ r.tidings p) ↔ p.state = .suspended := by
  simp only [tidings_of_moved moved, List.mem_cons, Option.mem_toList, reduceCtorEq, false_or,
    followUp_eq_suspended_iff]
  exact ⟨fun ⟨_, _, _, hp, _⟩ => hp,
    fun hp => ⟨_, _, h.state_ne_of_suspended hp, hp, trivial, rfl, rfl⟩⟩

theorem Passes.tells_resumed (h : r.Passes s t p) :
    (∃ next u, .resumed p.id next u ∈ r.tidings p) ↔
      r.state = .suspended ∧ (r.suspendedFrom = some p.state ∨ p.state = .terminating) := by
  simp only [tidings_of_moved moved, List.mem_cons, Option.mem_toList, reduceCtorEq, false_or,
    followUp_eq_resumed_iff]
  rw [← h.resumes_iff]
  exact ⟨fun ⟨_, _, hs, h₁, h₂, h₃, _⟩ => ⟨hs, h₁, h₂, h₃⟩,
    fun ⟨hs, h₁, h₂, h₃⟩ => ⟨_, _, hs, h₁, h₂, h₃, trivial, rfl, rfl⟩⟩

theorem tells_completed (live : r.state.isTerminal = false) :
    (∃ u, .completed p.id u ∈ r.tidings p) ↔ p.state = .completed := by
  simp only [tidings_of_moved moved, List.mem_cons, Option.mem_toList, reduceCtorEq, false_or,
    followUp_eq_completed_iff]
  refine ⟨fun ⟨_, _, hp, _⟩ => hp, fun hp => ⟨_, ?_, hp, trivial, rfl⟩⟩
  rintro hstate
  rw [hstate] at live
  cases live

theorem tells_terminated (live : r.state.isTerminal = false) :
    (∃ detail u, .terminated p.id detail u ∈ r.tidings p) ↔ p.state = .terminated := by
  simp only [tidings_of_moved moved, List.mem_cons, Option.mem_toList, reduceCtorEq, false_or,
    followUp_eq_terminated_iff]
  refine ⟨fun ⟨_, _, _, hp, _⟩ => hp, fun hp => ⟨_, _, ?_, hp, trivial, rfl, rfl⟩⟩
  rintro hstate
  rw [hstate] at live
  cases live

end Tidings
end Transfer

namespace World

/-- What the step after the writing of an attempt publishes. -/
theorem published_of_persisted {w : World} {i : Nat} {j : Job} {p : Transfer} {t : Instant}
    (hjob : w.job? i = some j) (hphase : j.phase = .persisted p t false)
    (oracle : (q : Inquiry) → q.Answer) :
    w.published (.advance i oracle) = j.claimed.tidings p := by
  show ((w.job? i).map Job.tidings).getD [] = _
  rw [hjob, Option.map_some, Option.getD_some, Job.tidings, Job.untold?_eq_some_iff.2 hphase]

/-- **The tidings tell the state that was entered.**  After any run, let the attempt of a job be
written back, and let the state of the transfer be entered at another instant than before.  Then
the next step of the job puts its tidings on the bus, all of them about this transfer: of a
suspension exactly if the transfer is suspended now, of completion exactly if it is completed, of
termination exactly if it is terminated; and of a resumption exactly if it has left suspension,
either back to the state where it was suspended or, by a cancellation, to termination. -/
theorem tidings_truthful (now : Instant) (capacity : Nat) (liveness : Option Int)
    (actions : List Action) (i : Nat) (j : Job) (p : Transfer) (t : Instant)
    (oracle : (q : Inquiry) → q.Answer) :
    let w := (start now capacity liveness).run actions
    let es := w.published (.advance i oracle)
    w.job? i = some j → j.phase = .persisted p t false →
    p.stateTimestamp ≠ j.claimed.stateTimestamp →
    (w.act (.advance i oracle)).site.bus = w.site.bus.tellAll es ∧
    (∀ e ∈ es, e.transferId = p.id) ∧
    ((∃ prior u, .suspended p.id prior u ∈ es) ↔ p.state = .suspended) ∧
    ((∃ u, .completed p.id u ∈ es) ↔ p.state = .completed) ∧
    ((∃ detail u, .terminated p.id detail u ∈ es) ↔ p.state = .terminated) ∧
    ((∃ next u, .resumed p.id next u ∈ es) ↔ j.claimed.state = .suspended ∧
      (j.claimed.suspendedFrom = some p.state ∨ p.state = .terminating)) := by
  intro w es hjob hphase moved
  have hw : w.Sound := sound_run (sound_start now capacity liveness) actions
  have hmem : j ∈ w.jobs := List.mem_of_getElem? (job?_eq_some_iff.1 hjob).1
  have hactionable := actionable_run now capacity liveness actions j hmem
  have hatt : w.ledger.Attempted j.setup j.claimed j.exchanges p :=
    ⟨j, hmem, rfl, rfl, rfl, t, false, hphase⟩
  obtain ⟨_, result⟩ := hatt.result hw.ledger
  obtain ⟨s, u, hpasses⟩ := result.passes hactionable
  have hes : es = j.claimed.tidings p := published_of_persisted hjob hphase oracle
  refine ⟨bus_act hw.calm (by simp), ?_⟩
  rw [hes]
  exact ⟨fun e => Transfer.transferId_of_mem_tidings, hpasses.tells_suspended moved,
    Transfer.tells_completed moved hactionable.live,
    Transfer.tells_terminated moved hactionable.live, hpasses.tells_resumed moved⟩

/-- A transfer that is about to be opened is suspended. -/
theorem tidings_truthful_of_suspension :
    let request : DataRequest :=
      ⟨"r", "a", "s", "c", "http://c", "p", ⟨"blob", []⟩, ⟨"http", []⟩, []⟩
    let setup : Setup := ⟨.ofHost "h", .standard⟩
    let oracle : (q : Inquiry) → q.Answer
      | .judge _ _ => Decision.deny []
      | .select _ => Except.error .clock
      | .find _ => Except.ok none
    let actions : List Action := [.create "t" .consumer request,
      .claim setup "w", .advance 0 oracle, .advance 0 oracle, .deliver "t" .suspend,
      .pass ⟨1⟩, .claim setup "w", .advance 1 oracle, .advance 1 oracle, .advance 1 oracle]
    let w := (start ⟨0⟩ 16 none).run actions
    let es := w.published (.advance 1 oracle)
    ∃ j p, w.job? 1 = some j ∧ j.phase = .persisted p ⟨1⟩ false ∧
      p.stateTimestamp ≠ j.claimed.stateTimestamp ∧ p.state = .suspended ∧
      ∃ prior u, .suspended p.id prior u ∈ es := by
  intro request setup oracle actions w es
  have hjob : (w.job? 1).any (fun j => j.untold?.any fun x => decide (x.2 = ⟨1⟩ ∧
      x.1.stateTimestamp ≠ j.claimed.stateTimestamp ∧ x.1.state = .suspended)) = true := by
    decide +kernel
  obtain ⟨j, hj, hj_untold⟩ := (Option.any_eq_true _ _).1 hjob
  obtain ⟨⟨p, t⟩, huntold, hp⟩ := (Option.any_eq_true _ _).1 hj_untold
  obtain ⟨rfl, moved, suspended⟩ := of_decide_eq_true hp
  have hphase := Job.untold?_eq_some_iff.1 huntold
  have hlaw := tidings_truthful ⟨0⟩ 16 none actions 1 j p ⟨1⟩ oracle hj hphase moved
  exact ⟨j, p, hj, hphase, moved, suspended, hlaw.2.2.1.2 suspended⟩

/-- A suspended transfer is cancelled, and that is told as a resumption, though the transfer does
not go back to the state where it was suspended. -/
theorem resumed_of_cancellation :
    let request : DataRequest :=
      ⟨"r", "a", "s", "c", "http://c", "p", ⟨"blob", []⟩, ⟨"http", []⟩, []⟩
    let setup : Setup := ⟨.ofHost "h", .standard⟩
    let oracle : (q : Inquiry) → q.Answer
      | .judge _ _ => Decision.deny []
      | .select _ => Except.error .clock
      | .find _ => Except.ok none
    let actions : List Action := [.create "t" .consumer request,
      .claim setup "w", .advance 0 oracle, .advance 0 oracle, .deliver "t" .suspend,
      .pass ⟨1⟩, .claim setup "w", .advance 1 oracle, .advance 1 oracle, .advance 1 oracle,
      .advance 1 oracle, .deliver "t" .cancel,
      .pass ⟨2⟩, .claim setup "w", .advance 2 oracle, .advance 2 oracle, .advance 2 oracle]
    let w := (start ⟨0⟩ 16 none).run actions
    (w.find? "t").map (fun r => (r.state, r.suspendedFrom)) =
        some (.terminating, some .requesting) ∧
      w.published (.advance 2 oracle) =
        [.stateChanged "t" .suspended .terminating 0 ⟨2⟩, .resumed "t" .terminating ⟨2⟩] := by
  decide +kernel

end World
end Connector
