import Connector.Proofs.Config.Validation
import Connector.Proofs.Store.Waiting
import Connector.Proofs.Time.Horizon
import Connector.Proofs.Worker.Overrun
import Connector.Proofs.World.Coherence
import Connector.Proofs.World.Dated
import Mathlib.Data.List.Infix

/-!
# The end of the clock

Whoever works at modern times computes with instants that are modern, and with spans from the
configuration.  A claim cycle breaks off exactly where one of these spans outruns the clock: the
lease as a batch is claimed, the delay before an attempt is made again, and the wait before a flow
is asked about again.  What counts is that all instants of a run are modern, those of the answers
and of the flows included (`Ledger.IsModern`).  Statements:

* `SiteM.openCycle_eq_clock_iff` — when a claim cycle cannot be opened;
* `Attempt.lasts_modern_iff` — when an attempt cannot break off;
* `Ledger.isModern_turn` — modern times keep what is known modern;
* `World.breaks_off_iff_outruns` — a claim cycle breaks off exactly where a span outruns the clock.
-/

namespace Connector

namespace SiteM

variable {s : Site}

/-- A claim cycle breaks off as it opens if there is something to claim, and the lease would end
beyond the clock. -/
theorem openCycle_eq_clock_iff (calm : s.failing = []) (c : Setup) (holder : String) :
    (openCycle c holder s).1 = .error .clock ↔
      (s.transfers.claim Transfer.State.actionable c.orchestration.batchSize
        (claimOf c holder s.now)).1 ≠ [] ∧ (claimOf c holder s.now).expiresAt.inRange = false := by
  rcases openCycle_cases calm c holder with ⟨hsome, hrange, heq⟩ | ⟨hopens, heq⟩ <;> rw [heq]
  · exact iff_of_true rfl ⟨hsome, hrange⟩
  · refine iff_of_false nofun fun h => ?_
    exact hopens.elim h.1 fun hrange => by cases hrange.symm.trans h.2

end SiteM

namespace Attempt

/-- A span that an attempt may need outruns the clock: the delay before it is made again, from some
modern instant, or the wait before its flow is asked about again. -/
def Overruns (c : Setup) (r : Transfer) (now : Instant) : Prop :=
  (MayRetry c r ∧ ∃ t : Instant, t.IsModern ∧
    (c.orchestration.retry.delay r.stateCount).Outruns t) ∨
  (Polls c r now ∧ c.orchestration.statusPollInterval.Outruns now)

/-- At modern times an attempt cannot break off, whatever is answered, exactly if no span that it
may need outruns the clock. -/
theorem lasts_modern_iff {c : Setup} {r : Transfer} {now : Instant} (modern : now.IsModern) :
    Lasts Instant.IsModern (on c r now) ↔ ¬ Overruns c r now := by
  rw [lasts_on_iff modern]
  constructor
  · rintro ⟨hretry, hpoll⟩ (⟨may, t, ht, houtruns⟩ | ⟨polls, houtruns⟩)
    · exact (Span.isSome_later?_iff ht).1 (hretry may t ht) houtruns
    · exact (Span.isSome_later?_iff modern).1 (hpoll polls) houtruns
  · intro h
    refine ⟨fun may t ht => (Span.isSome_later?_iff ht).2 fun houtruns => ?_,
      fun polls => (Span.isSome_later?_iff modern).2 fun houtruns => ?_⟩
    · exact h (Or.inl ⟨may, t, ht, houtruns⟩)
    · exact h (Or.inr ⟨polls, houtruns⟩)

end Attempt

namespace Job

/-- If the attempt breaks off at the end of the clock, then because a span outran it. -/
def BreaksOffRightly (j : Job) (x : Except AttemptFault Transfer) : Prop :=
  x = .error .clock → ∃ b : Instant, b.IsModern ∧ Attempt.Overruns j.setup j.claimed b

/-- The answers came at modern times, and whatever else is answered at modern times, the attempt
breaks off for one reason only. -/
structure IsModern (j : Job) : Prop where
  answered : ∀ c answer t, .call c answer t ∈ j.exchanges → t.IsModern
  ends : match j.phase with
    | .running rest => Attempt.Ends Instant.IsModern j.BreaksOffRightly rest
    | .calling c _ next => Attempt.Ends Instant.IsModern j.BreaksOffRightly (.call c next)
    | .fresh | .yielding | .persisted _ _ _ | .released _ => True

variable {now : Instant} {s t : Transfers} {j j' : Job}

/-- An attempt that begins at a modern time breaks off for that reason only. -/
theorem ends_begun (modern : now.IsModern) :
    Attempt.Ends Instant.IsModern j.BreaksOffRightly (.on j.setup j.claimed now) := by
  by_cases h : Attempt.Overruns j.setup j.claimed now
  · exact Attempt.ends_of_forall (fun _ _ => ⟨now, modern, h⟩) _
  · exact ((Attempt.lasts_modern_iff modern).2 h).imp fun _ _ _ hne heq => absurd heq hne

theorem Step.isModern (h : j.Step now s j' t) (modern : now.IsModern) (hj : j.IsModern) :
    j'.IsModern := by
  refine ⟨fun c answer u hx => ?_, ?_⟩
  · rcases h.mem_exchanges hx with hx | ⟨since, next, -, rfl, -⟩
    · exact hj.answered c answer u hx
    · exact modern
  · have hends := hj.ends
    cases h with
    | begun phase_eq => exact ends_begun modern
    | noted phase_eq =>
        rw [phase_eq] at hends
        exact Attempt.ends_note_iff.1 hends
    | asked phase_eq =>
        rw [phase_eq] at hends
        exact Attempt.ends_ask_iff.1 hends _
    | placed phase_eq =>
        rw [phase_eq] at hends
        exact hends
    | answered phase_eq =>
        rw [phase_eq] at hends
        exact Attempt.ends_call_iff.1 hends _ _ modern
    | failed | persisted | abandoned | told | released => exact trivial
    | lost => exact hends

/-- Whether the attempt has broken off at the end of the clock. -/
def brokeOff (j : Job) : Bool :=
  match j.phase with
  | .running (.done (.error .clock)) => true
  | _ => false

theorem brokeOff_iff : j.brokeOff = true ↔ j.phase = .running (.done (.error .clock)) := by
  unfold brokeOff
  constructor
  · intro h
    split at h
    · assumption
    · cases h
  · intro h
    rw [h]

/-- An attempt of modern times that has broken off at the end of the clock did so because a span
outran it. -/
theorem IsModern.overruns (h : j.IsModern) (broken : j.brokeOff = true) :
    ∃ b : Instant, b.IsModern ∧ Attempt.Overruns j.setup j.claimed b := by
  have hends := h.ends
  rw [brokeOff_iff.1 broken] at hends
  exact Attempt.ends_done_iff.1 hends rfl

end Job

namespace Ledger

/-- Nothing that is known is of another time. -/
structure IsModern (l : Ledger) : Prop where
  jobs : ∀ j ∈ l.jobs, j.IsModern
  records : ∀ id r, l.transfers.find? id = some r → ∀ flow, r.dataFlow = some flow →
    flow.startedAt.IsModern

variable {l l' : Ledger} {a : Action}

/-- **Modern times.**  A turn at a modern time keeps what is known modern. -/
theorem isModern_turn (hl : l.Sound) (h : l.Turn a l') (modern : l.now.IsModern)
    (known : l.IsModern) : l'.IsModern := by
  have hjobs : ∀ j ∈ l'.jobs, j.IsModern := by
    intro j' hj'
    rcases h.jobs hj' with hj | ⟨j, hj, step⟩ | ⟨setup, holder, p, hp, -, rfl⟩
    · exact known.jobs j' hj
    · exact step.isModern modern (known.jobs j hj)
    · exact ⟨fun c answer t hx => absurd hx List.not_mem_nil, trivial⟩
  refine ⟨hjobs, fun id r' hr' flow hflow => ?_⟩
  cases hr : l.transfers.find? id with
  | none =>
      obtain ⟨role, request, -, rfl⟩ := find?_turn_of_eq_none hl h hr hr'
      cases hflow
  | some r =>
      rcases find?_turn hl h hr with hsame | ⟨q, hq, hchange⟩
      · cases hr'.symm.trans hsame
        exact known.records id r' hr flow hflow
      · cases hr'.symm.trans hq
        rcases hchange.dataFlow_cases with heq | ⟨_, _, _, c, answer, t, hatt, hx, hstart⟩
        · exact known.records id r hr flow (heq ▸ hflow)
        · obtain ⟨j, hj, -, -, rfl, -⟩ := hatt
          rw [hstart flow hflow]
          exact (hjobs j hj).answered c answer t hx

end Ledger

namespace World

/-- In modern times nothing of another time is ever known. -/
theorem isModern_run {w : World} (hw : w.Sound) (known : w.ledger.IsModern)
    {actions : List Action} (modern : Throughout (·.site.now.IsModern) w actions) :
    (w.run actions).ledger.IsModern := by
  induction actions generalizing w with
  | nil => exact known
  | cons a rest ih =>
      obtain ⟨hnow, hrest⟩ := throughout_cons_iff.1 modern
      obtain ⟨hturn, -⟩ := turns_act hw.calm a
      exact ih (sound_act hw a) (Ledger.isModern_turn hw.ledger hturn hnow known) hrest

/-- There is something to claim exactly if a record can be claimed. -/
theorem claim_ne_nil_iff {w : World} (hw : w.Sound) {setup : Setup} (holder : String)
    (hbatch : setup.orchestration.batchSize ≠ 0) :
    (w.ledger.claimOf setup holder).1 ≠ [] ↔
      ∃ id r, w.find? id = some r ∧ r.isClaimable w.site.now = true := by
  constructor
  · intro h
    obtain ⟨q, hq⟩ := List.exists_mem_of_ne_nil _ h
    obtain ⟨r, hr, -⟩ := Transfers.mem_claim_iff.1 hq
    obtain ⟨hstored, -, claimable⟩ := Transfers.mem_chosen hr
    exact ⟨r.id, r, (Transfers.mem_values_iff hw.ledger.isKeyed).1 hstored, claimable⟩
  · rintro ⟨id, r, hr, claimable⟩
    have hkeyed := hw.isKeyed
    have hcandidate : r ∈ w.site.transfers.candidates Transfer.State.actionable
        (SiteM.claimOf setup holder w.site.now) :=
      (Transfers.mem_candidates_iff hkeyed).2
        ⟨(Transfers.id_of_find? hkeyed hr).symm ▸ hr,
          Transfer.mem_actionable_of_isClaimable claimable, claimable⟩
    intro hnil
    have hchosen : w.site.transfers.chosen Transfer.State.actionable setup.orchestration.batchSize
        (SiteM.claimOf setup holder w.site.now) = [] := List.map_eq_nil_iff.1 hnil
    have hlength := Transfers.length_chosen w.site.transfers Transfer.State.actionable
      setup.orchestration.batchSize (SiteM.claimOf setup holder w.site.now)
    have hpos := List.length_pos_of_mem hcandidate
    rw [hchosen, List.length_nil] at hlength
    omega

/-- **Where claim cycles break off.**  At every point of a run at modern times: a span leads to an
instant that the clock covers unless it outruns the clock, and the age of a flow is always a
distance that can be.  A claim cycle under a configuration in order cannot be opened exactly if
some record can be claimed and the lease outruns the clock.  An attempt cannot break off, whatever
is answered, exactly if no span that it may need outruns the clock, and every attempt of the run
that did break off may need such a span. -/
theorem breaks_off_iff_outruns (m : Config.Manifest) (valid : m.validate = .ok ())
    (now : Instant) (capacity : Nat) (liveness : Option Int) (actions : List Action)
    (modern : Throughout (·.site.now.IsModern) (start now capacity liveness) actions) :
    let setup : Setup := ⟨m.spec.connector, m.spec.orchestrator⟩
    let w := (start now capacity liveness).run actions
    (∀ d : Span, (w.site.now.later? d.toDistance).isSome = true ↔ ¬ d.Outruns w.site.now) ∧
    (∀ id r flow, w.find? id = some r → r.dataFlow = some flow →
      -Span.longestDistance ≤ w.site.now.since flow.startedAt ∧
        w.site.now.since flow.startedAt ≤ Span.longestDistance) ∧
    (∀ holder, (SiteM.openCycle setup holder w.site).1 = .error .clock ↔
      (∃ id r, w.find? id = some r ∧ r.isClaimable w.site.now = true) ∧
        m.spec.orchestrator.leaseDuration.Outruns w.site.now) ∧
    (∀ r : Transfer, Attempt.Lasts Instant.IsModern (.on setup r w.site.now) ↔
      ¬ Attempt.Overruns setup r w.site.now) ∧
    ∀ j ∈ w.jobs, j.brokeOff = true →
      ∃ b : Instant, b.IsModern ∧ Attempt.Overruns j.setup j.claimed b := by
  intro setup w
  have hw : w.Sound := sound_run (sound_start now capacity liveness) actions
  have hnow : w.site.now.IsModern := modern actions List.prefix_rfl
  have hstart : (start now capacity liveness).ledger.IsModern :=
    ⟨by simp [start, ledger], fun id r hr => by cases hr⟩
  have hknown : w.ledger.IsModern :=
    isModern_run (sound_start now capacity liveness) hstart modern
  refine ⟨fun d => Span.isSome_later?_iff hnow, fun id r flow hr hflow => ?_, fun holder => ?_,
    fun r => Attempt.lasts_modern_iff hnow, fun j hj => (hknown.jobs j hj).overruns⟩
  · exact Instant.since_bounds hnow.inRange (hknown.records id r hr flow hflow).inRange
  · rw [SiteM.openCycle_eq_clock_iff hw.calm]
    have hlease : (SiteM.claimOf setup holder w.site.now).expiresAt.inRange = false ↔
        m.spec.orchestrator.leaseDuration.Outruns w.site.now :=
      Instant.later?_eq_none_iff.symm.trans (Span.later?_eq_none_iff hnow)
    exact and_congr
      (claim_ne_nil_iff hw holder (Config.batchSize_ne_zero_of_validate valid)) hlease

/-- The first attempt to open a transfer gets no answer, and is to be made again after 270000
years: the cycles of the run could be opened, but the attempt has broken off. -/
theorem breaks_off_of_long_delay :
    let years : Span := .seconds (270000 * 31557600)
    let standard := Config.Manifest.standard "h"
    let m : Config.Manifest := { standard with spec := { standard.spec with
      orchestrator := { standard.spec.orchestrator with retry := ⟨5, years, years⟩ } } }
    let setup : Setup := ⟨m.spec.connector, m.spec.orchestrator⟩
    let request : DataRequest :=
      ⟨"r", "a", "s", "c", "http://c", "p", ⟨"blob", []⟩, ⟨"http", []⟩, []⟩
    let oracle : (q : Inquiry) → q.Answer
      | .judge _ _ => Decision.deny []
      | .select _ => Except.error .clock
      | .find _ => Except.ok none
    let now : Instant := ⟨1800000000000000000⟩
    let actions : List Action := [.create "t" .consumer request, .claim setup "w",
      .advance 0 oracle, .advance 0 oracle, .claim setup "w", .advance 1 oracle,
      .advance 1 oracle, .answer 1 fun _ => none, .advance 1 oracle]
    let w := (start now 16 none).run actions
    m.validate = .ok () ∧
      (∀ holder, (SiteM.openCycle setup holder w.site).1 ≠ .error .clock) ∧
      ∃ j ∈ w.jobs, j.brokeOff = true ∧
        ∃ b : Instant, b.IsModern ∧ Attempt.Overruns j.setup j.claimed b := by
  intro years standard m setup request oracle now actions
  -- The world is written out, for otherwise it is evaluated where it is compared.
  show m.validate = .ok () ∧
    (∀ holder, (SiteM.openCycle ⟨m.spec.connector, m.spec.orchestrator⟩ holder
      ((start now 16 none).run actions).site).1 ≠ .error .clock) ∧
    ∃ j ∈ ((start now 16 none).run actions).jobs, j.brokeOff = true ∧
      ∃ b : Instant, b.IsModern ∧ Attempt.Overruns j.setup j.claimed b
  have valid : m.validate = .ok () := by
    have hfault : m.fault? = none := by decide +kernel
    rw [Config.Manifest.validate, hfault]
  have modern : Throughout (·.site.now.IsModern) (start now 16 none) actions := by
    have hall : ∀ first ∈ actions.inits,
        ((start now 16 none).run first).site.now.IsModern := by decide +kernel
    exact fun first hfirst => hall first ((List.mem_inits _ _).2 hfirst)
  obtain ⟨-, -, hopen, -, hjobs⟩ :=
    breaks_off_iff_outruns m valid now 16 none actions modern
  have hlease : ¬ m.spec.orchestrator.leaseDuration.Outruns
      ((start now 16 none).run actions).site.now := by decide +kernel
  have hbroken : (((start now 16 none).run actions).jobs[1]?.map Job.brokeOff) = some true := by
    decide +kernel
  obtain ⟨j, hj, broken⟩ := Option.map_eq_some_iff.1 hbroken
  have hmem := List.mem_of_getElem? hj
  exact ⟨valid, fun holder h => hlease ((hopen holder).1 h).2, j, hmem, broken,
    hjobs j hmem broken⟩

/-- A configuration in order, a modern time and a transfer that was just created: with a lease of
270000 years the first claim cycle breaks off, as the end of the lease is beyond the clock. -/
theorem openCycle_of_long_lease :
    let standard := Config.Manifest.standard "h"
    let m : Config.Manifest := { standard with spec := { standard.spec with
      orchestrator := { standard.spec.orchestrator with
        leaseDuration := .seconds (270000 * 31557600) } } }
    let setup : Setup := ⟨m.spec.connector, m.spec.orchestrator⟩
    let request : DataRequest :=
      ⟨"r", "a", "s", "c", "http://c", "p", ⟨"blob", []⟩, ⟨"http", []⟩, []⟩
    let now : Instant := ⟨1800000000000000000⟩
    let w := (start now 16 none).run [.create "t" .consumer request]
    m.validate = .ok () ∧ now.IsModern ∧
      (SiteM.openCycle setup "w" w.site).1 = .error .clock := by
  intro standard m setup request now w
  have valid : m.validate = .ok () := by
    have hfault : m.fault? = none := by decide +kernel
    rw [Config.Manifest.validate, hfault]
  have hsome : (w.site.transfers.claim Transfer.State.actionable setup.orchestration.batchSize
      (SiteM.claimOf setup "w" w.site.now)).1.isEmpty = false := by decide +kernel
  have hbeyond : (SiteM.claimOf setup "w" w.site.now).expiresAt.inRange = false := by
    decide +kernel
  have hw : w.Sound := sound_run (sound_start now 16 none) _
  refine ⟨valid, by decide +kernel,
    (SiteM.openCycle_eq_clock_iff hw.calm setup "w").2 ⟨?_, hbeyond⟩⟩
  intro hnil
  rw [hnil] at hsome
  cases hsome

end World
end Connector
