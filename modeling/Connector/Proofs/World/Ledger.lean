import Connector.Proofs.Site.Access
import Connector.Proofs.World.Basic

/-!
# What an action does to the records

Of a world only the time, the records and the jobs matter to the records.  What an action can do
to these three is said once, by `Turn`, and every fact about runs follows from it.  Statements:

* `turns_act` — every action of a world is a turn of its ledger.
-/

namespace Connector

/-- A step of a job, and the records that it leaves. -/
inductive Job.Step (now : Instant) (s : Transfers) (j : Job) : Job → Transfers → Prop where
  | begun (phase_eq : j.phase = .fresh) :
      Step now s j (j.inPhase (.running (.on j.setup j.claimed now))) s
  | noted {n : Note} {rest : Attempt} (phase_eq : j.phase = .running (.note n rest)) :
      Step now s j (j.inPhase (.running rest)) s
  | asked {q : Inquiry} {next : q.Answer → Attempt} {answer : q.Answer}
      (phase_eq : j.phase = .running (.ask q next)) :
      Step now s j (j.exchanged (.inquiry q answer) (next answer)) s
  | placed {c : Call} {next : Option c.Answer → Instant → Attempt}
      (phase_eq : j.phase = .running (.call c next)) :
      Step now s j (j.inPhase (.calling c now next)) s
  | answered {c : Call} {since : Instant} {next : Option c.Answer → Instant → Attempt}
      {answer : Option c.Answer} (phase_eq : j.phase = .calling c since next) :
      Step now s j (j.exchanged (.call c answer now) (next answer now)) s
  | failed {e : Transfer.Refusal} (phase_eq : j.phase = .running (.done (.error (.refused e)))) :
      Step now s j (j.inPhase .yielding) s
  | persisted {p : Transfer} {t : Transfers} (phase_eq : j.phase = .running (.done (.ok p)))
      (taken : s.update p = .ok t) : Step now s j (j.inPhase (.persisted p now false)) t
  | abandoned {p : Transfer} {e : StoreFault} (phase_eq : j.phase = .running (.done (.ok p)))
      (refused : s.update p = .error e) : Step now s j (j.inPhase .yielding) s
  | told {p : Transfer} {t : Instant} (phase_eq : j.phase = .persisted p t false) :
      Step now s j (j.inPhase (.persisted p t true)) s
  | released (phase_eq : j.phase = .yielding) :
      Step now s j (j.inPhase (.released now)) (s.release j.claimed.id j.holder)
  | lost : Step now s j { j with lostAt := some now } s

/-- What of a world matters to the records. -/
structure Ledger where
  now : Instant
  transfers : Transfers
  jobs : List Job

namespace Ledger

/-- The claim of a worker. -/
def claimOf (l : Ledger) (setup : Setup) (holder : String) : List Transfer × Transfers :=
  l.transfers.claim Transfer.State.actionable setup.orchestration.batchSize
    (SiteM.claimOf setup holder l.now)

/-- What an action can do. -/
inductive Turn (l : Ledger) : Action → Ledger → Prop where
  /-- It has no effect. -/
  | still (a : Action) : Turn l a l
  | created {id : String} {role : Transfer.Role} {request : DataRequest} {t : Transfers}
      (valid : request.validate = .ok ())
      (added : l.transfers.create (.create id role request l.now) = .ok t) :
      Turn l (.create id role request) { l with transfers := t }
  | signalled {id : String} {x : Transfer.Signal} {p : Transfer} {t : Transfers}
      (taken : l.transfers.signal id x = .ok (p, t)) :
      Turn l (.deliver id x) { l with transfers := t }
  | claimed {setup : Setup} {holder : String} :
      Turn l (.claim setup holder)
        { l with
          transfers := (l.claimOf setup holder).2
          jobs := l.jobs ++ (l.claimOf setup holder).1.map (.fresh setup holder l.now) }
  | worked {a : Action} {i : Nat} {j j' : Job} {t : Transfers} (found : l.jobs[i]? = some j)
      (present : j.lostAt = none) (step : j.Step l.now l.transfers j' t) :
      Turn l a { l with transfers := t, jobs := l.jobs.set i j' }
  | passed (t : Instant) : Turn l (.pass t) { l with now := t }

end Ledger

namespace World

/-- What of the world matters to the records. -/
def ledger (w : World) : Ledger := ⟨w.site.now, w.site.transfers, w.jobs⟩

/-- A turn that leaves no access arranged to fail. -/
def Turns (w : World) (a : Action) (w' : World) : Prop :=
  w.ledger.Turn a w'.ledger ∧ w'.site.failing = []

variable {w : World}

/-- A turn is told by a site that agrees with what is left. -/
theorem turns_of_agrees {a : Action} {s s' : Site} {jobs : List Job} (h : s.Agrees s')
    (hturn : w.Turns a ⟨s, jobs⟩) : w.Turns a ⟨s', jobs⟩ := by
  obtain ⟨hledger, hcalm⟩ := hturn
  have heq : World.ledger ⟨s', jobs⟩ = World.ledger ⟨s, jobs⟩ := by
    simp only [ledger, h.now_eq, h.transfers_eq]
  exact ⟨heq ▸ hledger, h.failing_eq.trans hcalm⟩

theorem job?_eq_some_iff {i : Nat} {j : Job} :
    w.job? i = some j ↔ w.jobs[i]? = some j ∧ j.lostAt = none := by
  simp [job?, Option.filter_eq_some_iff]

section Actions
variable (calm : w.site.failing = [])
include calm

theorem turns_still (a : Action) : w.Turns a w := ⟨.still a, calm⟩

section Jobs
variable {a : Action} {i : Nat} {j : Job} (found : w.jobs[i]? = some j) (present : j.lostAt = none)
include found present

theorem turns_step {j' : Job} {t : Transfers} (step : j.Step w.site.now w.site.transfers j' t) :
    w.Turns a ⟨{ w.site with transfers := t }, w.jobs.set i j'⟩ :=
  ⟨.worked found present step, calm⟩

/-- A job that has nothing to do is left as it is. -/
theorem turns_same : w.Turns a ⟨w.site, w.jobs.set i j⟩ := by
  have heq : w.jobs.set i j = w.jobs := by
    obtain ⟨h, rfl⟩ := List.getElem?_eq_some_iff.1 found
    exact List.set_getElem_self h
  rw [heq]
  exact turns_still calm a

theorem turns_writeBack {p : Transfer} (phase_eq : j.phase = .running (.done (.ok p))) :
    w.Turns a ⟨(j.writeBack (.ok p) w.site).2, w.jobs.set i (j.writeBack (.ok p) w.site).1⟩ := by
  rcases SiteM.writeBack_spec calm j.claimed p with ⟨t, hupdate, hp, h⟩ | ⟨e, hupdate, hp, h⟩
  · have heq : j.writeBack (.ok p) w.site = (j.inPhase (.persisted p _ false), _) :=
      SiteM.bind_eq (Prod.ext hp rfl)
    rw [heq, h.now_eq]
    exact turns_of_agrees h (turns_step calm found present (.persisted phase_eq hupdate))
  · have heq : j.writeBack (.ok p) w.site = (j.inPhase .yielding, _) :=
      SiteM.bind_eq (Prod.ext hp rfl)
    rw [heq]
    exact turns_of_agrees h (turns_step calm found present (.abandoned phase_eq hupdate))

theorem turns_perform {rest : Attempt} (oracle : (q : Inquiry) → q.Answer)
    (phase_eq : j.phase = .running rest) :
    w.Turns a ⟨(j.perform oracle rest w.site).2,
      w.jobs.set i (j.perform oracle rest w.site).1⟩ := by
  cases rest with
  | note n rest =>
      exact turns_of_agrees (SiteM.agrees_note _ _ _ _)
        (turns_step calm found present (.noted phase_eq))
  | ask q next => exact turns_step calm found present (.asked phase_eq)
  | call c next => exact turns_step calm found present (.placed phase_eq)
  | done result =>
      rcases result with (e | _) | p
      · exact turns_of_agrees (SiteM.agrees_note _ _ _ _)
          (turns_step calm found present (.failed phase_eq))
      · exact turns_step calm found present .lost
      · exact turns_writeBack calm found present phase_eq

/-- The next step of a job is a turn. -/
theorem turns_advance (oracle : (q : Inquiry) → q.Answer) :
    w.Turns a ⟨(j.advance oracle w.site).2, w.jobs.set i (j.advance oracle w.site).1⟩ := by
  unfold Job.advance
  cases hphase : j.phase with
  | fresh => exact turns_step calm found present (.begun hphase)
  | running rest => exact turns_perform calm found present oracle hphase
  | calling c since next => exact turns_same calm found present
  | yielding =>
      have h := SiteM.conclude_none_spec calm j.claimed j.holder
      have hturn : w.Turns a ⟨_, w.jobs.set i (j.inPhase (.released w.site.now))⟩ :=
        turns_of_agrees h (turns_step calm found present (.released hphase))
      rw [← h.now_eq] at hturn
      exact hturn
  | persisted p t isTold =>
      cases isTold with
      | false =>
          exact turns_of_agrees (SiteM.agrees_conclude_some j.claimed j.holder p)
            (turns_step calm found present (.told hphase))
      | true => exact turns_same calm found present
  | released t => exact turns_same calm found present

/-- The answer to a call is a turn. -/
theorem turns_answer (reply : (c : Call) → Option c.Answer) :
    w.Turns a ⟨(j.answer reply w.site).2, w.jobs.set i (j.answer reply w.site).1⟩ := by
  unfold Job.answer
  cases hphase : j.phase with
  | calling c since next => exact turns_step calm found present (.answered hphase)
  | fresh | running | yielding | persisted | released => exact turns_same calm found present

end Jobs

/-- What a job does is a turn if it is one for the job that is there. -/
theorem turns_onJob {a : Action} {i : Nat} {f : Job → SiteM Job}
    (h : ∀ j, w.jobs[i]? = some j → j.lostAt = none →
      w.Turns a ⟨(f j w.site).2, w.jobs.set i (f j w.site).1⟩) : w.Turns a (w.onJob i f) := by
  unfold onJob
  cases hj : w.job? i with
  | none => exact turns_still calm a
  | some j =>
      obtain ⟨found, present⟩ := job?_eq_some_iff.1 hj
      exact h j found present

/-- A worker's claim is a turn. -/
theorem turns_claim (setup : Setup) (holder : String) :
    w.Turns (.claim setup holder) (w.claim setup holder) := by
  have heq : SiteM.openCycle setup holder w.site =
    ((SiteM.openCycle setup holder w.site).1, (SiteM.openCycle setup holder w.site).2) := rfl
  unfold claim
  rcases SiteM.openCycle_spec calm setup holder with ⟨batch, hresult, rfl, h⟩ | ⟨hresult, h⟩
  · rw [hresult] at heq
    rw [heq]
    exact turns_of_agrees h ⟨.claimed, calm⟩
  · rw [hresult] at heq
    rw [heq]
    exact turns_of_agrees h (turns_still calm _)

/-- **Every action is a turn.** -/
theorem turns_act (a : Action) : w.Turns a (w.act a) := by
  cases a with
  | create id role request =>
      simp only [act]
      cases hvalid : request.validate with
      | error e => exact turns_still calm _
      | ok _ =>
          rcases SiteM.openTransfer_spec calm id role request with ⟨t, hadded, h⟩ | ⟨e, -, h⟩
          · exact turns_of_agrees h ⟨.created hvalid hadded, calm⟩
          · exact turns_of_agrees h (turns_still calm _)
  | deliver id x =>
      rcases SiteM.deliver_spec calm id x with ⟨p, t, htaken, -, h⟩ | ⟨e, -, -, h⟩
      · exact turns_of_agrees h ⟨.signalled htaken, calm⟩
      · exact turns_of_agrees h (turns_still calm _)
  | claim setup holder => exact turns_claim calm setup holder
  | advance i oracle =>
      exact turns_onJob calm fun j found present => turns_advance calm found present oracle
  | answer i reply =>
      exact turns_onJob calm fun j found present => turns_answer calm found present reply
  | lose i =>
      exact turns_onJob calm fun j found present => turns_step calm found present .lost
  | pass t => exact ⟨.passed t, calm⟩
  | upkeep f => exact ⟨.still _, calm⟩

end Actions
end World
end Connector
