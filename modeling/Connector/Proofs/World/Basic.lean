import Connector.Proofs.Worker.Course
import Connector.Site.Service
import Connector.Worker.Cycle

/-!
# A connector in the world

Any number of workers share a site with those who start transfers and send signals.  What they do
interleaves: a job is the attempt of one worker on one transfer that it claimed, and goes on in
small steps, between which everybody else may act.  Whom an attempt asks may answer anything, or
nothing in time; time may pass, even backwards; and a worker may be lost with its job.

A run is a list of actions.  An action that cannot happen leaves the world as it is, so that every
list of actions is a run.  No job is ever taken off the list of jobs, which is therefore also the
record of what was attempted, in the order of the claims.
-/

namespace Connector

/-- How far a job is. -/
inductive Job.Phase where
  /-- The transfer was claimed; the attempt has not begun. -/
  | fresh
  | running (rest : Attempt)
  /-- Waiting for an answer since an instant. -/
  | calling (c : Call) (since : Instant) (next : Option c.Answer → Instant → Attempt)
  /-- The result was not written back; the lease is still to be given back. -/
  | yielding
  /-- The result was written back at an instant. -/
  | persisted (p : Transfer) (t : Instant) (isTold : Bool)
  /-- The lease was given back at an instant. -/
  | released (t : Instant)

/-- The attempt of a worker on a transfer. -/
structure Job where
  setup : Setup
  holder : String
  /-- The record as it was handed out. -/
  claimed : Transfer
  claimedAt : Instant
  /-- What was asked and answered so far. -/
  exchanges : List Exchange
  phase : Job.Phase
  /-- When the worker was lost, if it was. -/
  lostAt : Option Instant

namespace Job

/-- The job on a record that was just handed out. -/
def fresh (setup : Setup) (holder : String) (now : Instant) (p : Transfer) : Job :=
  ⟨setup, holder, p, now, [], .fresh, none⟩

/-- The job in another phase. -/
def inPhase (j : Job) (phase : Phase) : Job := { j with phase := phase }

/-- The job after one more exchange. -/
def exchanged (j : Job) (x : Exchange) (rest : Attempt) : Job :=
  { j with exchanges := j.exchanges ++ [x], phase := .running rest }

/-- Loses the worker. -/
def lose (j : Job) : SiteM Job := do return { j with lostAt := some (← get).now }

/-- Writes the result of the attempt back. -/
def writeBack (j : Job) (result : Except Transfer.Refusal Transfer) : SiteM Job := do
  match ← SiteM.writeBack j.claimed result with
  | some p => return j.inPhase (.persisted p (← get).now false)
  | none => return j.inPhase .yielding

/-- The next step of an attempt; inquiries are answered by an oracle.  An instant beyond the clock
is the end of the worker. -/
def perform (j : Job) (oracle : (q : Inquiry) → q.Answer) : Attempt → SiteM Job
  | .note n rest => do
      SiteM.note n.level n.message n.fields
      return j.inPhase (.running rest)
  | .ask q next => return j.exchanged (.inquiry q (oracle q)) (next (oracle q))
  | .call c next => return j.inPhase (.calling c (← get).now next)
  | .done (.ok p) => j.writeBack (.ok p)
  | .done (.error (.refused e)) => j.writeBack (.error e)
  | .done (.error .clock) => j.lose

/-- The next step of a job that waits for nobody. -/
def advance (j : Job) (oracle : (q : Inquiry) → q.Answer) : SiteM Job := do
  match j.phase with
  | .fresh => return j.inPhase (.running (.on j.setup j.claimed (← get).now))
  | .running rest => j.perform oracle rest
  | .yielding =>
      let _ ← SiteM.conclude j.claimed j.holder none
      return j.inPhase (.released (← get).now)
  | .persisted p t false =>
      let _ ← SiteM.conclude j.claimed j.holder (some p)
      return j.inPhase (.persisted p t true)
  | .calling _ _ _ | .persisted _ _ true | .released _ => return j

/-- A call is answered; nothing is the answer when the wait is over. -/
def answer (j : Job) (reply : (c : Call) → Option c.Answer) : SiteM Job := do
  match j.phase with
  | .calling c _ next =>
      let now := (← get).now
      return j.exchanged (.call c (reply c) now) (next (reply c) now)
  | _ => return j

/-- The call that the next step of a job places. -/
def placing? (j : Job) : Option Call :=
  match j.phase with
  | .running (.call c _) => some c
  | _ => none

/-- The calls of a job: the answered ones, and the one under way. -/
def calls (j : Job) : List Call :=
  Exchange.calls j.exchanges ++
    match j.phase with
    | .calling c _ _ => [c]
    | _ => []

end Job

/-- A site, and the attempts that were made at it. -/
structure World where
  site : Site
  jobs : List Job

/-- What may happen next. -/
inductive Action where
  /-- Somebody starts a transfer; the id is drawn somehow. -/
  | create (id : String) (role : Transfer.Role) (request : DataRequest)
  /-- Somebody sends a signal. -/
  | deliver (id : String) (x : Transfer.Signal)
  /-- A worker claims a batch. -/
  | claim (setup : Setup) (holder : String)
  /-- A job goes on by itself. -/
  | advance (i : Nat) (oracle : (q : Inquiry) → q.Answer)
  /-- A job gets an answer, or waits no longer. -/
  | answer (i : Nat) (reply : (c : Call) → Option c.Answer)
  /-- A worker is lost. -/
  | lose (i : Nat)
  /-- It is another time now. -/
  | pass (t : Instant)
  /-- Something happens to the site that does not concern the records. -/
  | upkeep (f : Site → Site)

namespace World

/-- A new connector, before anything happened. -/
def start (now : Instant) (capacity : Nat) (liveness : Option Int) : World :=
  ⟨.create now capacity liveness, []⟩

/-- The record of an id. -/
def find? (w : World) (id : String) : Option Transfer := w.site.transfers.find? id

/-- The job of a number, unless its worker was lost. -/
def job? (w : World) (i : Nat) : Option Job := w.jobs[i]?.filter (·.lostAt.isNone)

/-- Lets a job do something. -/
def onJob (w : World) (i : Nat) (f : Job → SiteM Job) : World :=
  match w.job? i with
  | some j => ⟨(f j w.site).2, w.jobs.set i (f j w.site).1⟩
  | none => w

/-- A worker claims a batch, and has a job on every record it gets. -/
def claim (w : World) (setup : Setup) (holder : String) : World :=
  match SiteM.openCycle setup holder w.site with
  | (.ok (.ok batch), site) => ⟨site, w.jobs ++ batch.map (.fresh setup holder w.site.now)⟩
  | (_, site) => ⟨site, w.jobs⟩

/-- The world after an action. -/
def act (w : World) : Action → World
  | .create id role request =>
      match request.validate with
      | .ok () => { w with site := (SiteM.openTransfer id role request w.site).2 }
      | .error _ => w
  | .deliver id x => { w with site := (SiteM.deliver id x w.site).2 }
  | .claim setup holder => w.claim setup holder
  | .advance i oracle => w.onJob i fun j => j.advance oracle
  | .answer i reply => w.onJob i fun j => j.answer reply
  | .lose i => w.onJob i fun j => j.lose
  | .pass t => { w with site := { w.site with now := t } }
  | .upkeep f =>
      { w with
        site := { f w.site with
          now := w.site.now, transfers := w.site.transfers, failing := w.site.failing } }

/-- The world after a run. -/
def run (w : World) (actions : List Action) : World := actions.foldl act w

/-- The call that an action places. -/
def placed? (w : World) : Action → Option Call
  | .advance i _ => (w.job? i).bind Job.placing?
  | _ => none

@[simp] theorem run_nil (w : World) : w.run [] = w := rfl

@[simp] theorem run_cons (w : World) (a : Action) (rest : List Action) :
    w.run (a :: rest) = (w.act a).run rest := rfl

theorem run_append (w : World) (before after : List Action) :
    w.run (before ++ after) = (w.run before).run after :=
  List.foldl_append

/-- A property holds all through a run, from before its first action. -/
def Throughout (P : World → Prop) (w : World) (actions : List Action) : Prop :=
  ∀ first, first <+: actions → P (w.run first)

variable {P : World → Prop} {w : World}

@[simp] theorem throughout_nil_iff : Throughout P w [] ↔ P w := by
  simp [Throughout]

theorem throughout_cons_iff {a : Action} {rest : List Action} :
    Throughout P w (a :: rest) ↔ P w ∧ Throughout P (w.act a) rest := by
  simp only [Throughout, List.prefix_cons_iff]
  constructor
  · intro h
    exact ⟨h [] (Or.inl rfl), fun first hfirst => h (a :: first) (Or.inr ⟨first, rfl, hfirst⟩)⟩
  · rintro ⟨hnow, hlater⟩ first (rfl | ⟨first, rfl, hfirst⟩)
    · exact hnow
    · exact hlater first hfirst

end World
end Connector
