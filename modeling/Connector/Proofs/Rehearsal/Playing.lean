import Connector.Proofs.Rehearsal.Sparing
import Connector.Rehearsal.Operation

/-!
# Tasks that go on in any order

The rehearsal lets tasks go on by the turns of their timers.  Nothing promises that order: of the
tasks whose timers are due any may go first, visitors may come in between, and the clock may stand
still anywhere before the next timer.  A play is a stage with tasks on it, and a run of a play is a
list of cues; a cue that cannot be taken up leaves everything as it is, so that every list of cues
is a run.  Nobody takes a data plane out of the registry, no call to the registry takes time, and
the tasks are not told to stop.  A task that breaks off is out of the play, and the others go on;
what it had done by then is left to upkeeps.
-/

namespace Connector.Rehearsal

/-- A stage, and the tasks on it. -/
structure Play where
  stage : Stage
  tasks : List Task

/-- What may happen next. -/
inductive Cue where
  /-- The task of a number goes on, if a timer of it is due. -/
  | wake (i : Nat)
  /-- It is a later time now, though not later than any timer. -/
  | pass (t : Instant)
  | register (d : DataPlane)
  | heartbeat (id : String) (load : Option Nat)
  /-- Somebody drops what is stale at the moment. -/
  | sweep
  /-- Something happens that does not concern the registry. -/
  | upkeep (f : Stage → Stage)

/-- Whether a timer of a task is due. -/
def Task.isDue (u : Task) (now : Instant) : Bool := u.timers.any fun t => decide (t.due ≤ now)

namespace Play

/-- The play of a connector as it starts; none if it does not open, or breaks off. -/
def opened? (m : Config.Manifest) (env : Config.Environment) (reason : String) (now : Instant) :
    Option Play :=
  match StageM.openStage m env reason (.ofManifest m now) with
  | .ok (.ok duties, s) => (StageM.start duties s).toOption.map fun r => ⟨r.2, r.1⟩
  | _ => none

/-- The present instant. -/
def now (p : Play) : Instant := p.stage.site.now

/-- The play with something done at its site. -/
def atSite {α : Type} (p : Play) (m : SiteM α) : Play :=
  { p with stage := { p.stage with site := (m p.stage.site).2 } }

/-- Lets the task of a number go on, if it is due. -/
def wake (p : Play) (i : Nat) : Play :=
  match p.tasks[i]? with
  | none => p
  | some u =>
      if u.isDue p.now then
        match StageM.wake u p.stage with
        | .ok (u', s) => ⟨s, p.tasks.set i u'⟩
        | .error why => { p with tasks := p.tasks.set i { u with phase := .crashed why } }
      else p

/-- Moves the clock on, up to the next timer. -/
def pass (p : Play) (t : Instant) : Play :=
  if p.now ≤ t ∧ ∀ timer ∈ p.tasks.flatMap Task.timers, t ≤ timer.due then
    { p with stage := { p.stage with site := { p.stage.site with now := t } } }
  else p

/-- The play after a cue. -/
def act (p : Play) : Cue → Play
  | .wake i => p.wake i
  | .pass t => p.pass t
  | .register d => p.atSite (SiteM.register d)
  | .heartbeat id load => p.atSite (SiteM.heartbeat id load)
  | .sweep => p.atSite (SiteM.evictStale p.now)
  | .upkeep f =>
      { p with
        stage := { f p.stage with
          site := { (f p.stage).site with
            now := p.stage.site.now, dataPlanes := p.stage.site.dataPlanes,
            liveness := p.stage.site.liveness, failing := p.stage.site.failing } } }

/-- The play after a run. -/
def run (p : Play) (cues : List Cue) : Play := cues.foldl act p

@[simp] theorem run_nil (p : Play) : p.run [] = p := rfl

@[simp] theorem run_cons (p : Play) (a : Cue) (rest : List Cue) :
    p.run (a :: rest) = (p.act a).run rest := rfl

end Play

end Connector.Rehearsal
