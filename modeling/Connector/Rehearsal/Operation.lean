import Connector.Rehearsal.Tasks
import Connector.Site.Opening

/-!
# A connector in operation

From its configuration to its end: the connector opens, its tasks start, run, and are told to stop
by a signal.  There are the workers; with a liveness timeout the sweeper; and with that and
configured data planes the one who vouches for them.
-/

namespace Connector.Rehearsal

/-- The stage of a configuration, with partners who consent. -/
def Stage.ofManifest (m : Config.Manifest) (now : Instant) : Stage where
  site := .ofManifest m now
  setup := ⟨m.spec.connector, m.spec.orchestrator⟩
  cast := ⟨.plain, .plain, .plain, .plain, .rules⟩
  marks := []
  turns := 0
  isCancelled := false

/-- What has to be done besides the workers. -/
def upkeep (r : Config.Registry) (dataPlanes : List DataPlane) : List Duty :=
  if r.livenessTimeout.isNone then []
  else if dataPlanes.isEmpty then [.sweeper r.sweepInterval]
  else [.sweeper r.sweepInterval, .keeper r.sweepInterval dataPlanes]

/-- Whether a duty cannot even be taken up: there is no vouching without a pause. -/
def Duty.isHopeless : Duty → Bool
  | .keeper interval _ => interval.nanos == 0
  | _ => false

/-- The signals that end a connector. -/
inductive EndSignal where
  | interrupt
  | terminate
  deriving DecidableEq, Repr, Inhabited

/-- What is noted of a signal. -/
def EndSignal.note : EndSignal → Note
  | interrupt => ⟨.info, "Received Ctrl+C signal", []⟩
  | terminate => ⟨.info, "Received SIGTERM signal", []⟩

/-- What is noted before a connector opens. -/
def startNote (m : Config.Manifest) : Note :=
  ⟨.info, "Starting dataspace connector",
    [("connector_id", m.spec.connector.id), ("workers", toString m.spec.orchestrator.workers),
     ("data_planes", toString m.spec.dataPlanes.dataPlanes.length),
     ("policies", toString m.spec.policies.length)]⟩

namespace StageM

/-- Opens a connector; gives what its tasks have to do. -/
def openStage (m : Config.Manifest) (env : Config.Environment) (reason : String) :
    StageM (Except OpeningFault (List Duty)) := do
  match ← atSite (SiteM.openWith m env reason) with
  | .error e => return .error e
  | .ok dataPlanes =>
      let s ← get
      return .ok (workerDuties s.setup (Transfer.plainId (s.site.drawn + 1))
        ++ upkeep m.spec.dataPlanes dataPlanes)

/-- Starts the tasks of some duties. -/
def start (duties : List Duty) : StageM (List Task) := do
  if duties.any Duty.isHopeless then throw .noPeriod
  spawnAll duties

/-- What is noted of a task that broke off. -/
def mourn (t : Task) : StageM Unit := do
  match t.phase with
  | .crashed _ => atSite (SiteM.note .warn "Background task ended abnormally" [])
  | _ => return ()

/-- Ends a connector at a signal. -/
def close (signal : EndSignal) (tasks : List Task) : StageM Unit := do
  atSite (modify fun s => s.noted signal.note)
  atSite (SiteM.note .info "Stopping orchestrator workers" [])
  let tasks ← shutDown tasks
  tasks.forM mourn
  atSite (SiteM.note .info "Dataspace connector stopped" [])

/-- Runs a connector until a signal comes after some milliseconds, or just starts it. -/
def operate (m : Config.Manifest) (env : Config.Environment) (reason : String)
    (ending : Option (Int × EndSignal)) : StageM (Except OpeningFault Unit) := do
  atSite (modify fun s => s.noted (startNote m))
  match ← openStage m env reason with
  | .error e => return .error e
  | .ok duties =>
      let tasks ← start duties
      match ending with
      | none => discard (runFor 0 tasks)
      | some (ms, signal) => close signal (← runFor ms tasks)
      return .ok ()

end StageM
end Connector.Rehearsal
