import Connector.Rehearsal.Stage

/-!
# The tasks of a connector

Workers, the sweeper of stale data planes, and the keeper that vouches for the configured ones,
played on the clock of a stage.  The clock moves only when every task waits, to the next timer; a
visitor who waits for an instant comes first at that instant.
-/

namespace Connector.Rehearsal

/-- What a task does. -/
inductive Duty where
  | worker (holder : String)
  | sweeper (interval : Span)
  | keeper (interval : Span) (dataPlanes : List DataPlane)
  deriving Inhabited

/-- How far a task is. -/
inductive Phase where
  /-- It has not run yet. -/
  | fresh (t : Timer)
  /-- A worker whose batch is under way. -/
  | working (slots : List Slot)
  /-- A worker between two cycles. -/
  | resting (t : Timer)
  /-- Waiting for the next tick, whose exact instant is given. -/
  | ticking (deadline : Instant) (t : Timer)
  | stopped
  /-- It broke off. -/
  | crashed (why : Crash)

/-- A task of the connector. -/
structure Task where
  duty : Duty
  phase : Phase

/-- The timers of a task. -/
def Task.timers (t : Task) : List Timer :=
  match t.phase with
  | .fresh t => [t]
  | .working slots => slots.flatMap Slot.timers
  | .resting t => [t]
  | .ticking _ t => [t]
  | .stopped | .crashed _ => []

namespace StageM

/-- Notes that a worker has stopped. -/
def workerStopped (holder : String) : StageM Phase := do
  atSite (SiteM.note .info "Transfer process worker stopped" [("worker", holder)])
  return .stopped

/-- A worker after its batch, or during it; the number bounds how many cycles follow at once. -/
def afterBatch (holder : String) : Nat → List Slot → StageM Phase
  | 0, _ => return .stopped
  | fuel + 1, slots => do
      if (nextTimer slots).isSome then return .working slots
      else
        let s ← get
        if s.isCancelled then workerStopped holder
        else if persistedCount slots = 0 then
          return .resting (← setTimerAfter s.setup.orchestration.pollInterval)
        else
          match ← openBatch holder with
          | .ok slots => afterBatch holder fuel slots
          | .error e =>
              atSite (SiteM.note .warn ("Claim cycle failed: " ++ e.message) [("worker", holder)])
              return .resting (← setTimerAfter s.setup.orchestration.pollInterval)

/-- How many cycles may follow each other at once. -/
def cycleBound : Nat := 100000

/-- A worker's next cycle. -/
def nextCycle (holder : String) : StageM Phase := do
  let s ← get
  if s.isCancelled then workerStopped holder
  else
    match ← openBatch holder with
    | .ok slots => afterBatch holder cycleBound slots
    | .error e =>
        atSite (SiteM.note .warn ("Claim cycle failed: " ++ e.message) [("worker", holder)])
        return .resting (← setTimerAfter s.setup.orchestration.pollInterval)

/-- The next tick after one at an instant. -/
def nextTick (deadline : Instant) (interval : Span) : StageM Phase := do
  let next : Instant := ⟨deadline.nanos + interval.nanos⟩
  return .ticking next (← setTimer next)

/-- Drops stale data planes, and waits for the tick after one at an instant.  A clock that does not
reach back by the timeout breaks the sweeper off. -/
def sweep (deadline : Instant) (interval : Span) : StageM Phase := do
  match ← atSite (SiteM.evictStale (← now)) with
  | .error .clock => return .crashed .clock
  | .error e =>
      atSite (SiteM.note .warn ("Liveness sweep failed: " ++ e.message) [])
      nextTick deadline interval
  | .ok [] =>
      atSite (SiteM.note .debug "Liveness sweep found no stale data planes" [])
      nextTick deadline interval
  | .ok dropped =>
      atSite (SiteM.note .info "Liveness sweep evicted stale data planes"
        [("evicted", toString dropped.length)])
      nextTick deadline interval

/-- Vouches for a configured data plane; one that is gone registers again. -/
def vouch (d : DataPlane) : SiteM Unit := do
  match ← SiteM.heartbeat d.id none with
  | .ok () => return ()
  | .error (.unknown _) =>
      match ← SiteM.register d with
      | .ok _ => return ()
      | .error e =>
          SiteM.note .warn ("Failed to re-register data plane: " ++ e.message)
            [("instance_id", d.id)]
  | .error e =>
      SiteM.note .warn ("Data plane heartbeat failed: " ++ e.message) [("instance_id", d.id)]

/-- Vouches for every configured data plane. -/
def vouchAll : List DataPlane → SiteM Unit
  | [] => return ()
  | d :: rest => do
      vouch d
      vouchAll rest

/-- What a worker notes when it starts. -/
def workerStarts (holder : String) (o : Config.Orchestration) : SiteM Unit :=
  SiteM.note .info "Starting transfer process worker"
    [("worker", holder), ("batch_size", toString o.batchSize),
     ("poll_interval_ms", toString (o.pollInterval.inMillis % 18446744073709551616))]

/-- What the sweeper notes when it starts. -/
def sweeperStarts (interval : Span) : SiteM Unit :=
  SiteM.note .info "Starting data plane liveness sweeper"
    [("interval_ms", toString (interval.inMillis % 18446744073709551616))]

/-- Lets a task go on. -/
def wake (t : Task) : StageM Task := do
  let phase ← match t.duty, t.phase with
    | .worker holder, .fresh _ => do
        atSite (workerStarts holder (← get).setup.orchestration)
        nextCycle holder
    | .worker holder, .working slots => do
        afterBatch holder cycleBound (← goOnAll holder slots)
    | .worker holder, .resting _ => nextCycle holder
    | .sweeper interval, .fresh _ => do
        atSite (sweeperStarts interval)
        if interval.nanos = 0 then pure (.crashed .noPeriod)
        else sweep (← now) interval
    | .sweeper interval, .ticking deadline _ => sweep deadline interval
    | .keeper interval dataPlanes, .fresh _ => do
        atSite (vouchAll dataPlanes)
        nextTick (← now) interval
    | .keeper interval dataPlanes, .ticking deadline _ => do
        atSite (vouchAll dataPlanes)
        nextTick deadline interval
    | _, phase => pure phase
  return { t with phase := phase }

/-- Lets the task of a timer go on; the others stay as they are. -/
def wakeTimer (timer : Timer) : List Task → StageM (List Task)
  | [] => return []
  | t :: rest => do
      if t.timers.contains timer then return (← wake t) :: rest
      else return t :: (← wakeTimer timer rest)

/-- Lets the tasks run up to an instant, or until all have stopped; the number bounds how often a
task goes on. -/
def runTasks (until' : Option Instant) : Nat → List Task → StageM (List Task)
  | 0, tasks => return tasks
  | fuel + 1, tasks => do
      let t ← now
      if until'.any fun u => decide (u ≤ t) then return tasks
      else
        match earliest (tasks.flatMap Task.timers) with
        | none =>
            match until' with
            | some u => moveTo u
            | none => pure ()
            return tasks
        | some timer =>
            if timer.due ≤ t then runTasks until' fuel (← wakeTimer timer tasks)
            else if until'.any fun u => decide (u ≤ timer.due) then
              moveTo (until'.getD t)
              return tasks
            else
              moveTo timer.due
              runTasks until' fuel (← wakeTimer timer tasks)

/-- How often tasks may go on in one rehearsal step. -/
def taskBound : Nat := 10000000

/-- What a task does when it is told to stop while it waits. -/
def stopTask (t : Task) : StageM Task := do
  match t.duty, t.phase with
  | .worker holder, .fresh _ =>
      atSite (workerStarts holder (← get).setup.orchestration)
      return { t with phase := ← workerStopped holder }
  | .worker holder, .resting _ => return { t with phase := ← workerStopped holder }
  | .sweeper interval, .fresh _ =>
      atSite (sweeperStarts interval)
      if interval.nanos = 0 then return { t with phase := .crashed .noPeriod }
      else
        atSite (SiteM.note .info "Shutdown signal received, stopping liveness sweeper" [])
        return { t with phase := .stopped }
  | .sweeper _, .ticking _ _ =>
      atSite (SiteM.note .info "Shutdown signal received, stopping liveness sweeper" [])
      return { t with phase := .stopped }
  | .keeper _ _, _ => return { t with phase := .stopped }
  | _, _ => return t

/-- Tells every task to stop. -/
def stopAll : List Task → StageM (List Task)
  | [] => return []
  | t :: rest => do
      let t ← stopTask t
      return t :: (← stopAll rest)

/-- Stops the tasks and waits for those that still have something to finish. -/
def shutDown (tasks : List Task) : StageM (List Task) := do
  modify fun s => { s with isCancelled := true }
  let tasks ← runTasks none taskBound (← stopAll tasks)
  modify fun s => { s with isCancelled := false }
  return tasks

/-- A task that has not run yet. -/
def spawn (duty : Duty) : StageM Task := do return ⟨duty, .fresh (← setTimer (← now))⟩

/-- Tasks that have not run yet, in their order. -/
def spawnAll : List Duty → StageM (List Task)
  | [] => return []
  | d :: rest => do
      let t ← spawn d
      return t :: (← spawnAll rest)

/-- Lets tasks run for some milliseconds. -/
def runFor (ms : Int) (tasks : List Task) : StageM (List Task) := do
  runTasks (some ((← now).plusMillis ms)) taskBound tasks

end StageM

/-- The name of a worker: its connector, the group of workers it belongs to, and its number. -/
def workerName (identity : Config.Identity) (group : String) (index : Nat) : String :=
  identity.id ++ "/" ++ group ++ "/worker-" ++ toString index

/-- The workers of a connector, as duties. -/
def workerDuties (setup : Setup) (group : String) : List Duty :=
  (List.range setup.orchestration.workers).map fun i =>
    .worker (workerName setup.identity group i)

namespace StageM

/-- Runs the workers of a connector for some milliseconds; how many they were. -/
def runWorkers (ms : Int) : StageM Nat := do
  let s ← get
  let duties := workerDuties s.setup (Transfer.plainId (s.site.drawn + 1))
  let tasks ← spawnAll duties
  let _ ← shutDown (← runFor ms tasks)
  return duties.length

/-- Breaks off if a task did. -/
def rethrow (t : Task) : StageM Unit := do
  match t.phase with
  | .crashed why => throw why
  | _ => return ()

/-- Runs the sweeper for some milliseconds. -/
def runSweeper (interval : Span) (ms : Int) : StageM Unit := do
  let tasks ← spawnAll [.sweeper interval]
  (← shutDown (← runFor ms tasks)).forM rethrow

end StageM
end Connector.Rehearsal
