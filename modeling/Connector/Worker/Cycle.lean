import Connector.Worker.Attempt

/-!
# A claim cycle

A worker claims a batch of transfers, makes one attempt on each, and writes the results back.  A
result that is not written back leaves the record as it was, and the lease is given back.  What was
written back is told on the bus: the change of state, and what follows from it.
-/

namespace Connector.SiteM

/-- The claim of a worker at the present instant. -/
def claimOf (c : Setup) (holder : String) (now : Instant) : Claim :=
  ⟨holder, now, c.orchestration.leaseDuration.toDistance⟩

/-- Takes a batch on lease. -/
def openCycle (c : Setup) (holder : String) :
    SiteM (Except Overrun (Except StoreFault (List Transfer))) := do
  match ← claim c.orchestration.batchSize (claimOf c holder (← get).now) with
  | .error e => return .ok (.error e)
  | .ok (.error why) => return .error why
  | .ok (.ok batch) =>
      if batch.isEmpty then return .ok (.ok [])
      else
        note .debug "Claimed transfer processes"
          [("worker", holder), ("claimed", toString batch.length)]
        return .ok (.ok batch)

/-- What follows from a change of state. -/
def followUp (prior : Transfer.State) (p : Transfer) : Option TransferEvent :=
  if prior = p.state then none
  else
    match p.state with
    | .suspended => some (.suspended p.id prior p.stateTimestamp)
    | .completed => some (.completed p.id p.stateTimestamp)
    | .terminated => some (.terminated p.id p.errorDetail p.stateTimestamp)
    | next => if prior = .suspended then some (.resumed p.id next p.stateTimestamp) else none

/-- Tells of a record that was written back. -/
def tell (prior : Transfer.State) (p : Transfer) : SiteM Unit := do
  if prior = p.state then
    note .debug "Transfer process retrying"
      [("process_id", p.id), ("state", p.state.name), ("state_count", toString p.stateCount)]
  else
    note .info "Transfer process transitioned"
      [("process_id", p.id), ("from", prior.name), ("to", p.state.name)]
  publish (.transfer (.stateChanged p.id prior p.state p.stateCount p.stateTimestamp))
  match followUp prior p with
  | some e => publish (.transfer e)
  | none => return ()

/-- Gives the lease on a transfer back. -/
def giveUp (id holder : String) : SiteM Unit := do
  match ← release id holder with
  | .ok () => return ()
  | .error e => note .warn ("Failed to release lease: " ++ e.message) [("process_id", id)]

/-- Writes the result of an attempt back; gives the record if it was written. -/
def writeBack (claimed : Transfer) (result : Except Transfer.Refusal Transfer) :
    SiteM (Option Transfer) := do
  match result with
  | .error e =>
      note .error ("Transition attempt failed: " ++ e.message)
        [("process_id", claimed.id), ("state", claimed.state.name)]
      return none
  | .ok p =>
      match ← update p with
      | .ok () => return some p
      | .error (.conflict _) =>
          note .debug "Update conflicted, abandoning attempt"
            [("process_id", p.id), ("state", claimed.state.name)]
          return none
      | .error e =>
          note .warn ("Failed to persist transition: " ++ e.message) [("process_id", p.id)]
          return none

/-- What is left to do after writing back: what was written is told, and otherwise the lease is
given back. -/
def conclude (claimed : Transfer) (holder : String) (written : Option Transfer) : SiteM Bool := do
  match written with
  | some p =>
      if p.stateTimestamp ≠ claimed.stateTimestamp then tell claimed.state p
      return true
  | none =>
      giveUp claimed.id holder
      return false

/-- Settles the result of an attempt; tells whether it was written back. -/
def settle (claimed : Transfer) (holder : String) (result : Except Transfer.Refusal Transfer) :
    SiteM Bool := do
  conclude claimed holder (← writeBack claimed result)

end Connector.SiteM
