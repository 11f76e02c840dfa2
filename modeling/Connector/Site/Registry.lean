import Connector.DataPlane.Selection
import Connector.Explained
import Connector.Site.Stores

/-!
# The registry of data planes

Data planes register, report life and leave; one is chosen for a transfer; those that were not
seen for too long are dropped.  Everything that changes who is there is told on the bus.
-/

namespace Connector

/-- Why the registry did not do what it was asked. -/
inductive RegistryFault where
  | malformed (defect : DataPlane.Defect)
  | noneCapable (transferType : TransferType)
  | unknown (id : String)
  | store (fault : StoreFault)
  /-- The clock does not reach back so far. -/
  | clock
  deriving DecidableEq, Repr

/-- The wording of a registry's fault. -/
def RegistryFault.message : RegistryFault → String
  | malformed defect => defect.message
  | noneCapable transferType => "No capable data plane for transfer type " ++ transferType.text
  | unknown id => s!"Data plane instance not found: {id}"
  | store fault => fault.message
  | clock => "the clock does not reach back so far"

instance : Explained RegistryFault where
  kind
    | .malformed _ => "InvalidInstance"
    | .noneCapable _ => "NotFound"
    | .unknown _ => "UnknownInstance"
    | .store _ | .clock => "Repository"
  message := RegistryFault.message

namespace SiteM

/-- The text of a truth value in a note. -/
def yesNo (b : Bool) : String := if b then "true" else "false"

/-- Registers a data plane; tells whether it took the place of another. -/
def register (d : DataPlane) : SiteM (Except RegistryFault Bool) := do
  match d.validate with
  | .error defect => return .error (.malformed defect)
  | .ok () =>
      let now := (← get).now
      let d := { d with registeredAt := now, lastSeen := now }
      match ← saveDataPlane d with
      | .error e => return .error (.store e)
      | .ok replaced =>
          note .info "Data plane registered"
            [("instance_id", d.id), ("capabilities", toString d.capabilities.length),
             ("replaced", yesNo replaced)]
          publish (.dataPlane (.registered d.id replaced now))
          return .ok replaced

/-- Takes a data plane out; it does not matter whether it was there. -/
def deregister (id : String) : SiteM (Except RegistryFault Unit) := do
  match ← deleteDataPlane id with
  | .error e => return .error (.store e)
  | .ok true =>
      note .info "Data plane deregistered" [("instance_id", id)]
      publish (.dataPlane (.deregistered id (← get).now))
      return .ok ()
  | .ok false =>
      note .debug "Deregistration of unknown data plane ignored" [("instance_id", id)]
      return .ok ()

/-- Chooses a data plane. -/
def select (need : DataPlane.Need) : SiteM (Except RegistryFault DataPlane) := do
  match ← listDataPlanes with
  | .error e => return .error (.store e)
  | .ok all =>
      let s ← get
      match DataPlane.select all need s.now s.liveness with
      | some d =>
          note .debug "Data plane selected"
            [("instance_id", d.id), ("transfer_type", need.transferType.text)]
          return .ok d
      | none => return .error (.noneCapable need.transferType)

/-- The data plane of an id. -/
def findRegistered (id : String) : SiteM (Except RegistryFault (Option DataPlane)) := do
  return (← findDataPlane id).mapError .store

/-- The data planes that are registered. -/
def listRegistered : SiteM (Except RegistryFault (List DataPlane)) := do
  return (← listDataPlanes).mapError .store

/-- Takes a report of life. -/
def heartbeat (id : String) (load : Option Nat) : SiteM (Except RegistryFault Unit) := do
  match ← touchDataPlane id load with
  | .error e => return .error (.store e)
  | .ok true => return .ok ()
  | .ok false => return .error (.unknown id)

/-- Drops one listed data plane if it is stale at that moment; gives its id then. -/
def evictOne (now cutoff : Instant) (d : DataPlane) :
    SiteM (Except RegistryFault (Option String)) := do
  if d.isLive now (← get).liveness then return .ok none
  else
    match ← deleteStale d.id cutoff with
    | .error e => return .error (.store e)
    | .ok false => return .ok none
    | .ok true =>
        note .info "Evicted stale data plane"
          [("instance_id", d.id), ("last_seen", d.lastSeen.display)]
        publish (.dataPlane (.evicted d.id d.lastSeen now))
        return .ok (some d.id)

/-- Drops the stale ones of some listed data planes, in their order, up to the first failure. -/
def evictEach (now cutoff : Instant) : List DataPlane → SiteM (Except RegistryFault (List String))
  | [] => return .ok []
  | d :: rest => do
      match ← evictOne now cutoff d with
      | .error e => return .error e
      | .ok dropped =>
          match ← evictEach now cutoff rest with
          | .error e => return .error e
          | .ok more => return .ok (dropped.toList ++ more)

/-- Drops the data planes that were not seen within the timeout. -/
def evictStale (now : Instant) : SiteM (Except RegistryFault (List String)) := do
  match (← get).liveness with
  | none => return .ok []
  | some timeout =>
      match now.later? (-timeout) with
      | none => return .error .clock
      | some cutoff =>
          match ← listDataPlanes with
          | .error e => return .error (.store e)
          | .ok all => evictEach now cutoff all

end SiteM
end Connector
