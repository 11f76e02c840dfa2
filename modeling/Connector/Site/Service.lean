import Connector.Explained
import Connector.Site.Stores

/-!
# The service

What is asked of a connector from outside: to start a transfer, to cancel, suspend and resume it,
to take the report on its flow, and to tell how it stands.
-/

namespace Connector

/-- Why the service did not do what it was asked. -/
inductive ServiceFault where
  | notFound (id : String)
  | refused (refusal : Transfer.Refusal)
  | store (fault : StoreFault)
  deriving DecidableEq, Repr

namespace ServiceFault

/-- The wording of a service's fault. -/
def message : ServiceFault → String
  | notFound id => s!"Transfer process not found: {id}"
  | refused refusal => refusal.message
  | store fault => fault.message

/-- A store's fault in the eyes of the service. -/
def ofStore : StoreFault → ServiceFault
  | .notFound id => notFound id
  | .rejected refusal => refused refusal
  | fault => store fault

instance : Explained ServiceFault where
  kind
    | .notFound _ => "NotFound"
    | .refused _ => "Transfer"
    | .store _ => "Repository"
  message := message

end ServiceFault

namespace SiteM

/-- The next id. -/
def drawId : SiteM String := fun s =>
  (Transfer.numberedId (s.drawn + 1), { s with drawn := s.drawn + 1 })

/-- Starts a transfer under an id, for a request that is in order. -/
def openTransfer (id : String) (role : Transfer.Role) (request : DataRequest) :
    SiteM (Except ServiceFault String) := do
  let p := Transfer.create id role request (← get).now
  match ← storeTransfer p with
  | .error e => return .error (.ofStore e)
  | .ok () =>
      note .info "Transfer process created"
        [("process_id", id), ("process_type", role.name),
         ("agreement_id", request.agreementId), ("transfer_type", request.transferType.text)]
      publish (.transfer (.created id role request.agreementId p.createdAt))
      return .ok id

/-- Starts a transfer. -/
def createTransfer (role : Transfer.Role) (request : DataRequest) :
    SiteM (Except ServiceFault String) := do
  match request.validate with
  | .error e => return .error (.refused e)
  | .ok () => openTransfer (← drawId) role request

/-- How a note shows the command that waits. -/
def shownCommand : Option Transfer.Command → String
  | none => "None"
  | some c => "Some(" ++ c.word ++ ")"

/-- Delivers a signal from outside. -/
def deliver (id : String) (x : Transfer.Signal) : SiteM (Except ServiceFault Unit) := do
  match ← signal id x with
  | .error e => return .error (.ofStore e)
  | .ok p =>
      note .debug "Signal applied"
        [("process_id", id), ("state", p.state.name), ("pending", shownCommand p.pendingCommand)]
      return .ok ()

/-- How a transfer stands. -/
def status (id : String) : SiteM (Except ServiceFault Transfer) := do
  match ← findTransfer id with
  | .error e => return .error (.ofStore e)
  | .ok none => return .error (.notFound id)
  | .ok (some p) => return .ok p

end SiteM
end Connector
