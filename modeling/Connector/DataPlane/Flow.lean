import Connector.Explained
import Connector.Transfer.Request

/-!
# Data flows

What a data plane is handed to start a flow, and how it may fail to take it on.
-/

namespace Connector

/-- What is handed to a data plane; a second start under one process id is the same flow. -/
structure DataFlow where
  transferId : String
  request : DataRequest
  /-- Where the data plane reports the end. -/
  callbackAddress : Option String
  deriving DecidableEq, Repr, Inhabited

/-- Why a data plane did not do what it was asked. -/
inductive DataPlaneFault where
  /-- It may work later. -/
  | unavailable (reason : String)
  /-- It will not work. -/
  | rejected (reason : String)
  deriving DecidableEq, Repr

/-- The wording of a data plane's fault. -/
def DataPlaneFault.message : DataPlaneFault → String
  | unavailable reason => s!"Data plane unavailable: {reason}"
  | rejected reason => s!"Data plane rejected the flow: {reason}"

instance : Explained DataPlaneFault where
  kind
    | .unavailable _ => "Unavailable"
    | .rejected _ => "Rejected"
  message := DataPlaneFault.message

end Connector
