import Connector.DataPlane.Codec
import Connector.DataPlane.Flow
import Connector.Http.Exchange
import Connector.Site.Note
import Connector.Transfer.Codec

/-!
# Flows on the wire

A data plane is asked below its address: to start a flow at `transfer`, and how it stands at
`transfer` and the handle, which is pushed to the path as a text of its own.
-/

namespace Connector.DataPlane

/-- The address below that of a data plane. -/
def endpoint (d : DataPlane) (segments : List String) : Except DataPlaneFault Url :=
  match Url.parse d.url with
  | .error e => .error (.rejected s!"invalid data plane url {d.url}: {e.message}")
  | .ok url =>
      match url.push? segments with
      | some url => .ok url
      | none => .error (.rejected s!"data plane url {d.url} cannot carry a path")

/-- A request to a data plane. -/
def requestTo (method : Http.Method) (url : Url) (body : Option Json) :
    Except DataPlaneFault Http.Request :=
  (Http.Request.to method url body).mapError fun e => .unavailable e.message

/-- The body of a success; anything else is a fault. -/
def bodyOf (request : Http.Request) (reply : Http.Reply) : Except DataPlaneFault String :=
  match reply.response? request.url with
  | .error e => .error (.unavailable e.message)
  | .ok (status, body) =>
      if Http.isSuccess status then .ok body
      else if Http.isRefusal status then .error (.rejected (Http.detail status body))
      else .error (.unavailable (Http.detail status body))

/-- The handle in the answer to a start. -/
def handleDecoder : Decoder String :=
  .record "StartFlowResponse" (.required "handle" .string)

/-- How a flow stands; none while it runs. -/
def standingDecoder : Decoder (Option Outcome) :=
  .tagged "FlowStatusResponse" "status"
    [("running", .plain none), ("succeeded", .plain (some .succeeded)),
     ("failed", .record ((fun detail => some (Outcome.failed detail)) <$>
       .withDefault "detail" "" .string))]

/-- What is noted of a flow before it starts. -/
def startNote (flow : DataFlow) (url : Url) : Note :=
  ⟨.debug, "Starting data flow", [("process_id", flow.transferId), ("url", url.text)]⟩

/-- The request that starts a flow. -/
def startRequest (d : DataPlane) (flow : DataFlow) : Except DataPlaneFault Http.Request := do
  requestTo .post (← d.endpoint ["transfer"]) (some flow.toJson)

/-- The request that asks how a flow stands. -/
def pollRequest (d : DataPlane) (handle : String) : Except DataPlaneFault Http.Request := do
  requestTo .get (← d.endpoint ["transfer", handle]) none

/-- Starts a flow at a data plane that replies as told; gives the handle. -/
def start (d : DataPlane) (flow : DataFlow) (answer : Http.Request → Http.Reply) :
    Except DataPlaneFault String := do
  let request ← d.startRequest flow
  let body ← bodyOf request (answer request)
  (Http.readBody handleDecoder request.url body).mapError fun e =>
    .unavailable ("invalid start response: " ++ e.message)

/-- Asks a data plane that replies as told how a flow stands; gives how it ended. -/
def poll (d : DataPlane) (handle : String) (answer : Http.Request → Http.Reply) :
    Except DataPlaneFault (Option Outcome) := do
  let request ← d.pollRequest handle
  let body ← bodyOf request (answer request)
  (Http.readBody standingDecoder request.url body).mapError fun e =>
    .unavailable ("invalid status response: " ++ e.message)

end Connector.DataPlane
