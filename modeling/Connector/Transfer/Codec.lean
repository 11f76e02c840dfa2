import Connector.Json.Decode
import Connector.Transfer.Message

/-!
# Transfers as documents

The documents of requests, signals, records and messages, written and read.
-/

namespace Connector

/-- A string or null. -/
def Json.text (s : Option String) : Json := Json.orNull .str s

/-- A time stamp. -/
def Json.instant (t : Instant) : Json := .str t.format

namespace DataAddress

/-- An address of a document. -/
def decoder : Decoder DataAddress :=
  .record "DataAddress"
    (DataAddress.mk <$> .required "type" .string <*> .withDefault "properties" [] (.table .string))

end DataAddress

namespace TransferType

/-- A transfer type of a document. -/
def decoder : Decoder TransferType :=
  .record "TransferType"
    (TransferType.mk <$> .required "source_type" .string <*> .required "destination_type" .string)

end TransferType

namespace DataRequest

/-- A request of a document. -/
def decoder : Decoder DataRequest :=
  .record "DataRequest"
    (DataRequest.mk <$> .required "id" .string <*> .required "agreement_id" .string
      <*> .required "asset_id" .string <*> .required "connector_id" .string
      <*> .required "connector_address" .string
      <*> .withDefault "protocol" defaultProtocol .string
      <*> .required "source" DataAddress.decoder <*> .required "destination" DataAddress.decoder
      <*> .withDefault "data_plane_properties" [] (.table .string))

/-- A request as a document. -/
def toJson (r : DataRequest) : Json :=
  .object [("id", .str r.id), ("agreement_id", .str r.agreementId), ("asset_id", .str r.assetId),
    ("connector_id", .str r.connectorId), ("connector_address", .str r.connectorAddress),
    ("protocol", .str r.protocol), ("source", r.source.toJson),
    ("destination", r.destination.toJson),
    ("data_plane_properties", .obj (r.dataPlaneProperties.mapValues .str))]

end DataRequest

namespace Outcome

/-- An outcome of a document. -/
def decoder : Decoder Outcome :=
  .tagged "TransferOutcome" "status"
    [("succeeded", .plain .succeeded),
     ("failed", .record (Outcome.failed <$> .required "detail" .string))]

/-- An outcome as a document. -/
def toJson : Outcome → Json
  | succeeded => .object [("status", .str "succeeded")]
  | failed detail => .object [("status", .str "failed"), ("detail", .str detail)]

end Outcome

namespace Transfer

namespace State

/-- The states by their names. -/
def cases : List (String × State) := all.map fun s => (s.name, s)

/-- A state of a document. -/
def decoder : Decoder State := .oneOf cases

/-- A state as a document. -/
def toJson (s : State) : Json := .str s.name

end State

/-- The commands by their names. -/
def Command.cases : List (String × Command) :=
  [("cancel", .cancel), ("suspend", .suspend), ("resume", .resume)]

/-- A command of a document. -/
def Command.decoder : Decoder Command := .oneOf cases

/-- A command as a document. -/
def Command.toJson : Command → Json
  | cancel => .str "cancel"
  | suspend => .str "suspend"
  | resume => .str "resume"

/-- The sides by their names. -/
def Role.cases : List (String × Role) := [("CONSUMER", .consumer), ("PROVIDER", .provider)]

/-- A side of a document. -/
def Role.decoder : Decoder Role := .oneOf cases

/-- A side as a document. -/
def Role.toJson (r : Role) : Json := .str r.name

namespace Signal

/-- A signal of a document. -/
def decoder : Decoder Signal :=
  .tagged "TransferSignal" "signal"
    [("cancel", .plain .cancel), ("suspend", .plain .suspend), ("resume", .plain .resume),
     ("completion", .record
       (Signal.completion <$> .required "handle" .string <*> .required "outcome" Outcome.decoder))]

/-- A signal as a document. -/
def toJson : Signal → Json
  | cancel => .object [("signal", .str "cancel")]
  | suspend => .object [("signal", .str "suspend")]
  | resume => .object [("signal", .str "resume")]
  | completion handle outcome =>
      .object [("signal", .str "completion"), ("handle", .str handle), ("outcome", outcome.toJson)]

end Signal
end Transfer

/-- A flow's assignment of a document. -/
def Assignment.decoder : Decoder Assignment :=
  .record "DataFlowAssignment"
    (Assignment.mk <$> .required "instance_id" .string <*> .required "handle" .string
      <*> .required "started_at" .instant)

/-- A flow's assignment as a document. -/
def Assignment.toJson (a : Assignment) : Json :=
  .object [("instance_id", .str a.dataPlaneId), ("handle", .str a.handle),
    ("started_at", .instant a.startedAt)]

/-- A lease of a document. -/
def Lease.decoder : Decoder Lease :=
  .record "Lease" (Lease.mk <$> .required "holder" .string <*> .required "expires_at" .instant)

/-- A lease as a document. -/
def Lease.toJson (l : Lease) : Json :=
  .object [("holder", .str l.holder), ("expires_at", .instant l.expiresAt)]

namespace Transfer

/-- A record of a document. -/
def decoder : Decoder Transfer :=
  .record "TransferProcess"
    (Transfer.mk <$> .required "id" .string <*> .required "type" Role.decoder
      <*> .required "state" State.decoder <*> .required "state_count" .nat32
      <*> .required "state_timestamp" .instant <*> .required "created_at" .instant
      <*> .required "data_request" DataRequest.decoder <*> .optional "error_detail" .string
      <*> .optional "suspended_from" State.decoder
      <*> .optional "pending_command" Command.decoder
      <*> .optional "data_flow" Assignment.decoder <*> .optional "completion" Outcome.decoder
      <*> .optional "retry_at" .instant <*> .optional "lease" Lease.decoder
      <*> .required "version" .nat64)

/-- The members of a record that its life changes. -/
def livingMembers (p : Transfer) : List (String × Json) :=
  [("id", .str p.id), ("state", p.state.toJson), ("state_count", .nat p.stateCount),
   ("state_timestamp", .instant p.stateTimestamp), ("error_detail", .text p.errorDetail),
   ("suspended_from", Json.orNull State.toJson p.suspendedFrom),
   ("pending_command", Json.orNull Command.toJson p.pendingCommand),
   ("data_flow", Json.orNull Assignment.toJson p.dataFlow),
   ("completion", Json.orNull Outcome.toJson p.completion),
   ("retry_at", Json.orNull .instant p.retryAt), ("lease", Json.orNull Lease.toJson p.lease),
   ("version", .nat p.version)]

/-- A record as a document. -/
def toJson (p : Transfer) : Json :=
  .object (p.livingMembers
    ++ [("type", p.role.toJson), ("created_at", .instant p.createdAt),
      ("data_request", p.request.toJson)])

/-- A record without what was fixed at its creation. -/
def snapshot (p : Transfer) : Json := .object p.livingMembers

/-- The leading values of a record in a line. -/
def brief (p : Transfer) : Json :=
  .arr [.str p.id, p.state.toJson, .nat p.stateCount, .instant p.stateTimestamp, .nat p.version,
    Json.orNull Command.toJson p.pendingCommand, .text (p.lease.map (·.holder)),
    Json.orNull .instant p.retryAt, .text p.errorDetail]

end Transfer

/-- The kinds of messages by their names. -/
def MessageKind.cases : List (String × MessageKind) :=
  [("transfer_request", .request), ("transfer_start", .start),
   ("transfer_completion", .completion), ("transfer_termination", .termination)]

/-- A kind of message of a document. -/
def MessageKind.decoder : Decoder MessageKind := .oneOf cases

/-- The name of a kind of message. -/
def MessageKind.name : MessageKind → String
  | request => "transfer_request"
  | start => "transfer_start"
  | completion => "transfer_completion"
  | termination => "transfer_termination"

/-- A message of a document. -/
def Message.decoder : Decoder Message :=
  .record "RemoteMessage"
    (Message.mk <$> .required "kind" MessageKind.decoder <*> .required "process_id" .string
      <*> .required "data_request_id" .string <*> .required "agreement_id" .string
      <*> .required "connector_address" .string <*> .required "protocol" .string
      <*> .withDefault "payload" .null .document)

/-- A message as a document. -/
def Message.toJson (m : Message) : Json :=
  .object [("kind", .str m.kind.name), ("process_id", .str m.transferId),
    ("data_request_id", .str m.requestId), ("agreement_id", .str m.agreementId),
    ("connector_address", .str m.address), ("protocol", .str m.protocol), ("payload", m.payload)]

end Connector
