import Connector.Explained
import Connector.Json.Value
import Connector.Transfer.Basic

/-!
# Messages to the other side

Which messages a transfer sends to the connector on the other side, and what is in them.
-/

namespace Connector

/-- The kinds of messages. -/
inductive MessageKind where
  /-- A consumer asks the provider for the transfer. -/
  | request
  /-- A provider takes the transfer on. -/
  | start
  | completion
  | termination
  deriving DecidableEq, Repr, Inhabited

/-- The word for a kind in a log. -/
def MessageKind.word : MessageKind → String
  | request => "TransferRequest"
  | start => "TransferStart"
  | completion => "TransferCompletion"
  | termination => "TransferTermination"

/-- A message to the connector on the other side. -/
structure Message where
  kind : MessageKind
  transferId : String
  requestId : String
  agreementId : String
  /-- Where the message goes. -/
  address : String
  protocol : String
  payload : Json
  deriving Inhabited

/-- An address as a document. -/
def DataAddress.toJson (a : DataAddress) : Json :=
  .object [("type", .str a.type), ("properties", .obj (a.properties.mapValues .str))]

namespace Message

/-- What a message of a kind carries. -/
def payloadOf (kind : MessageKind) (p : Transfer) : Json :=
  match kind with
  | .request =>
      .object [("assetId", .str p.request.assetId), ("destination", p.request.destination.toJson)]
  | .termination => .object [("reason", Json.orNull .str p.errorDetail)]
  | .start | .completion => .null

/-- The message of a kind about a transfer. -/
def ofTransfer (kind : MessageKind) (p : Transfer) : Message where
  kind := kind
  transferId := p.id
  requestId := p.request.id
  agreementId := p.request.agreementId
  address := p.request.connectorAddress
  protocol := p.request.protocol
  payload := payloadOf kind p

/-- The kind of message that opens a transfer. -/
def openingKind : Transfer.Role → MessageKind
  | .consumer => .request
  | .provider => .start

end Message

/-- Why a message did not get through. -/
inductive DispatchFault where
  /-- It may get through later. -/
  | transient (reason : String)
  /-- The other side refused it. -/
  | rejected (reason : String)
  deriving DecidableEq, Repr

/-- The wording of a dispatch fault. -/
def DispatchFault.message : DispatchFault → String
  | transient reason => s!"Transient dispatch failure: {reason}"
  | rejected reason => s!"Message rejected by counterparty: {reason}"

instance : Explained DispatchFault where
  kind
    | .transient _ => "Transient"
    | .rejected _ => "Rejected"
  message := DispatchFault.message

end Connector
