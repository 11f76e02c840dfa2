import Connector.DataPlane.Flow
import Connector.DataPlane.Selection
import Connector.Transfer.Codec

/-!
# Data planes as documents

The documents of data planes and of what they are handed, written and read.
-/

namespace Connector

namespace Capability

/-- A capability of a document. -/
def decoder : Decoder Capability :=
  .record "TransferTypeCapability"
    (Capability.mk <$> .required "source_type" .string <*> .required "destination_type" .string)

/-- A capability as a document. -/
def toJson (c : Capability) : Json :=
  .object [("source_type", .str c.source), ("destination_type", .str c.destination)]

end Capability

namespace DataPlane

/-- A data plane of a document. -/
def decoder : Decoder DataPlane :=
  .record "DataPlaneInstance"
    (DataPlane.mk <$> .required "id" .string <*> .required "url" .string
      <*> .required "capabilities" (.list Capability.decoder)
      <*> .withDefault "properties" [] (.table .string) <*> .required "registered_at" .instant
      <*> .required "last_seen" .instant <*> .withDefault "load" none (.optional .nat32))

/-- A data plane as a document. -/
def toJson (d : DataPlane) : Json :=
  .object [("id", .str d.id), ("url", .str d.url),
    ("capabilities", .arr (d.capabilities.map Capability.toJson)),
    ("properties", .obj (d.properties.mapValues .str)),
    ("registered_at", .instant d.registeredAt), ("last_seen", .instant d.lastSeen),
    ("load", Json.orNull .nat d.load)]

/-- The values of a data plane in a line. -/
def brief (d : DataPlane) : Json :=
  .arr [.str d.id, .str d.url,
    .arr (d.capabilities.map Capability.toJson),
    .instant d.registeredAt, .instant d.lastSeen, Json.orNull .nat d.load]

end DataPlane

namespace DataFlow

/-- A flow of a document. -/
def decoder : Decoder DataFlow :=
  .record "DataFlowRequest"
    (DataFlow.mk <$> .required "process_id" .string
      <*> .required "data_request" DataRequest.decoder
      <*> .optional "callback_address" .string)

/-- A flow as a document. -/
def toJson (f : DataFlow) : Json :=
  .object [("process_id", .str f.transferId), ("data_request", f.request.toJson),
    ("callback_address", .text f.callbackAddress)]

end DataFlow
end Connector
