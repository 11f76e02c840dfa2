import Connector.Transfer.Refusal
import Connector.Table
import Connector.Text.Blank

/-!
# What is to be transferred

A request names the agreement and the asset, the connector on the other side and where to reach
it, and the two ends of the transfer.  Statement: `validate_eq_ok_iff` — a request is well formed
exactly if none of its seven leading fields is blank.
-/

namespace Connector

/-- One end of a transfer: its technology and what else tells where it is. -/
structure DataAddress where
  type : String
  properties : Table String
  deriving DecidableEq, Repr, Inhabited

/-- The technologies of the two ends. -/
structure TransferType where
  source : String
  destination : String
  deriving DecidableEq, Repr, Inhabited

/-- The text of a transfer type. -/
def TransferType.text (t : TransferType) : String := s!"({t.source}, {t.destination})"

/-- What was requested. -/
structure DataRequest where
  /-- The name that both sides use for the request. -/
  id : String
  agreementId : String
  assetId : String
  /-- The connector on the other side. -/
  connectorId : String
  /-- Where messages for the other side go. -/
  connectorAddress : String
  protocol : String
  source : DataAddress
  destination : DataAddress
  /-- What the data plane that does the work must advertise. -/
  dataPlaneProperties : Table String
  deriving DecidableEq, Repr, Inhabited

namespace DataRequest

/-- The protocol of a request that names none. -/
def defaultProtocol : String := "dataspace-protocol-http"

/-- The transfer type of a request. -/
def transferType (r : DataRequest) : TransferType := ⟨r.source.type, r.destination.type⟩

/-- The fields that must not be blank, with their names, in the order they are looked at. -/
def requiredFields (r : DataRequest) : List (String × String) :=
  [("id", r.id), ("agreement_id", r.agreementId), ("asset_id", r.assetId),
   ("connector_id", r.connectorId), ("connector_address", r.connectorAddress),
   ("source.type", r.source.type), ("destination.type", r.destination.type)]

/-- Refuses a request with a blank field, naming the first one. -/
def validate (r : DataRequest) : Except Transfer.Refusal Unit :=
  match r.requiredFields.find? fun f => Text.isBlankText f.2 with
  | some f => .error (.emptyField f.1)
  | none => .ok ()

theorem validate_eq_ok_iff (r : DataRequest) :
    r.validate = .ok () ↔ ∀ f ∈ r.requiredFields, Text.isBlankText f.2 = false := by
  unfold validate
  cases h : r.requiredFields.find? fun f => Text.isBlankText f.2 with
  | none => simpa using h
  | some f =>
      have hf : Text.isBlankText f.2 = true := by
        simpa using List.find?_some h
      simp only [reduceCtorEq, false_iff]
      exact fun all => by simpa [hf] using all f (List.mem_of_find?_eq_some h)

end DataRequest
end Connector
