import Connector.Config.Manifest

/-!
# Configurations as documents

Labels, the callback address and the connection string are left out where there are none, and so
is an empty list of policies.  A liveness timeout that is absent has its standard value; one that
is null is none.
-/

namespace Connector.Config

/-- A member that is left out where there is nothing. -/
def unlessNone (name : String) (f : α → Json) : Option α → List (String × Json)
  | some a => [(name, f a)]
  | none => []

/-- Properties as a document. -/
def propertiesJson (t : Table String) : Json := .obj (t.mapValues .str)

namespace Identity

/-- An identity of a document. -/
def decoder : Decoder Identity :=
  .record "ConnectorIdentity"
    (Identity.mk <$> .required "id" .string <*> .optional "callback_address" .string)

/-- An identity as a document. -/
def toJson (i : Identity) : Json :=
  .object (("id", .str i.id) :: unlessNone "callback_address" .str i.callbackAddress)

end Identity

namespace Orchestration

/-- The behaviour of workers of a document. -/
def decoder : Decoder Orchestration :=
  .record "OrchestratorConfig"
    (Orchestration.mk <$> .withDefault "workers" 1 .count
      <*> .withDefault "batch_size" 10 .count
      <*> .withDefault "poll_interval" (.seconds 1) .span
      <*> .withDefault "lease_duration" (.seconds 60) .span
      <*> .withDefault "dispatch_timeout" (.seconds 30) .span
      <*> .withDefault "retry" .standard RetryPolicy.decoder
      <*> .withDefault "status_poll_interval" (.seconds 10) .span
      <*> .withDefault "transfer_timeout" (.seconds 86400) .span)

/-- The behaviour of workers as a document. -/
def toJson (o : Orchestration) : Json :=
  .object [("workers", .nat o.workers), ("batch_size", .nat o.batchSize),
    ("poll_interval", .str o.pollInterval.format), ("lease_duration", .str o.leaseDuration.format),
    ("dispatch_timeout", .str o.dispatchTimeout.format), ("retry", o.retry.toJson),
    ("status_poll_interval", .str o.statusPollInterval.format),
    ("transfer_timeout", .str o.transferTimeout.format)]

end Orchestration

namespace StaticDataPlane

/-- A data plane of a document. -/
def decoder : Decoder StaticDataPlane :=
  .record "DataPlaneInstanceConfig"
    (StaticDataPlane.mk <$> .required "id" .string <*> .required "url" .string
      <*> .required "transfer_types" (.list .string)
      <*> .withDefault "properties" [] (.table .string))

/-- A data plane as a document. -/
def toJson (d : StaticDataPlane) : Json :=
  .object [("id", .str d.id), ("url", .str d.url), ("transfer_types", .strings d.transferTypes),
    ("properties", propertiesJson d.properties)]

end StaticDataPlane

namespace Registry

/-- A registry of a document. -/
def decoder : Decoder Registry :=
  .record "DataPlaneRegistryConfig"
    (Registry.mk <$> .withDefault "liveness_timeout" (some (.seconds 300)) (.optional .span)
      <*> .withDefault "sweep_interval" (.seconds 60) .span
      <*> .withDefault "instances" [] (.list StaticDataPlane.decoder))

/-- A registry as a document. -/
def toJson (r : Registry) : Json :=
  .object [("liveness_timeout", Json.orNull (fun s => .str s.format) r.livenessTimeout),
    ("sweep_interval", .str r.sweepInterval.format),
    ("instances", .arr (r.dataPlanes.map StaticDataPlane.toJson))]

end Registry

namespace PolicyBinding

/-- A binding of a document. -/
def decoder : Decoder PolicyBinding :=
  .record "PolicyBindingConfig"
    (PolicyBinding.mk <$> .required "agreement_id" .string <*> .required "policy" .document
      <*> .withDefault "attributes" [] (.table .document))

/-- A binding as a document. -/
def toJson (b : PolicyBinding) : Json :=
  .object [("agreement_id", .str b.agreementId), ("policy", b.policy),
    ("attributes", .obj b.attributes)]

end PolicyBinding

/-- The backends by their names. -/
def BackendKind.cases : List (String × BackendKind) :=
  [("memory", .memory), ("postgres", .postgres)]

/-- The name of a backend. -/
def BackendKind.name : BackendKind → String
  | memory => "memory"
  | postgres => "postgres"

namespace Storage

/-- A storage of a document. -/
def decoder : Decoder Storage :=
  .record "StorageConfig"
    (Storage.mk <$> .withDefault "backend" .memory (.oneOf BackendKind.cases)
      <*> .optional "connection_string" .string
      <*> .withDefault "max_connections" 5 .nat32)

/-- A storage as a document. -/
def toJson (s : Storage) : Json :=
  .object ([("backend", .str s.backend.name), ("max_connections", .nat s.maxConnections)]
    ++ unlessNone "connection_string" .str s.connectionString)

end Storage

namespace Spec

/-- A specification of a document. -/
def decoder : Decoder Spec :=
  .record "ConnectorConfigSpec"
    (Spec.mk <$> .required "connector" Identity.decoder
      <*> .withDefault "orchestrator" .standard Orchestration.decoder
      <*> .withDefault "data_planes" .standard Registry.decoder
      <*> .withDefault "policies" [] (.list PolicyBinding.decoder)
      <*> .withDefault "storage" .standard Storage.decoder)

/-- A specification as a document. -/
def toJson (s : Spec) : Json :=
  .object ([("connector", s.connector.toJson), ("orchestrator", s.orchestrator.toJson),
    ("data_planes", s.dataPlanes.toJson), ("storage", s.storage.toJson)]
    ++ (if s.policies.isEmpty then []
        else [("policies", .arr (s.policies.map PolicyBinding.toJson))]))

end Spec

namespace Metadata

/-- Names of a document. -/
def decoder : Decoder Metadata :=
  .record "ManifestMetadata"
    (Metadata.mk <$> .required "name" .string <*> .optional "labels" (.table .string))

/-- Names as a document. -/
def toJson (m : Metadata) : Json :=
  .object (("name", .str m.name) :: unlessNone "labels" propertiesJson m.labels)

end Metadata

namespace Manifest

/-- A manifest of a document. -/
def decoder : Decoder Manifest :=
  .record "ConnectorConfigManifest"
    (Manifest.mk <$> .required "apiVersion" .string <*> .required "kind" .string
      <*> .required "metadata" Metadata.decoder <*> .required "spec" Spec.decoder)

/-- A manifest as a document. -/
def toJson (m : Manifest) : Json :=
  .object [("apiVersion", .str m.apiVersion), ("kind", .str m.kind),
    ("metadata", m.metadata.toJson), ("spec", m.spec.toJson)]

end Manifest
end Connector.Config
