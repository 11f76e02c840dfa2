import Connector.Config.Codec
import Connector.Yaml.Shape

/-!
# Configurations as text

A configuration is a YAML document.  Its shape says what is text, what is a number, what may be
left out, and in which order it is written.
-/

namespace Connector.Config

open Yaml (Shape)

/-- How failing attempts are repeated. -/
def retryShape : Shape :=
  .record [("max_attempts", .count), ("base_delay", .text), ("max_delay", .text)]

/-- How workers behave. -/
def orchestrationShape : Shape :=
  .record [("workers", .count), ("batch_size", .count), ("poll_interval", .text),
    ("lease_duration", .text), ("dispatch_timeout", .text), ("retry", retryShape),
    ("status_poll_interval", .text), ("transfer_timeout", .text)]

/-- A data plane that is there from the start. -/
def dataPlaneShape : Shape :=
  .record [("id", .text), ("url", .text), ("transfer_types", .list .text),
    ("properties", .table .text)]

/-- How data planes are kept. -/
def registryShape : Shape :=
  .record [("liveness_timeout", .orNull .text), ("sweep_interval", .text),
    ("instances", .list dataPlaneShape)]

/-- The policy of an agreement. -/
def bindingShape : Shape :=
  .record [("agreement_id", .text), ("policy", .any), ("attributes", .table .any)]

/-- Where records are kept. -/
def storageShape : Shape :=
  .record [("backend", .name), ("connection_string", .orNull .text), ("max_connections", .count)]

/-- What a configuration says. -/
def specShape : Shape :=
  .record [("connector", .record [("id", .text), ("callback_address", .orNull .text)]),
    ("orchestrator", orchestrationShape), ("data_planes", registryShape),
    ("policies", .list bindingShape), ("storage", storageShape)]

namespace Manifest

/-- A configuration. -/
def shape : Shape :=
  .record [("apiVersion", .text), ("kind", .text),
    ("metadata", .record [("name", .text), ("labels", .orNull (.table .text))]),
    ("spec", specShape)]

/-- The configuration that a text holds. -/
def parse? (text : String) : Option Manifest := do
  (decoder.run (← Yaml.Document.read? shape text)).toOption

/-- The text of a configuration. -/
def print (m : Manifest) : String := Yaml.Document.print shape m.toJson

/-- Whether two configurations are written alike. -/
def same (a b : Manifest) : Bool := a.toJson.same b.toJson

end Manifest
end Connector.Config
