import Connector.Config.Retry

/-!
# The configuration of a connector

A manifest names its version and kind and holds the specification: who the connector is, how its
workers behave, the data planes it starts with, the policies bound to agreements, and where it
keeps its records.  What a document leaves out has a standard value.
-/

namespace Connector.Config

/-- Who the connector is. -/
structure Identity where
  id : String
  /-- Where data planes report. -/
  callbackAddress : Option String
  deriving DecidableEq, Repr, Inhabited

/-- How the workers behave. -/
structure Orchestration where
  /-- The number of workers. -/
  workers : Nat
  /-- The most transfers that a worker claims at once. -/
  batchSize : Nat
  /-- The wait of a worker that got nothing done. -/
  pollInterval : Span
  leaseDuration : Span
  /-- The longest wait for an answer from outside. -/
  dispatchTimeout : Span
  retry : RetryPolicy
  /-- The wait between two questions about a flow. -/
  statusPollInterval : Span
  /-- The longest time a flow may take. -/
  transferTimeout : Span
  deriving DecidableEq, Repr, Inhabited

/-- A data plane that is there from the start. -/
structure StaticDataPlane where
  id : String
  url : String
  /-- Pairs of technologies, as `source->destination`. -/
  transferTypes : List String
  properties : Table String
  deriving DecidableEq, Repr, Inhabited

/-- How data planes are kept. -/
structure Registry where
  /-- How long a data plane may go unseen. -/
  livenessTimeout : Option Span
  /-- How often the stale ones are dropped. -/
  sweepInterval : Span
  dataPlanes : List StaticDataPlane
  deriving DecidableEq, Repr, Inhabited

/-- The policy of an agreement. -/
structure PolicyBinding where
  agreementId : String
  policy : Json
  attributes : Table Json
  deriving Inhabited

/-- Where records are kept. -/
inductive BackendKind where
  | memory
  | postgres
  deriving DecidableEq, Repr, Inhabited

/-- The word for a backend in a listing. -/
def BackendKind.word : BackendKind → String
  | memory => "Memory"
  | postgres => "Postgres"

/-- Where and how records are kept. -/
structure Storage where
  backend : BackendKind
  /-- The database, or the variable that names it. -/
  connectionString : Option String
  maxConnections : Nat
  deriving DecidableEq, Repr, Inhabited

/-- What the manifest says. -/
structure Spec where
  connector : Identity
  orchestrator : Orchestration
  dataPlanes : Registry
  policies : List PolicyBinding
  storage : Storage
  deriving Inhabited

/-- Names for the manifest itself. -/
structure Metadata where
  name : String
  labels : Option (Table String)
  deriving DecidableEq, Repr, Inhabited

/-- A configuration. -/
structure Manifest where
  apiVersion : String
  kind : String
  metadata : Metadata
  spec : Spec
  deriving Inhabited

/-- The version a manifest must have. -/
def apiVersion : String := "dataspace.io/v1"

/-- The kind a manifest must have. -/
def kind : String := "ConnectorConfig"

/-- One worker, ten transfers at once, a lease of a minute, half a minute for an answer. -/
def Orchestration.standard : Orchestration where
  workers := 1
  batchSize := 10
  pollInterval := .seconds 1
  leaseDuration := .seconds 60
  dispatchTimeout := .seconds 30
  retry := .standard
  statusPollInterval := .seconds 10
  transferTimeout := .seconds 86400

/-- Five minutes unseen, a sweep every minute, no data planes. -/
def Registry.standard : Registry := ⟨some (.seconds 300), .seconds 60, []⟩

/-- Records in memory. -/
def Storage.standard : Storage := ⟨.memory, none, 5⟩

/-- The identity of a connector on a machine. -/
def Identity.ofHost (host : String) : Identity := ⟨"urn:connector:" ++ host, none⟩

/-- The manifest of a connector on a machine that has none. -/
def Manifest.standard (host : String) : Manifest where
  apiVersion := Config.apiVersion
  kind := Config.kind
  metadata := ⟨(Identity.ofHost host).id, none⟩
  spec := ⟨.ofHost host, .standard, .standard, [], .standard⟩

/-- The manifest with a data plane and a policy to start from. -/
def Manifest.withExamples (m : Manifest) : Manifest :=
  let dataPlane : StaticDataPlane :=
    ⟨"dataplane-1", "http://localhost:8181/control", ["blob->http", "*->s3"],
     [("region", "eu-west")]⟩
  let constraint : Json :=
    .object [("leftOperand", .str "region"), ("operator", .str "in"),
      ("rightOperand", .strings ["eu-west", "eu-central"])]
  let rule : Json := .object [("action", .str "use"), ("constraints", .arr [constraint])]
  let binding : PolicyBinding :=
    ⟨"agreement-1", .object [("permissions", .arr [rule])], [("region", .str "eu-west")]⟩
  { m with
    spec := { m.spec with
      dataPlanes :=
        { m.spec.dataPlanes with dataPlanes := m.spec.dataPlanes.dataPlanes ++ [dataPlane] }
      policies := m.spec.policies ++ [binding] } }

/-- The manifest to start from. -/
def Manifest.sample (host : String) (examples : Bool) : Manifest :=
  if examples then (Manifest.standard host).withExamples else .standard host

end Connector.Config
