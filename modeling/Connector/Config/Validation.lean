import Connector.Config.Manifest
import Connector.DataPlane.Basic
import Connector.Policy.Codec

/-!
# Checking a configuration

`Manifest.validate` names the first thing that keeps a configuration from being used.  It also
turns the data planes of a manifest into registered ones, and finds the database.
-/

namespace Connector.Config

/-- What is wrong with a configuration. -/
inductive Fault where
  | wrongVersion (found : String)
  | wrongKind (found : String)
  | blankConnectorId
  | noWorkers
  | emptyBatch
  | noAttempts
  /-- The lease would end while an answer may still come. -/
  | leaseTooShort (lease timeout : Span)
  | malformedTransferType (pair id : String)
  | malformedDataPlane (defect : DataPlane.Defect)
  | blankAgreement
  | malformedPolicy (agreementId : String)
  /-- The manifest keeps its records in a database that it does not name. -/
  | unnamedDatabase
  /-- There is no database to connect to. -/
  | noConnectionString
  | unsetVariable (name : String)
  /-- Records are to be kept in a database, and there is no connection. -/
  | notConnected
  deriving DecidableEq, Repr

/-- The wording of a fault. -/
def Fault.message : Fault → String
  | wrongVersion found => "Invalid apiVersion: '" ++ found ++ "'. Must be '" ++ apiVersion ++ "'"
  | wrongKind found => "Invalid kind: '" ++ found ++ "'. Must be '" ++ kind ++ "'"
  | blankConnectorId => "spec.connector.id cannot be empty"
  | noWorkers => "spec.orchestrator.workers must be at least 1"
  | emptyBatch => "spec.orchestrator.batch_size must be at least 1"
  | noAttempts => "spec.orchestrator.retry.max_attempts must be at least 1"
  | leaseTooShort lease timeout =>
      "spec.orchestrator.lease_duration (" ++ lease.brief ++ ") must exceed dispatch_timeout ("
        ++ timeout.brief ++ ")"
  | malformedTransferType pair id =>
      "Invalid transfer type '" ++ pair ++ "' for data plane " ++ id
  | malformedDataPlane defect => defect.message
  | blankAgreement => "spec.policies[].agreement_id cannot be empty"
  | malformedPolicy agreementId => s!"Malformed policy bound to agreement {agreementId}"
  | unnamedDatabase => "spec.storage.connection_string is required for the postgres backend"
  | noConnectionString => "storage.connection_string is required for the postgres backend"
  | unsetVariable name => s!"Environment variable not set: {name}"
  | notConnected => "PostgreSQL backend selected without a database pool"

instance : Explained Fault where
  kind _ := "config"
  message := Fault.message

/-- The text before the first arrow and the text behind it. -/
def splitArrow : List Char → Option (List Char × List Char)
  | '-' :: '>' :: rest => some ([], rest)
  | c :: rest => (splitArrow rest).map fun p => (c :: p.1, p.2)
  | [] => none

/-- The capability of a pair. -/
def capabilityOf (pair : String) : Option Capability :=
  (splitArrow pair.toList).map fun p =>
    ⟨Text.trim (String.ofList p.1), Text.trim (String.ofList p.2)⟩

namespace StaticDataPlane

/-- The capabilities of some pairs, or the first pair without an arrow. -/
def capabilities (id : String) : List String → Except Fault (List Capability)
  | [] => .ok []
  | pair :: rest =>
      match capabilityOf pair with
      | none => .error (.malformedTransferType pair id)
      | some c => (capabilities id rest).map (c :: ·)

/-- The data plane that registers at an instant. -/
def toDataPlane (d : StaticDataPlane) (now : Instant) : Except Fault DataPlane := do
  let capabilities ← capabilities d.id d.transferTypes
  (DataPlane.create d.id d.url capabilities d.properties now).mapError .malformedDataPlane

end StaticDataPlane

/-- What is wrong with the workers' behaviour. -/
def Orchestration.fault? (o : Orchestration) : Option Fault :=
  if o.workers = 0 then some .noWorkers
  else if o.batchSize = 0 then some .emptyBatch
  else if o.retry.maxAttempts = 0 then some .noAttempts
  else if o.leaseDuration.nanos ≤ o.dispatchTimeout.nanos then
    some (.leaseTooShort o.leaseDuration o.dispatchTimeout)
  else none

/-- What is wrong with a binding. -/
def PolicyBinding.fault? (b : PolicyBinding) : Option Fault :=
  if Text.isBlankText b.agreementId then some .blankAgreement
  else if (Policy.parse? b.policy).isNone then some (.malformedPolicy b.agreementId)
  else none

/-- What is wrong with a data plane of the manifest. -/
def StaticDataPlane.fault? (d : StaticDataPlane) : Option Fault :=
  match d.toDataPlane ⟨0⟩ with
  | .ok _ => none
  | .error e => some e

/-- Whether the database is named if there is one. -/
def Storage.isComplete (s : Storage) : Bool := s.backend == .memory || s.connectionString.isSome

/-- The first thing that is wrong with a manifest. -/
def Manifest.fault? (m : Manifest) : Option Fault :=
  if m.apiVersion ≠ Config.apiVersion then some (.wrongVersion m.apiVersion)
  else if m.kind ≠ Config.kind then some (.wrongKind m.kind)
  else if Text.isBlankText m.spec.connector.id then some .blankConnectorId
  else
    m.spec.orchestrator.fault?.or <|
      ((m.spec.dataPlanes.dataPlanes.findSome? StaticDataPlane.fault?).or <|
        ((m.spec.policies.findSome? PolicyBinding.fault?).or <|
          if m.spec.storage.isComplete then none else some .unnamedDatabase))

/-- Refuses a manifest that cannot be used. -/
def Manifest.validate (m : Manifest) : Except Fault Unit :=
  match m.fault? with
  | some e => .error e
  | none => .ok ()

/-- The variables of the environment. -/
abbrev Environment := Table String

/-- The text behind the mark of a variable. -/
def variableName? (value : String) : Option String :=
  if value.startsWith "env:" then some (String.ofList (value.toList.drop 4)) else none

/-- A value that may stand for a variable. -/
def resolveSecret (env : Environment) : Option String → Except Fault (Option String)
  | none => .ok none
  | some value =>
      match variableName? value with
      | none => .ok (some value)
      | some name =>
          match Table.get? name env with
          | some v => .ok (some v)
          | none => .error (.unsetVariable name)

/-- Where records are kept, once variables are looked up. -/
inductive Backend where
  | memory
  | postgres (connectionString : String) (maxConnections : Nat)
  deriving DecidableEq, Repr

/-- Refuses to keep records in a database without a connection to it. -/
def Backend.settle (isConnected : Bool) : Backend → Except Fault Unit
  | memory => .ok ()
  | postgres _ _ => if isConnected then .ok () else .error .notConnected

/-- The backend of a storage. -/
def Storage.toBackend (s : Storage) (env : Environment) : Except Fault Backend :=
  match s.backend with
  | .memory => .ok .memory
  | .postgres => do
      match ← resolveSecret env s.connectionString with
      | some url => .ok (.postgres url s.maxConnections)
      | none => .error .noConnectionString

/-- The liveness timeout as a distance between instants; none where it is too long for one. -/
def Registry.livenessDistance? (r : Registry) : Option Int :=
  r.livenessTimeout.bind Span.toDistance?

end Connector.Config
