import Connector.Config.Validation
import Connector.Site.Registry
import Connector.Sql.Connection

/-!
# Opening a connector

A connector opens with a configuration: it is checked, the place of the records is found, the
configured data planes register, and the policies are bound to their agreements.  Of two policies
of one agreement the later counts.
-/

namespace Connector

/-- Why a connector does not open. -/
inductive OpeningFault where
  /-- The configuration cannot be used. -/
  | invalid (fault : Config.Fault)
  /-- The place of the records or a data plane cannot be made out. -/
  | unusable (fault : Config.Fault)
  /-- There is no connection to the database. -/
  | storage (fault : Sql.ConnectFault)
  | unregistered (id : String) (fault : RegistryFault)
  deriving DecidableEq, Repr

namespace OpeningFault

/-- The wording of a fault, and behind it those of its causes. -/
def causes : OpeningFault → List String
  | invalid fault => ["Configuration validation failed", fault.message]
  | unusable fault => [fault.message]
  | storage fault => "Failed to initialize storage" :: fault.causes
  | unregistered id fault => ["Failed to register data plane " ++ id, fault.message]

instance : Explained OpeningFault where
  kind _ := "config"
  message e := ": ".intercalate e.causes

end OpeningFault

/-- What is noted of the place of the records. -/
def storageNote : Config.Backend → Note
  | .memory => ⟨.info, "Using in-memory storage backend", []⟩
  | .postgres _ most =>
      ⟨.info, "Connecting to PostgreSQL storage backend", [("max_connections", toString most)]⟩

namespace Site

/-- The site of a configuration before anything is done. -/
def ofManifest (m : Config.Manifest) (now : Instant) : Site :=
  .create now Bus.defaultCapacity m.spec.dataPlanes.livenessDistance?

end Site

namespace SiteM

/-- Makes the place of the records ready; the reason is why no database can be reached. -/
def openStorage (reason : String) (b : Config.Backend) : SiteM (Except OpeningFault Unit) := do
  modify fun s => s.noted (storageNote b)
  match b with
  | .memory => return .ok ()
  | .postgres database _ => return .error (.storage (Sql.connectFault reason database))

/-- Registers the configured data planes, in their order, up to the first failure. -/
def registerStatic : List Config.StaticDataPlane → SiteM (Except OpeningFault (List DataPlane))
  | [] => return .ok []
  | c :: rest => do
      match c.toDataPlane (← get).now with
      | .error e => return .error (.unusable e)
      | .ok d =>
          match ← register d with
          | .error e => return .error (.unregistered d.id e)
          | .ok _ =>
              match ← registerStatic rest with
              | .error e => return .error e
              | .ok more => return .ok (d :: more)

/-- Binds policies to their agreements. -/
def bindAll (bindings : List Config.PolicyBinding) : SiteM Unit :=
  modify fun s =>
    { s with
      policies := bindings.foldl
        (fun t b => Table.put b.agreementId ⟨b.policy, b.attributes⟩ t) s.policies }

/-- Opens a connector; gives the configured data planes. -/
def openWith (m : Config.Manifest) (env : Config.Environment) (reason : String) :
    SiteM (Except OpeningFault (List DataPlane)) := do
  match m.validate, m.spec.storage.toBackend env with
  | .error e, _ => return .error (.invalid e)
  | .ok (), .error e => return .error (.unusable e)
  | .ok (), .ok backend =>
      match ← openStorage reason backend with
      | .error e => return .error e
      | .ok () =>
          match ← registerStatic m.spec.dataPlanes.dataPlanes with
          | .error e => return .error e
          | .ok dataPlanes =>
              bindAll m.spec.policies
              return .ok dataPlanes

end SiteM
end Connector
