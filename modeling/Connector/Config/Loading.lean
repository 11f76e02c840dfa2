import Connector.Config.Document
import Connector.Config.FileTree
import Connector.Config.Validation
import Connector.Site.Note

/-!
# Finding a configuration

The configuration is the file that is asked for, or else the first that is there of: the one a
variable names, the one in the working directory, the one in the home directory, the one of the
machine; or else the standard one.  Two variables override what it says.
-/

namespace Connector.Config

/-- The variable that names the configuration. -/
def pathVariable : String := "DSC_CONFIG_PATH"

/-- The variable that names the database. -/
def databaseVariable : String := "DSC_DATABASE_URL"

/-- The variable that tells the number of workers. -/
def workersVariable : String := "DSC_ORCHESTRATOR_WORKERS"

/-- The configuration in the working directory. -/
def workingPath : String := "./connector-config.yaml"

/-- The configuration of the machine. -/
def machinePath : String := "/etc/dsconnector/config.yaml"

/-- The configuration in a home directory. -/
def homePath (home : String) : String :=
  (if home.endsWith "/" then home else home ++ "/") ++ ".dsconnector/config.yaml"

/-- The places where a configuration is looked for, the first one first. -/
def places (env : Environment) : List String :=
  (Table.get? pathVariable env).toList ++ [workingPath]
    ++ ((Table.get? "HOME" env).toList.filter (· != "")).map homePath ++ [machinePath]

/-- The place of the configuration, if there is one. -/
def discover? (env : Environment) (files : FileTree) : Option String :=
  (places env).find? files.holds

/-- A natural number of 64 bits as variables and arguments give it. -/
def natural? (s : String) : Option Nat :=
  let ds := match s.toList with
    | '+' :: ds => ds
    | ds => ds
  if ds.isEmpty || !ds.all Char.isDigit then none
  else some (Json.Reader.digitsValue ds) |>.filter fun n => decide (n < 18446744073709551616)

/-- The configuration with the database of the variable. -/
def overrideDatabase (env : Environment) (m : Manifest) : List Note × Manifest :=
  match Table.get? databaseVariable env with
  | none => ([], m)
  | some url =>
      ([⟨.info, s!"Environment override: {databaseVariable} (postgres backend)", []⟩],
        { m with spec := { m.spec with
            storage :=
              { m.spec.storage with backend := .postgres, connectionString := some url } } })

/-- The configuration with a number of workers. -/
def Manifest.withWorkers (n : Nat) (m : Manifest) : Manifest :=
  { m with spec := { m.spec with orchestrator := { m.spec.orchestrator with workers := n } } }

/-- The configuration with the number of workers of the variable. -/
def overrideWorkers (env : Environment) (m : Manifest) : List Note × Manifest :=
  match Table.get? workersVariable env with
  | none => ([], m)
  | some value =>
      match natural? value with
      | some n => ([⟨.info, s!"Environment override: {workersVariable}={n}", []⟩], m.withWorkers n)
      | none =>
          let message :=
            "Invalid value for " ++ workersVariable ++ ": '" ++ value
              ++ "'. Expected a number. Ignoring."
          ([⟨.warn, message, []⟩], m)

/-- The configuration with what the variables say instead. -/
def overridden (env : Environment) (m : Manifest) : List Note × Manifest :=
  let (first, m) := overrideDatabase env m
  let (second, m) := overrideWorkers env m
  (first ++ second, m)

/-- Why no configuration was loaded; the flag tells that the file was asked for. -/
inductive LoadFault where
  /-- The file cannot be read. -/
  | unreadable (path : String) (fault : FileFault) (isExplicit : Bool)
  /-- The file holds no configuration. -/
  | malformed (path : String) (isExplicit : Bool)
  deriving DecidableEq, Repr

namespace LoadFault

/-- How a message begins about a file that was asked for. -/
def about (path : String) (isExplicit : Bool) : String :=
  if isExplicit then "Failed to load config at " ++ Text.quoted path ++ ": " else ""

/-- The wording of a fault. -/
def message : LoadFault → String
  | unreadable path fault isExplicit => about path isExplicit ++ fault.message
  | malformed path isExplicit => about path isExplicit ++ "malformed configuration"

end LoadFault

/-- The configuration in the file at a path. -/
def readManifest (files : FileTree) (path : String) (isExplicit : Bool) :
    Except LoadFault Manifest :=
  match files.read path with
  | .error e => .error (.unreadable path e isExplicit)
  | .ok text =>
      match Manifest.parse? text with
      | some m => .ok m
      | none => .error (.malformed path isExplicit)

/-- What is loaded first, with what is noted of it. -/
def findManifest (host : String) (env : Environment) (files : FileTree) (explicit : Option String) :
    Note × Except LoadFault Manifest :=
  match explicit with
  | some path =>
      (⟨.info, "Loading configuration from explicit path: " ++ Text.quoted path, []⟩,
        readManifest files path true)
  | none =>
      match discover? env files with
      | some path =>
          (⟨.info, "Loading configuration from discovered path: " ++ Text.quoted path, []⟩,
            readManifest files path false)
      | none =>
          (⟨.warn, "No configuration file found in standard locations. Using defaults.", []⟩,
            .ok (.standard host))

/-- Loads a configuration on a machine; gives also the notes taken. -/
def load (host : String) (env : Environment) (files : FileTree) (explicit : Option String) :
    List Note × Except LoadFault Manifest :=
  match findManifest host env files explicit with
  | (first, .error e) => ([first], .error e)
  | (first, .ok m) =>
      let (more, m) := overridden env m
      (first :: more, .ok m)

end Connector.Config
