import Connector.Cli.Grammar
import Connector.Config.Loading

/-!
# What a command line asks for

The program runs the connector, or shows, checks or writes a configuration.  The path of the
configuration and the log level may be given to any command, and by the environment.
-/

namespace Connector.Cli

/-- What the program is asked to do. -/
inductive Command where
  /-- To run the connector, perhaps with another number of workers. -/
  | run (workers : Option Nat)
  /-- To show the configuration, perhaps with the places where it is looked for. -/
  | display (paths : Bool)
  /-- To check the configuration, or that of a file. -/
  | validate (file : Option String)
  /-- To write a configuration to start from. -/
  | generate (output : String) (examples : Bool)
  deriving DecidableEq, Repr, Inhabited

/-- What a command line asks for. -/
structure Invocation where
  config : Option String
  logLevel : String
  command : Option Command
  deriving DecidableEq, Repr, Inhabited

/-- The name of the program. -/
def programName : String := "dsconnector"

/-- The version of the program. -/
def programVersion : String := "0.3.0-pre-alpha"

/-- The switch for the path of the configuration. -/
def configSwitch : Switch := ⟨"config", some 'c', some (.path, "FILE")⟩

/-- The switch for the log level. -/
def levelSwitch : Switch := ⟨"log-level", none, some (.text, "LOG_LEVEL")⟩

/-- The variable for the log level. -/
def levelVariable : String := "DSC_LOG_LEVEL"

/-- The switches that every command takes. -/
def everywhere : List Switch := [configSwitch, levelSwitch]

/-- The switches that the environment gives values to. -/
def prepared (env : Config.Environment) : List (Switch × String) :=
  [(configSwitch, Config.pathVariable), (levelSwitch, levelVariable)].filterMap fun s =>
    (Table.get? s.2 env).map fun value => (s.1, value)

/-- The command that runs the connector. -/
def runShape : Shape :=
  .mk "run" "Run the transfer process orchestrator until interrupted"
    (⟨"workers", none, some (.count, "WORKERS")⟩ :: everywhere) none [] false

/-- The commands about the configuration. -/
def configShape : Shape :=
  .mk "config" "Configuration management" everywhere none
    [.mk "show" "Show current configuration" (⟨"paths", none, none⟩ :: everywhere) none [] false,
     .mk "validate" "Validate configuration file" everywhere (some "FILE") [] false,
     .mk "generate" "Generate sample configuration"
       (⟨"output", some 'o', some (.path, "OUTPUT")⟩ :: ⟨"examples", none, none⟩ :: everywhere)
       none [] false]
    true

/-- The program. -/
def programShape : Shape :=
  .mk programName "Dataspace transfer orchestrator daemon and configuration CLI" everywhere none
    [runShape, configShape] false

namespace Reading

/-- The command that was read. -/
def command? (r : Reading) : Option Command :=
  match r.path.drop 1 with
  | ["run"] => some (.run ((r.valueOf? "workers").bind Config.natural?))
  | ["config", "show"] => some (.display (r.valueOf? "paths").isSome)
  | ["config", "validate"] => some (.validate r.operand)
  | ["config", "generate"] =>
      some (.generate ((r.valueOf? "output").getD Config.workingPath)
        (r.valueOf? "examples").isSome)
  | _ => none

/-- What was asked for. -/
def invocation (r : Reading) (env : Config.Environment) : Invocation where
  config := (r.valueOf? "config").or (Table.get? Config.pathVariable env)
  logLevel := ((r.valueOf? "log-level").or (Table.get? levelVariable env)).getD "info"
  command := r.command?

end Reading

/-- What a command line asks for in an environment. -/
def Invocation.read (env : Config.Environment) (arguments : List String) :
    Except Halt Invocation := do
  let r ← Reading.read (prepared env) arguments (.start programShape)
  return r.invocation env

end Connector.Cli
