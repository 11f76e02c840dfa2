import Connector.Cli.EnvFile
import Connector.Cli.Filter
import Connector.Cli.Invocation
import Connector.Cli.Listing
import Connector.Rehearsal.Operation

/-!
# The program

What the program prints and leaves behind, and how it ends: with 0 if all went well, with 1 if a
command failed, with 2 if the command line was wrong.  Notes are printed between the other lines,
as the filter lets them through.
-/

namespace Connector.Cli

open Config (Manifest Environment FileTree)

/-- Where the program runs. -/
structure Surroundings where
  host : String
  environment : Environment
  files : FileTree
  now : Instant
  /-- Why no database server can be reached. -/
  network : String
  /-- The signal that ends the connector, and after how many milliseconds. -/
  ending : Option (Int × Rehearsal.EndSignal)
  deriving Inhabited

/-- What becomes visible of a command. -/
inductive Line where
  | text (s : String)
  /-- A note of an area. -/
  | note (area : String) (n : Note)
  deriving DecidableEq, Repr

/-- The area of notes about the configuration and the connector's work. -/
def coreArea : String := "dataspace_transfer_core"

/-- The area of notes about the program itself. -/
def programArea : String := "dataspace_transfer::commands::run"

/-- What a command did: its lines, the causes of its failure if it failed, and the files after. -/
structure Outcome where
  lines : List Line
  failure : List String
  files : FileTree
  /-- Whether it came to its end. -/
  hasEnded : Bool
  deriving Inhabited

namespace Outcome

/-- The texts among the lines. -/
def texts (o : Outcome) : List String :=
  o.lines.filterMap fun
    | .text s => some s
    | .note _ _ => none

/-- The notes among the lines. -/
def notes (o : Outcome) : List Note :=
  o.lines.filterMap fun
    | .text _ => none
    | .note _ n => some n

end Outcome

/-- Notes about the configuration, as lines. -/
def noted (notes : List Note) : List Line := notes.map (.note coreArea)

/-- What the program says when no configuration was loaded. -/
def loadFailed : String := "Failed to load configuration"

/-- Goes on with the configuration, after some lines. -/
def withManifest (w : Surroundings) (config : Option String) (before : List Line)
    (next : Manifest → List Line × List String) : Outcome :=
  match Config.load w.host w.environment w.files config with
  | (notes, .error e) => ⟨before ++ noted notes, [loadFailed, e.message], w.files, true⟩
  | (notes, .ok m) =>
      let (lines, failure) := next m
      ⟨before ++ noted notes ++ lines, failure, w.files, true⟩

/-- Shows the configuration. -/
def display (w : Surroundings) (config : Option String) (paths : Bool) : Outcome :=
  withManifest w config [] fun m =>
    (((if paths then placesListing w.environment config else []) ++ listing m).map .text, [])

/-- Checks the configuration. -/
def validate (w : Surroundings) (config : Option String) : Outcome :=
  withManifest w config [.text "Validating configuration..."] fun m =>
    match m.validate with
    | .ok () => ([.text "✓ Configuration is valid"], [])
    | .error e => ([], ["Configuration validation failed", e.message])

/-- Writes a configuration to start from. -/
def generate (w : Surroundings) (output : String) (examples : Bool) : Outcome :=
  match w.files.write output (Manifest.sample w.host examples).print with
  | .ok files => ⟨[.text s!"✓ Configuration generated: {output}"], [], files, true⟩
  | .error e =>
      ⟨[], ["Failed to write config to " ++ Text.quoted output, e.message], w.files, true⟩

/-- The area of a note taken while the connector runs. -/
def areaOf (n : Note) : String :=
  if ["Starting dataspace connector", "Stopping orchestrator workers",
      "Dataspace connector stopped", "Received SIGTERM signal", "Received Ctrl+C signal",
      "Background task ended abnormally"].contains n.message then programArea
  else coreArea

/-- Runs the connector. -/
def run (w : Surroundings) (config : Option String) (workers : Option Nat) :
    Except Rehearsal.Crash Outcome := do
  let (notes, loaded) := Config.load w.host w.environment w.files config
  match loaded with
  | .error e => return ⟨noted notes, [loadFailed, e.message], w.files, true⟩
  | .ok m =>
      let m := (workers.map fun n => m.withWorkers n).getD m
      let (opened, stage) ←
        (Rehearsal.StageM.operate m w.environment w.network w.ending).run (.ofManifest m w.now)
      let lines := noted notes ++ stage.site.notes.reverse.map fun n => .note (areaOf n) n
      match opened with
      | .error e => return ⟨lines, e.causes, w.files, true⟩
      | .ok () => return ⟨lines, [], w.files, w.ending.isSome⟩

/-- Does what a command says. -/
def Command.perform (w : Surroundings) (config : Option String) :
    Command → Except Rehearsal.Crash Outcome
  | .run workers => Cli.run w config workers
  | .display paths => return Cli.display w config paths
  | .validate file => return Cli.validate w (file.or config)
  | .generate output examples => return Cli.generate w output examples

/-- The printed line of a note. -/
def noteText (n : Note) : String :=
  n.level.word ++ " " ++ n.message ++ String.join (n.fields.map fun f => " " ++ f.1 ++ "=" ++ f.2)

/-- The lines that are printed under a filter. -/
def printed (f : Filter) (lines : List Line) : List String :=
  lines.filterMap fun
    | .text s => some s
    | .note area n => if f.shows area n.level then some (noteText n) else none

/-- The lines that tell of a failure and its causes. -/
def failureLines : List String → List String
  | [] => []
  | [top] => ["Error: " ++ top]
  | [top, cause] => ["Error: " ++ top, "", "Caused by:", "    " ++ cause]
  | top :: causes =>
      ["Error: " ++ top, "", "Caused by:"]
        ++ causes.zipIdx.map fun c => "    " ++ toString c.2 ++ ": " ++ c.1

/-- What the program printed, and how it ended; there is no code if it never did. -/
structure Result where
  code : Option Nat
  output : List String
  errors : List String
  files : FileTree

/-- The variable for the filter. -/
def filterVariable : String := "RUST_LOG"

/-- The filter of the environment if it can be read, or else that of the command line. -/
def chooseFilter (env : Environment) (logLevel : String) : Except FilterFault Filter :=
  match (Table.get? filterVariable env).map Filter.parse with
  | some (.ok f) => .ok f
  | _ => Filter.parse logLevel

/-- The file of variables in the working directory. -/
def envFilePath : String := ".env"

/-- The environment with the variables of the file in the working directory. -/
def Surroundings.prepared (w : Surroundings) : Surroundings :=
  match w.files.read envFilePath with
  | .ok text => { w with environment := EnvFile.load text w.environment }
  | .error _ => w

/-- The paths of the files that matter to a command line, in a prepared environment. -/
def pathsOf (env : Environment) (arguments : List String) : List String :=
  match Invocation.read env arguments with
  | .error _ => []
  | .ok invocation =>
      let own := match invocation.command with
        | some (.validate file) => file.toList
        | some (.generate output _) => [output]
        | _ => []
      own ++ invocation.config.toList ++ Config.places env

/-- What the program answers to a command line that asks for nothing to be done. -/
def Halt.result (h : Halt) (files : FileTree) : Result :=
  match h with
  | .help about => ⟨some 0, [about], [], files⟩
  | .version name => ⟨some 0, [name ++ " " ++ programVersion], [], files⟩
  | .overview about => ⟨some 2, [], [about], files⟩
  | .misuse m => ⟨some 2, [], ["error: " ++ m.message], files⟩

/-- Runs the program. -/
def execute (w : Surroundings) (arguments : List String) : Except Rehearsal.Crash Result := do
  let w := w.prepared
  match Invocation.read w.environment arguments with
  | .error halt => return halt.result w.files
  | .ok invocation =>
      match chooseFilter w.environment invocation.logLevel with
      | .error e =>
          return ⟨some 1, [], failureLines ("Failed to create log filter" :: e.causes), w.files⟩
      | .ok filter =>
          match invocation.command with
          | none => return ⟨some 1, [], ["No command specified. Use --help for usage."], w.files⟩
          | some command =>
              let o ← command.perform w invocation.config
              let code := if !o.hasEnded then none else if o.failure.isEmpty then some 0 else some 1
              return ⟨code, printed filter o.lines, failureLines o.failure, o.files⟩

end Connector.Cli
