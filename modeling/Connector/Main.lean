import Connector.Cli.Program

/-!
# The command line

The program at a terminal: it gathers where it runs, has the command line executed, and prints
what came of that.  What is decided is decided in `Connector.Cli.execute`.
-/

namespace Connector.Cli

/-- The variables that are set. -/
def readEnvironment : IO Config.Environment := do
  let text ← try IO.FS.readFile "/proc/self/environ" catch _ => pure ""
  return Table.ofEntries ((text.splitOn "\x00").filterMap fun entry =>
    match entry.splitOn "=" with
    | name :: value@(_ :: _) => some (name, "=".intercalate value)
    | _ => none)

/-- The name of the machine. -/
def readHost : IO String := do
  let text ← try IO.FS.readFile "/proc/sys/kernel/hostname" catch _ => pure "localhost"
  return text.trimAscii.toString

/-- The files with what stands at a path. -/
def lookAt (files : Config.FileTree) (path : String) : IO Config.FileTree := do
  let steps := files.locate path
  try
    return files.put steps (← IO.FS.readFile path)
  catch
    | .inappropriateType none _ _ => return { files with directories := steps :: files.directories }
    | _ => return files

/-- The directory that the file at a path is in. -/
def directoryOf (path : String) : String :=
  match (path.splitOn "/").dropLast with
  | [] => "."
  | [""] => "/"
  | names => "/".intercalate names

/-- The files at some paths, with the directories they are in. -/
def survey (files : Config.FileTree) (paths : List String) : IO Config.FileTree :=
  ((paths.filter (· != "")).flatMap fun p => [directoryOf p, p]).foldlM lookAt files

/-- Where the program runs: it reaches no network, and its clock counts from when the machine was
started, as no time is printed. -/
def gather (arguments : List String) : IO Surroundings := do
  let here ← IO.currentDir
  let bare : Config.FileTree := ⟨Config.Steps.walk [] (here.toString.splitOn "/"), [], []⟩
  let start : Surroundings :=
    { host := ← readHost, environment := ← readEnvironment, files := ← lookAt bare envFilePath,
      now := ⟨← IO.monoNanosNow⟩, network := Sql.noNetwork, ending := none }
  let files ← survey start.files (pathsOf start.prepared.environment arguments)
  return { start with files }

/-- Writes the files that are new or changed. -/
def save (old new : Config.FileTree) : IO Unit :=
  new.files.forM fun (steps, text) =>
    if old.textAt? steps == some text then pure ()
    else IO.FS.writeFile ("/" ++ "/".intercalate steps) text

/-- Waits until a signal ends the program. -/
partial def waitForSignal : IO Unit := do
  IO.sleep 60000
  waitForSignal

end Connector.Cli

open Connector.Cli in
/-- Runs the program. -/
def main (arguments : List String) : IO UInt32 := do
  let w ← gather arguments
  match execute w arguments with
  | .error _ =>
      IO.eprintln "The connector broke off."
      return 101
  | .ok result =>
      save w.files result.files
      result.output.forM IO.println
      result.errors.forM IO.eprintln
      match result.code with
      | some code => return code.toUInt32
      | none =>
          (← IO.getStdout).flush
          waitForSignal
          return 0
