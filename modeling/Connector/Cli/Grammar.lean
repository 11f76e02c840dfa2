import Connector.Table

/-!
# Command lines

A command has switches, which may take a value, perhaps an operand, and perhaps commands below it.
Arguments are read from left to right.  A switch takes its value from behind an equals sign, or
from the next argument unless that looks like a switch; two dashes end the switches; `help` and
`version` are known everywhere.  What is wrong first is reported.
-/

namespace Connector.Cli

/-- What may stand as a value. -/
inductive Kind where
  | text
  /-- A path; not empty. -/
  | path
  /-- A natural number of 64 bits. -/
  | count
  deriving DecidableEq, Repr, Inhabited

/-- Why a text is no number. -/
def countFault? (s : String) : Option String :=
  let rec scan (n : Nat) : List Char → Option String
    | [] => none
    | c :: rest =>
        if !c.isDigit then some "invalid digit found in string"
        else
          let m := n * 10 + (c.toNat - 48)
          if m < 18446744073709551616 then scan m rest
          else some "number too large to fit in target type"
  match s.toList with
  | [] => some "cannot parse integer from empty string"
  | ['+'] => some "invalid digit found in string"
  | '+' :: ds => scan 0 ds
  | ds => scan 0 ds

/-- A switch of a command. -/
structure Switch where
  long : String
  short : Option Char
  /-- The kind of its value and the name it goes by. -/
  value : Option (Kind × String)
  deriving DecidableEq, Repr, Inhabited

/-- How a switch is named in a message. -/
def Switch.shown (s : Switch) : String :=
  "--" ++ s.long ++ (match s.value with
    | some (_, name) => " <" ++ name ++ ">"
    | none => "")

/-- A command. -/
inductive Shape where
  | mk (name about : String) (switches : List Switch) (operand : Option String)
      (commands : List Shape) (needsCommand : Bool)
  deriving Inhabited

namespace Shape

/-- The name of a command. -/
def name : Shape → String
  | mk name _ _ _ _ _ => name

/-- What a command is for. -/
def about : Shape → String
  | mk _ about _ _ _ _ => about

/-- The switches of a command. -/
def switches : Shape → List Switch
  | mk _ _ switches _ _ _ => switches

/-- The name of the operand, if the command takes one. -/
def operand : Shape → Option String
  | mk _ _ _ operand _ _ => operand

/-- The commands below a command. -/
def commands : Shape → List Shape
  | mk _ _ _ _ commands _ => commands

/-- Whether one of the commands below must be given. -/
def needsCommand : Shape → Bool
  | mk _ _ _ _ _ needs => needs

/-- The command of a name below a command. -/
def find? (s : Shape) (name : String) : Option Shape := s.commands.find? fun b => b.name == name

/-- Whether a name asks for help below a command. -/
def isHelp (s : Shape) (name : String) : Bool := name == "help" && !s.commands.isEmpty

end Shape

/-- What is wrong with a command line. -/
inductive Misuse where
  | unknownCommand (name : String)
  | unknownArgument (text : String)
  | noValue (switch : String)
  | badValue (value switch reason : String)
  | extraValue (value switch : String)
  | repeated (switch : String)
  /-- One of the commands below must be given. -/
  | noCommand (name : String)
  /-- A command behind the end of the switches. -/
  | hiddenCommand (name : String)
  deriving DecidableEq, Repr

/-- The first line that tells of a misuse. -/
def Misuse.message : Misuse → String
  | unknownCommand name => s!"unrecognized subcommand '{name}'"
  | unknownArgument text => s!"unexpected argument '{text}' found"
  | noValue switch => s!"a value is required for '{switch}' but none was supplied"
  | badValue value switch reason => s!"invalid value '{value}' for '{switch}': {reason}"
  | extraValue value switch =>
      s!"unexpected value '{value}' for '{switch}' found; no more were accepted"
  | repeated switch => s!"the argument '{switch}' cannot be used multiple times"
  | noCommand name => s!"'{name}' requires a subcommand but one was not provided"
  | hiddenCommand name => s!"subcommand '{name}' exists; to use it, remove the '--' before it"

/-- Why a command line asks for nothing to be done. -/
inductive Halt where
  /-- It asks what a command is for. -/
  | help (about : String)
  /-- It asks for the version under the name of a command. -/
  | version (name : String)
  /-- A command was given without saying what it should do. -/
  | overview (about : String)
  | misuse (m : Misuse)
  deriving DecidableEq, Repr

/-- How far the arguments of a command are read. -/
structure Reading where
  shape : Shape
  /-- The names of the commands up to this one. -/
  path : List String
  /-- The values given to this command, the last one first. -/
  given : List (String × String)
  /-- The values given to the commands above. -/
  above : List (String × String)
  operand : Option String
  /-- The switch that waits for its value. -/
  pending : Option Switch
  /-- Whether the switches have ended. -/
  isVerbatim : Bool

namespace Reading

/-- The beginning of a command. -/
def start (shape : Shape) : Reading := ⟨shape, [shape.name], [], [], none, none, false⟩

/-- Stops at a misuse. -/
def fail {α : Type} (m : Misuse) : Except Halt α := .error (.misuse m)

/-- Refuses a value that is not of its kind. -/
def checkValue (kind : Kind) (shown value : String) : Except Halt Unit :=
  match kind with
  | .text => .ok ()
  | .path => if value == "" then fail (.noValue shown) else .ok ()
  | .count =>
      match countFault? value with
      | some reason => fail (.badValue value shown reason)
      | none => .ok ()

/-- Gives a value to a switch, at most once. -/
def give (r : Reading) (s : Switch) (value : String) : Except Halt Reading := do
  if r.given.any fun g => g.1 == s.long then fail (.repeated s.shown)
  match s.value with
  | some (kind, _) => checkValue kind s.shown value
  | none => pure ()
  return { r with given := (s.long, value) :: r.given, pending := none }

/-- Refuses a switch that is left without a value. -/
def settle (r : Reading) : Except Halt Reading :=
  match r.pending with
  | some s => fail (.noValue s.shown)
  | none => .ok r

/-- The switch `help`. -/
def helpSwitch : Switch := ⟨"help", some 'h', none⟩

/-- The switch `version`. -/
def versionSwitch : Switch := ⟨"version", some 'V', none⟩

/-- The switches that a command knows. -/
def known (r : Reading) : List Switch := r.shape.switches ++ [helpSwitch, versionSwitch]

/-- A switch without a value; two of them end the reading. -/
def flip (r : Reading) (s : Switch) : Except Halt Reading := do
  let r ← r.settle
  if s == helpSwitch then throw (.help r.shape.about)
  else if s == versionSwitch then throw (.version ("-".intercalate r.path))
  else r.give s ""

/-- A switch with the value behind its equals sign, if there is one. -/
def switch (r : Reading) (s : Switch) (value : Option String) : Except Halt Reading :=
  match s.value, value with
  | none, none => r.flip s
  | none, some v => fail (.extraValue v s.shown)
  | some _, some v => do (← r.settle).give s v
  | some _, none => do return { ← r.settle with pending := some s }

/-- The text before the first equals sign, and the text behind it. -/
def splitEquals (cs : List Char) : String × Option String :=
  match cs.span (· != '=') with
  | (name, _ :: value) => (String.ofList name, some (String.ofList value))
  | (name, []) => (String.ofList name, none)

/-- A switch written out. -/
def long (r : Reading) (cs : List Char) : Except Halt Reading :=
  let (name, value) := splitEquals cs
  match r.known.find? fun s => s.long == name with
  | some s => r.switch s value
  | none => fail (.unknownArgument ("--" ++ name))

/-- Switches of one letter each; the rest behind one that takes a value is its value. -/
def shorts : List Char → Reading → Except Halt Reading
  | [], r => .ok r
  | c :: rest, r =>
      match r.known.find? fun s => s.short == some c with
      | none => fail (.unknownArgument ("-" ++ String.singleton c))
      | some s =>
          if s.value.isNone then do shorts rest (← r.flip s)
          else
            match rest with
            | [] => r.switch s none
            | '=' :: value => r.switch s (some (String.ofList value))
            | value => r.switch s (some (String.ofList value))

/-- An argument that belongs to no switch. -/
def plain (r : Reading) (arg : String) : Except Halt Reading :=
  match r.shape.operand, r.operand with
  | some name, none => do
      let r ← r.settle
      checkValue .path ("[" ++ name ++ "]") arg
      return { r with operand := some arg }
  | _, _ =>
      if r.isVerbatim && (r.shape.isHelp arg || (r.shape.find? arg).isSome) then
        fail (.hiddenCommand arg)
      else if r.shape.commands.isEmpty then fail (.unknownArgument arg)
      else fail (.unknownCommand arg)

/-- What a command below is for; the names lead to it. -/
def explain : Shape → List String → Except Halt Reading
  | s, [] => .error (.help s.about)
  | s, name :: rest =>
      match s.find? name with
      | some b => explain b rest
      | none =>
          if s.isHelp name && rest.isEmpty then
            .error (.help "Print this message or the help of the given subcommand(s)")
          else fail (.unknownCommand name)

/-- The reading of a command below. -/
def enter (r : Reading) (s : Shape) : Reading :=
  ⟨s, r.path ++ [s.name], [], r.given ++ r.above, none, none, false⟩

/-- Refuses a value that the environment gives to a switch, if it counts. -/
def checkPrepared (r : Reading) : List (Switch × String) → Except Halt Unit
  | [] => .ok ()
  | (s, value) :: rest =>
      match s.value, r.given.lookup s.long with
      | some (kind, _), none => do
          checkValue kind s.shown value
          checkPrepared r rest
      | _, _ => checkPrepared r rest

/-- Ends the reading of a command; the environment gives values to some switches. -/
def finish (prepared : List (Switch × String)) (r : Reading) : Except Halt Reading := do
  let r ← r.settle
  r.checkPrepared prepared
  if r.shape.needsCommand then
    if r.given.isEmpty && prepared.isEmpty then throw (.overview r.shape.about)
    else fail (.noCommand (" ".intercalate r.path))
  else return r

/-- Reads the arguments of a command; the environment gives values to some switches. -/
def read (prepared : List (Switch × String)) : List String → Reading → Except Halt Reading
  | [], r => r.finish prepared
  | arg :: rest, r =>
      if r.isVerbatim then do read prepared rest (← r.plain arg)
      else
        match (if r.pending.isNone then r.shape.find? arg else none) with
        | some s => read prepared rest (r.enter s)
        | none =>
            if r.pending.isNone && r.shape.isHelp arg then explain r.shape rest
            else
              match arg.toList with
              | ['-', '-'] => read prepared rest { r with isVerbatim := true }
              | '-' :: '-' :: cs => do read prepared rest (← r.long cs)
              | '-' :: c :: cs => do read prepared rest (← shorts (c :: cs) r)
              | _ => do
                  match r.pending with
                  | some s => read prepared rest (← r.give s arg)
                  | none => read prepared rest (← r.plain arg)

/-- The value of a switch, of the last command that got one. -/
def valueOf? (r : Reading) (long : String) : Option String := (r.given ++ r.above).lookup long

end Reading
end Connector.Cli
