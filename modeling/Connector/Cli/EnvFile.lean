import Connector.Config.Validation

/-!
# Variables from a file

A file of variables has a line for each: a name, an equals sign, and a value.  A value may stand
in quotes, over several lines; single quotes keep it as it is, elsewhere a backslash escapes and a
dollar sign puts the value of a variable in.  A sharp sign begins a comment.  The file is read up
to the first line that is wrong.  A variable that is already set keeps its value.
-/

namespace Connector.Cli.EnvFile

/-- Where the end of a line finds the reading. -/
inductive Place where
  | complete
  | escape
  | strong
  | strongEscape
  | weak
  | weakEscape
  | comment
  | blank
  deriving DecidableEq, Repr, Inhabited

/-- The place after a character outside of quotes. -/
def Place.open (c : Char) : Place :=
  if c == '\\' then .escape
  else if c == '"' then .weak
  else if c == '\'' then .strong
  else .complete

/-- The place after a character. -/
def Place.after (p : Place) (c : Char) : Place :=
  match p with
  | blank => if c == '#' then comment else Place.open c
  | escape => complete
  | complete =>
      if Text.isBlank c && c != '\n' && c != '\r' then blank else Place.open c
  | weak => if c == '\\' then weakEscape else if c == '"' then complete else weak
  | weakEscape => weak
  | strong => if c == '\\' then strongEscape else if c == '\'' then complete else strong
  | strongEscape => strong
  | comment => comment

/-- The text of a line before its comment, if it has one, and the place at its end. -/
def scan : Place → List Char → List Char × Place
  | p, [] => ([], p)
  | p, c :: rest =>
      match p.after c with
      | .comment => ([], .comment)
      | q =>
          let r := scan q rest
          (c :: r.1, r.2)

/-- The lines of a text, each with its end. -/
def physicalLines (cs : List Char) : List (List Char) :=
  cs.foldr (fun c acc =>
    if c == '\n' then ['\n'] :: acc
    else
      match acc with
      | [] => [[c]]
      | line :: rest => (c :: line) :: rest) []

/-- A line without its end. -/
def withoutEnd (cs : List Char) : List Char :=
  match cs.reverse with
  | '\n' :: '\r' :: rest => rest.reverse
  | '\n' :: rest => rest.reverse
  | _ => cs

/-- The lines of a file, those in quotes joined, up to one that does not end. -/
def logicalLines (before : List Char) (p : Place) : List (List Char) → List (List Char)
  | [] => []
  | line :: rest =>
      if (Text.trimStart (before ++ line)).head? == some '#' then logicalLines [] .complete rest
      else
        match scan p line with
        | (text, .comment) => (before ++ text) :: logicalLines [] .complete rest
        | (_, .complete) => withoutEnd (before ++ line) :: logicalLines [] .complete rest
        | (_, q) => logicalLines (before ++ line) q rest

/-- How a variable is put in. -/
inductive Insertion where
  | no
  | plain
  | braced
  deriving DecidableEq, Repr, Inhabited

/-- How far a value is read. -/
structure Value where
  isStrong : Bool
  isWeak : Bool
  isEscaped : Bool
  isEnding : Bool
  insertion : Insertion
  /-- The name of the variable to put in, backwards. -/
  name : List Char
  /-- The value so far, backwards. -/
  text : List Char

/-- The value with a variable put in. -/
def Value.insert (v : Value) (lookup : String → String) : Value :=
  { v with text := (lookup (String.ofList v.name.reverse)).toList.reverse ++ v.text, name := [] }

/-- The value after a character while the name of a variable is read. -/
def Value.naming (v : Value) (lookup : String → String) (c : Char) : Value :=
  if c.isAlphanum || decide (127 < c.toNat) then { v with name := c :: v.name }
  else
    match v.insertion with
    | .braced =>
        if c == '\x7d' then { v.insert lookup with insertion := .no }
        else { v with name := c :: v.name }
    | _ =>
        if c == '\x7b' && v.name.isEmpty then { v with insertion := .braced }
        else
          let v := v.insert lookup
          if c == '$' then { v with insertion := .plain }
          else { v with insertion := .no, text := c :: v.text }

/-- The text of a value where it ends; none if it cannot end there. -/
def Value.finish (v : Value) (lookup : String → String) : Option String :=
  if v.insertion == .braced || v.isStrong || v.isWeak then none
  else some (String.ofList (v.insert lookup).text.reverse)

/-- Reads a value; none where it is wrong. -/
def readValue (lookup : String → String) : Value → List Char → Option String
  | v, [] => v.finish lookup
  | v, c :: rest =>
      if v.isEnding then
        if c == ' ' || c == '\t' then readValue lookup v rest
        else if c == '#' then v.finish lookup
        else none
      else if v.isEscaped then
        if ['\\', '\'', '"', '$', ' '].contains c then
          readValue lookup { v with isEscaped := false, text := c :: v.text } rest
        else if c == 'n' then
          readValue lookup { v with isEscaped := false, text := '\n' :: v.text } rest
        else none
      else if v.isStrong then
        if c == '\'' then readValue lookup { v with isStrong := false } rest
        else readValue lookup { v with text := c :: v.text } rest
      else if v.insertion != .no then readValue lookup (v.naming lookup c) rest
      else if c == '$' then readValue lookup { v with insertion := .plain } rest
      else if c == '\\' then readValue lookup { v with isEscaped := true } rest
      else if v.isWeak then
        if c == '"' then readValue lookup { v with isWeak := false } rest
        else readValue lookup { v with text := c :: v.text } rest
      else if c == '\'' then readValue lookup { v with isStrong := true } rest
      else if c == '"' then readValue lookup { v with isWeak := true } rest
      else if c == ' ' || c == '\t' then readValue lookup { v with isEnding := true } rest
      else readValue lookup { v with text := c :: v.text } rest

/-- The name of a variable and the rest behind blanks. -/
def readName (cs : List Char) : Option (String × List Char) :=
  match cs with
  | [] => none
  | c :: _ =>
      if c.isAlpha || c == '_' then
        let name := cs.takeWhile fun c => c.isAlphanum || c == '_' || c == '.'
        some (String.ofList name, Text.trimStart (cs.drop name.length))
      else none

/-- The name of the variable of a line and the text behind its equals sign. -/
def readHead (cs : List Char) : Option (String × List Char) :=
  match readName cs with
  | some (name, '=' :: rest) => some (name, rest)
  | some ("export", rest) =>
      match readName rest with
      | some (name, '=' :: rest) => some (name, rest)
      | _ => none
  | _ => none

/-- The variable of a line; the outer option tells a line that is wrong. -/
def readLine (lookup : String → String) (line : List Char) : Option (Option (String × String)) :=
  match Text.trimStart (Text.trimEnd line) with
  | [] => some none
  | '#' :: _ => some none
  | cs =>
      match readHead cs with
      | none => none
      | some (name, rest) =>
          match Text.trimStart rest with
          | [] => some (some (name, ""))
          | '#' :: _ => some (some (name, ""))
          | value =>
              (readValue lookup ⟨false, false, false, false, .no, [], []⟩ value).map fun v =>
                some (name, v)

/-- The environment with the variables of some lines; what they say is kept apart, for a variable
may be put in that is set already. -/
def loadLines (said : Table String) (env : Config.Environment) :
    List (List Char) → Config.Environment
  | [] => env
  | line :: rest =>
      let lookup (name : String) : String :=
        ((Table.get? name env).or (Table.get? name said)).getD ""
      match readLine lookup line with
      | none => env
      | some none => loadLines said env rest
      | some (some (name, value)) =>
          let env' := if Table.has name env then env else Table.put name value env
          loadLines (Table.put name value said) env' rest

/-- The environment with the variables of a file. -/
def load (text : String) (env : Config.Environment) : Config.Environment :=
  let cs := match text.toList with
    | '\ufeff' :: cs => cs
    | cs => cs
  loadLines [] env (logicalLines [] .complete (physicalLines cs))

end Connector.Cli.EnvFile
