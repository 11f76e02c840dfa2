import Connector.Json.Writer
import Connector.Yaml.Plain
import Connector.Yaml.Scalar

/-!
# Writing documents

A block of lines for every collection that is not empty: two columns further in for a mapping, at
the column of the mapping around it for a sequence.  A text is written plain where it would be read
back as itself, with its lines one below the other where it has several, and else in quotes.
-/

namespace Connector.Yaml

/-- The words that were truth values in an earlier version of the format. -/
def oldBooleans : List String :=
  ["y", "Y", "yes", "Yes", "YES", "n", "N", "no", "No", "NO", "true", "True", "TRUE", "false",
    "False", "FALSE", "on", "On", "ON", "off", "Off", "OFF"]

/-- The style asked for a text. -/
def Style.wanted (s : String) : Style :=
  if oldBooleans.contains s then .single
  else if s.toList.contains '\n' then .literal
  else
    match Plain.ofText s with
    | .text _ => if Plain.isPaddedNumber s.toList then .single else .plain
    | _ => .single

/-- Whether a character is written as it is. -/
def isPrintable (c : Char) : Bool :=
  let n := c.toNat
  n == 10 || (decide (32 ≤ n) && decide (n ≤ 126))
    || (decide (0xA0 ≤ n) && decide (n ≤ 0xFFFD) && n != 0xFEFF)

/-- Characters that no plain scalar begins with. -/
def isLeadingMark (c : Char) : Bool := "#,[]{}&*!|>'\"%@`".toList.contains c

/-- Whether some text has an indicator of blocks in it, given the character before it. -/
def hasMark : Option Char → List Char → Bool
  | _, [] => false
  | before, c :: rest =>
      (match before with
        | none => isLeadingMark c || ((c == '?' || c == ':' || c == '-') && endsWord rest.head?)
        | some b => (c == ':' && endsWord rest.head?) || (c == '#' && endsWord (some b)))
      || hasMark (some c) rest

/-- Whether two neighbours in a text satisfy two conditions. -/
def hasPair (p q : Char → Bool) : List Char → Bool
  | a :: b :: rest => (p a && q b) || hasPair p q (b :: rest)
  | _ => false

/-- Whether a character is a space. -/
def isSpace (c : Char) : Bool := c == ' '

/-- Whether a text begins or ends with a character of a kind. -/
def hasAtEnd (p : Char → Bool) (cs : List Char) : Bool := cs.head?.any p || cs.getLast?.any p

/-- Whether a text has to be escaped. -/
def needsEscapes (cs : List Char) : Bool :=
  hasPair isSpace isBreak cs || !cs.all isPrintable

/-- Whether a text may stand plain in a block. -/
def fitsPlain (cs : List Char) : Bool :=
  !(cs.isEmpty || "---".toList.isPrefixOf cs || "...".toList.isPrefixOf cs || hasMark none cs
    || hasAtEnd isSpace cs || cs.any isBreak || needsEscapes cs)

/-- Whether a text may stand in single quotes. -/
def fitsSingle (cs : List Char) : Bool := !(hasPair isBreak isSpace cs || needsEscapes cs)

/-- Whether a text may stand as a block of lines. -/
def fitsBlock (cs : List Char) : Bool := !(cs.isEmpty || cs.getLast?.any isSpace || needsEscapes cs)

/-- The style a text is written in; a key on one line is no block. -/
def Style.of (isKey : Bool) (s : String) : Style :=
  let cs := s.toList
  let quoted := if fitsSingle cs && !(isKey && cs.any isBreak) then .single else .double
  match Style.wanted s with
  | .plain => if fitsPlain cs then .plain else quoted
  | .literal => if fitsBlock cs && !isKey then .literal else .double
  | _ => quoted

/-- Hexadecimal digits of a number, in capitals, with leading zeros up to a width. -/
def hexCode (width n : Nat) : List Char :=
  let ds := (Nat.toDigits 16 n).map Char.toUpper
  List.replicate (width - ds.length) '0' ++ ds

/-- A character as it stands in double quotes. -/
def doubleChar (c : Char) : List Char :=
  let n := c.toNat
  if isPrintable c && !isBreak c && c != '"' && c != '\\' then [c]
  else
    match n with
    | 0 => ['\\', '0']
    | 7 => ['\\', 'a']
    | 8 => ['\\', 'b']
    | 9 => ['\\', 't']
    | 10 => ['\\', 'n']
    | 11 => ['\\', 'v']
    | 12 => ['\\', 'f']
    | 13 => ['\\', 'r']
    | 27 => ['\\', 'e']
    | 34 => ['\\', '"']
    | 92 => ['\\', '\\']
    | 0x85 => ['\\', 'N']
    | 0x2028 => ['\\', 'L']
    | 0x2029 => ['\\', 'P']
    | _ =>
        if n ≤ 0xFF then '\\' :: 'x' :: hexCode 2 n
        else if n ≤ 0xFFFF then '\\' :: 'u' :: hexCode 4 n
        else '\\' :: 'U' :: hexCode 8 n

/-- The text between single quotes; a line begins at a column. -/
def singleChars (indent : Nat) : Bool → List Char → List Char
  | broken, [] => if broken then List.replicate indent ' ' else []
  | broken, c :: rest =>
      if isBreak c then c :: singleChars indent true rest
      else
        (if broken then List.replicate indent ' ' else [])
          ++ (if c == '\'' then ['\'', '\''] else [c]) ++ singleChars indent false rest

/-- The lines of a block that begin at a column. -/
def blockChars (indent : Nat) : Bool → List Char → List Char
  | _, [] => []
  | atStart, c :: rest =>
      if isBreak c then c :: blockChars indent true rest
      else (if atStart then List.replicate indent ' ' else []) ++ c :: blockChars indent false rest

/-- What the first line of a block says besides its style. -/
def blockHint (cs : List Char) : List Char :=
  (if cs.head?.any fun c => isSpace c || isBreak c then ['2'] else [])
    ++ (match cs.reverse with
      | [] => ['-']
      | c :: more =>
          if !isBreak c then ['-']
          else if more.isEmpty || more.head?.any isBreak then ['+']
          else [])

/-- A text in a style, whose further lines begin at a column. -/
def writeText (style : Style) (indent : Nat) (s : String) : String :=
  let cs := s.toList
  match style with
  | .plain => s
  | .single => String.ofList ('\'' :: singleChars indent false cs ++ ['\''])
  | .double => String.ofList ('"' :: cs.flatMap doubleChar ++ ['"'])
  | .literal | .folded =>
      String.ofList ('|' :: blockHint cs ++ '\n' :: blockChars indent true cs)

/-- A text with a line break at its end. -/
def withLineEnd (s : String) : String := if s.toList.getLast?.any isBreak then s else s ++ "\n"

/-- Spaces. -/
def spaces (n : Nat) : String := String.ofList (List.replicate n ' ')

/-- Whether a key is written before its colon on one line. -/
def isSimpleKey (key : String) : Bool :=
  decide (key.utf8ByteSize ≤ 128) && !key.toList.any isBreak

/-- A text as a key or a value, in the style that suits it. -/
def writeStyled (isKey : Bool) (indent : Nat) (s : String) : String :=
  writeText (Style.of isKey s) indent s

namespace Block

/-- What stands on one line: a scalar, or a collection with nothing in it. -/
def writeLeaf (indent : Nat) : Json → String
  | .null => "null"
  | .bool b => if b then "true" else "false"
  | .num (.whole n) => toString n
  | .num (.real x) => Decimal.write x
  | .str s => writeStyled false (indent + 2) s
  | .arr _ => "[]"
  | .obj _ => "\x7b\x7d"

mutual

/-- The members of an object at a column, each on lines of its own. -/
def writePairs (indent : Nat) : List (String × Json) → String
  | [] => ""
  | p :: rest => spaces indent ++ writePair indent p ++ writePairs indent rest

/-- A member after the indentation of its first line. -/
def writePair (indent : Nat) : String × Json → String
  | (key, value) =>
      if isSimpleKey key then
        writeStyled true (indent + 2) key ++ ":" ++ writeValue indent value
      else
        "? " ++ withLineEnd (writeStyled false (indent + 2) key) ++ spaces indent ++ ":"
          ++ writeItem indent value

/-- The items of an array at a column, each on lines of its own. -/
def writeItems (indent : Nat) : List Json → String
  | [] => ""
  | item :: rest => spaces indent ++ "-" ++ writeItem indent item ++ writeItems indent rest

/-- A value after the colon. -/
def writeValue (indent : Nat) : Json → String
  | .arr (item :: rest) => "\n" ++ writeItems indent (item :: rest)
  | .obj (p :: rest) => "\n" ++ writePairs (indent + 2) (p :: rest)
  | leaf => " " ++ withLineEnd (writeLeaf indent leaf)

/-- An item after its dash. -/
def writeItem (indent : Nat) : Json → String
  | .arr (item :: rest) => " -" ++ writeItem (indent + 2) item ++ writeItems (indent + 2) rest
  | .obj (p :: rest) => " " ++ writePair (indent + 2) p ++ writePairs (indent + 2) rest
  | leaf => " " ++ withLineEnd (writeLeaf indent leaf)

end

/-- The text of a document. -/
def write : Json → String
  | .arr (item :: rest) => writeItems 0 (item :: rest)
  | .obj (p :: rest) => writePairs 0 (p :: rest)
  | leaf => withLineEnd (writeLeaf 0 leaf)

end Block
end Connector.Yaml
