import Connector.Decimal.Shortest
import Connector.Json.Value

/-!
# JSON text

The compact text of a document: no blanks, members in their order, strings with the shortest
escapes, numbers with a fraction in their shortest decimal.
-/

namespace Connector.Json

/-- A hexadecimal digit in lower case. -/
def hexDigit (n : Nat) : Char := (Nat.toDigits 16 (n % 16)).headD '0'

/-- A character inside a string. -/
def escapeChar (c : Char) : List Char :=
  if c == '"' then ['\\', '"']
  else if c == '\\' then ['\\', '\\']
  else if c.toNat == 8 then ['\\', 'b']
  else if c.toNat == 9 then ['\\', 't']
  else if c.toNat == 10 then ['\\', 'n']
  else if c.toNat == 12 then ['\\', 'f']
  else if c.toNat == 13 then ['\\', 'r']
  else if c.toNat < 32 then ['\\', 'u', '0', '0', hexDigit (c.toNat / 16), hexDigit c.toNat]
  else [c]

/-- A string in quotes. -/
def writeString (s : String) : String :=
  String.ofList ('"' :: s.toList.flatMap escapeChar ++ ['"'])

/-- A number. -/
def writeNumber : JsonNumber → String
  | .whole n => toString n
  | .real x => Decimal.write x

mutual

/-- The compact text of a document, as pieces. -/
def pieces : Json → List String
  | .null => ["null"]
  | .bool b => [if b then "true" else "false"]
  | .num n => [writeNumber n]
  | .str s => [writeString s]
  | .arr xs => "[" :: piecesOfList true xs
  | .obj fields => "\x7b" :: piecesOfFields true fields

/-- The members of an array and its end. -/
def piecesOfList (first : Bool) : List Json → List String
  | [] => ["]"]
  | x :: xs => (if first then [] else [","]) ++ pieces x ++ piecesOfList false xs

/-- The members of an object and its end. -/
def piecesOfFields (first : Bool) : List (String × Json) → List String
  | [] => ["\x7d"]
  | (k, x) :: xs =>
      (if first then [] else [","]) ++ writeString k :: ":" :: pieces x ++ piecesOfFields false xs

end

/-- The compact text of a document. -/
def compact (j : Json) : String := String.join (pieces j)

end Connector.Json
