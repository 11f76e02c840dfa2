import Connector.Yaml.Scalar

/-!
# Tags

A tag tells the kind of its node.  It is written with letters and with escapes, which spell the
bytes of characters; the leading bits of a character's first byte say how many escapes it takes.
The bits behind them may still add up to no character, so a tag is bytes, and is a text only if
they read as one.  A zero byte ends it.
-/

namespace Connector.Yaml

/-- The kind of a node. -/
inductive Tag where
  /-- A kind of the document's own, by its name. -/
  | own (name : String)
  /-- A kind of the document's own whose name is no text. -/
  | nameless
  | boolean
  | whole
  | real
  | null
  | other
  deriving DecidableEq, Repr, Inhabited

namespace Tag

/-- How many bytes a character takes whose first byte this is; zero if no character begins so. -/
def sequenceWidth (byte : UInt8) : Nat :=
  if byte < 0x80 then 1
  else if byte < 0xC0 then 0
  else if byte < 0xE0 then 2
  else if byte < 0xF0 then 3
  else if byte < 0xF8 then 4
  else 0

/-- Whether a byte goes on with a character. -/
def isTrailing (byte : UInt8) : Bool := decide (0x80 ≤ byte) && decide (byte < 0xC0)

/-- The bytes that letters and escapes spell, with so many bytes of a character still to come. -/
def spelledBytes : Nat → List Char → Option (List UInt8)
  | 0, [] => some []
  | _ + 1, [] => none
  | pending, '%' :: a :: b :: rest => do
      let byte := (← hexNumber [a, b]).toUInt8
      match pending with
      | 0 =>
          match sequenceWidth byte with
          | 0 => none
          | following + 1 => (spelledBytes following rest).map (byte :: ·)
      | following + 1 =>
          if isTrailing byte then (spelledBytes following rest).map (byte :: ·) else none
  | _, '%' :: _ => none
  | 0, c :: rest => (spelledBytes 0 rest).map ((String.singleton c).toUTF8.toList ++ ·)
  | _ + 1, _ :: _ => none

/-- The bytes that letters and escapes spell, up to the first that is zero. -/
def bytes? (letters : List Char) : Option (List UInt8) :=
  (spelledBytes 0 letters).map (List.takeWhile (· != 0))

/-- The bytes of a text. -/
def bytesOf (text : String) : List UInt8 := text.toUTF8.toList

/-- The text that bytes spell. -/
def textOf? (bytes : List UInt8) : Option String := String.fromUTF8? ⟨bytes.toArray⟩

/-- The kind that the bytes of a tag name: one of the document's own behind an exclamation mark. -/
def ofBytes (bytes : List UInt8) : Tag :=
  match bytes with
  | 0x21 :: name => ((textOf? name).map own).getD nameless
  | _ =>
      match textOf? bytes with
      | some "tag:yaml.org,2002:bool" => boolean
      | some "tag:yaml.org,2002:int" => whole
      | some "tag:yaml.org,2002:float" => real
      | some "tag:yaml.org,2002:null" => null
      | _ => other

end Tag
end Connector.Yaml
