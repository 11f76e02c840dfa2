import Connector.Decimal.Binary64
import Connector.Table

/-!
# JSON values

A value as a document holds it.  A whole number and a number with a fraction are different
values: `1` is not `1.0`.  The members of an object are kept in the order of their names, each
name once.

`Json.same` is the equality of documents: numbers of one kind by value (so the two zeros are the
same), arrays member by member, objects entry by entry.
-/

namespace Connector

/-- A number of a document: whole, within 64 bits, or a finite double. -/
inductive JsonNumber where
  | whole (n : Int)
  | real (x : Binary64)
  deriving DecidableEq, Repr

/-- A JSON document. -/
inductive Json where
  | null
  | bool (b : Bool)
  | num (n : JsonNumber)
  | str (s : String)
  | arr (items : List Json)
  | obj (fields : List (String × Json))
  deriving Inhabited, Repr

namespace JsonNumber

/-- The double nearest to a number. -/
def toBinary64 : JsonNumber → Binary64
  | .whole n => .ofInt n
  | .real x => x

/-- Equality of numbers of one kind. -/
def same : JsonNumber → JsonNumber → Bool
  | .whole a, .whole b => a == b
  | .real a, .real b => a.sameValue b
  | _, _ => false

end JsonNumber

namespace Json

/-- A whole number as a document. -/
def int (n : Int) : Json := .num (.whole n)

/-- A natural number as a document. -/
def nat (n : Nat) : Json := .num (.whole n)

/-- An object of some members; a later one takes the place of an earlier one of its name. -/
def object (entries : List (String × Json)) : Json := .obj (Table.ofEntries entries)

/-- `null` for nothing. -/
def orNull {α : Type} (f : α → Json) : Option α → Json
  | none => .null
  | some a => f a

/-- A list of strings as a document. -/
def strings (xs : List String) : Json := .arr (xs.map .str)

/-- A member of an object; `null` where it is absent or the value is no object. -/
def member (name : String) : Json → Json
  | .obj fields => (Table.get? name fields).getD .null
  | _ => .null

/-- The text of a string. -/
def text? : Json → Option String
  | .str s => some s
  | _ => none

/-- The members of an array. -/
def items? : Json → Option (List Json)
  | .arr xs => some xs
  | _ => none

/-- The double nearest to a number. -/
def binary64? : Json → Option Binary64
  | .num n => some n.toBinary64
  | _ => none

mutual

/-- Equality of documents. -/
def same : Json → Json → Bool
  | .null, .null => true
  | .bool a, .bool b => a == b
  | .num a, .num b => a.same b
  | .str a, .str b => a == b
  | .arr xs, .arr ys => sameList xs ys
  | .obj xs, .obj ys => sameFields xs ys
  | _, _ => false

/-- Equality of the members of two arrays. -/
def sameList : List Json → List Json → Bool
  | [], [] => true
  | x :: xs, y :: ys => same x y && sameList xs ys
  | _, _ => false

/-- Equality of the entries of two objects. -/
def sameFields : List (String × Json) → List (String × Json) → Bool
  | [], [] => true
  | (k, x) :: xs, (l, y) :: ys => k == l && same x y && sameFields xs ys
  | _, _ => false

end

end Json
end Connector
