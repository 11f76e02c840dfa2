import Connector.Json.Value
import Connector.Time.Instant

/-!
# Values of a database

A column holds a value or none.  A comparison with a value that is not there is neither true nor
false.  A time stamp is kept to the microsecond, and a number as one of 64 bits with a sign.
Statements:

* `and_eq_true`, `or_eq_true` — when a conjunction and a disjunction are true;
* `toUnsigned_toSigned` — a number reads back.
-/

namespace Connector.Sql

/-- What is known of a condition; none is unknown. -/
abbrev Truth := Option Bool

namespace Truth

/-- Both of two conditions. -/
def and : Truth → Truth → Truth
  | some false, _ => some false
  | _, some false => some false
  | some true, some true => some true
  | _, _ => none

/-- One of two conditions. -/
def or : Truth → Truth → Truth
  | some true, _ => some true
  | _, some true => some true
  | some false, some false => some false
  | _, _ => none

/-- The opposite of a condition. -/
def not (t : Truth) : Truth := t.map (!·)

theorem and_eq_true {a b : Truth} : a.and b = some true ↔ a = some true ∧ b = some true := by
  rcases a with _ | _ | _ <;> rcases b with _ | _ | _ <;> simp [and]

theorem or_eq_true {a b : Truth} : a.or b = some true ↔ a = some true ∨ b = some true := by
  rcases a with _ | _ | _ <;> rcases b with _ | _ | _ <;> simp [or]

end Truth

/-- What a column or a parameter holds. -/
inductive Value where
  /-- No value. -/
  | null
  | text (s : String)
  | number (n : Int)
  | truth (b : Bool)
  | instant (t : Instant)
  | texts (list : List String)
  | document (j : Json)
  deriving Inhabited

/-- The first instant of the year 2000, from which a database counts. -/
def epoch : Int := 946684800000000000

/-- An instant cut to the microsecond, towards the database's epoch. -/
def toMicros (t : Instant) : Instant := ⟨(t.nanos - epoch).tdiv 1000 * 1000 + epoch⟩

/-- A number of 64 bits without a sign, as one with a sign. -/
def toSigned (n : Nat) : Int :=
  if n < 9223372036854775808 then n else (n : Int) - 18446744073709551616

/-- A number of 64 bits with a sign, as one without. -/
def toUnsigned (n : Int) : Nat := (n % 18446744073709551616).toNat

theorem toUnsigned_toSigned {n : Nat} (h : n < 18446744073709551616) :
    toUnsigned (toSigned n) = n := by
  unfold toUnsigned toSigned
  split <;> omega

namespace Value

/-- A text that may be absent. -/
def ofText : Option String → Value
  | some s => text s
  | none => null

/-- A natural number. -/
def ofNat (n : Nat) : Value := number (toSigned n)

/-- An instant. -/
def ofInstant (t : Instant) : Value := instant (toMicros t)

/-- An instant that may be absent. -/
def ofInstant? : Option Instant → Value
  | some t => ofInstant t
  | none => null

/-- A natural number that may be absent. -/
def ofNat? : Option Nat → Value
  | some n => ofNat n
  | none => null

/-- Whether there is no value. -/
def isNull : Value → Bool
  | null => true
  | _ => false

/-- Whether two values are the same, if both are there. -/
def equal : Value → Value → Truth
  | null, _ => none
  | _, null => none
  | text a, text b => some (a == b)
  | number a, number b => some (a == b)
  | truth a, truth b => some (a == b)
  | instant a, instant b => some (decide (a = b))
  | texts a, texts b => some (a == b)
  | document a, document b => some (a.same b)
  | _, _ => some false

/-- The order of two values, if both are there and can be ordered. -/
def order : Value → Value → Option Ordering
  | text a, text b => some (compare a b)
  | number a, number b => some (compare a b)
  | instant a, instant b => some (compare a.nanos b.nanos)
  | _, _ => none

/-- Whether a value is at most another, if both are there. -/
def atMost (a b : Value) : Truth := (order a b).map (·.isLE)

/-- Whether a value is below another, if both are there. -/
def below (a b : Value) : Truth := (order a b).map (·.isLT)

/-- Whether a text is among some, if both are there. -/
def among : Value → Value → Truth
  | text a, texts list => some (list.contains a)
  | _, _ => none

/-- The truth of a value. -/
def toTruth : Value → Truth
  | truth b => some b
  | _ => none

/-- A parameter as a document. -/
def toJson : Value → Json
  | null => .null
  | text s => .str s
  | number n => .int n
  | truth b => .bool b
  | instant t => .str t.format
  | texts list => .strings list
  | document j => j

end Value

/-- The columns of a row, with their values. -/
abbrev Row := Table Value

/-- The value of a column. -/
def Row.value (r : Row) (column : String) : Value := (Table.get? column r).getD .null

end Connector.Sql
