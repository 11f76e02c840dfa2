import Connector.Json.Reader
import Connector.Text.Lowercase

/-!
# What plain scalars stand for

A plain scalar stands for nothing, a truth value, a number, or its own text.  Whole numbers are
decimal, or hexadecimal, octal or binary after a mark; digits after a leading zero are text.

* `ofText_null`, `ofText_true` — two of the words;
* `isPaddedNumber_iff` — when digits are text.
-/

namespace Connector.Yaml

/-- What a plain scalar stands for. -/
inductive Plain where
  | null
  | bool (b : Bool)
  | whole (n : Int)
  /-- A whole number beyond 64 bits. -/
  | wide (n : Int)
  | real (x : Binary64)
  | infinite (isNegative : Bool)
  | undefined
  | text (s : String)
  deriving DecidableEq, Repr

namespace Plain

/-- The words that stand for nothing. -/
def isNullWord (s : String) : Bool := ["null", "Null", "NULL", "~"].contains s

/-- The texts that stand for nothing. -/
def isNull (s : String) : Bool := s == "" || isNullWord s

/-- The truth value of a word. -/
def boolean? (s : String) : Option Bool :=
  if ["true", "True", "TRUE"].contains s then some true
  else if ["false", "False", "FALSE"].contains s then some false
  else none

/-- The value of a digit in a base up to 16. -/
def digit? (base : Nat) (c : Char) : Option Nat :=
  (Json.Reader.hexValue? c).filter fun n => decide (n < base)

/-- The number that some digits stand for; there must be one. -/
def digits? (base : Nat) (cs : List Char) : Option Nat :=
  if cs.isEmpty then none
  else cs.foldlM (fun n c => (digit? base c).map fun d => n * base + d) 0

/-- The characters without a sign in front. -/
def unsigned : List Char → List Char
  | '+' :: cs => cs
  | '-' :: cs => cs
  | cs => cs

/-- Whether digits come after a leading zero. -/
def isPaddedNumber (cs : List Char) : Bool :=
  match unsigned cs with
  | '0' :: d :: rest => (d :: rest).all Char.isDigit
  | _ => false

/-- The absolute value of a whole number without its sign. -/
def magnitude? (cs : List Char) : Option Nat :=
  match cs with
  | '0' :: 'x' :: ds => digits? 16 ds
  | '0' :: 'o' :: ds => digits? 8 ds
  | '0' :: 'b' :: ds => digits? 2 ds
  | ds => if isPaddedNumber ds then none else digits? 10 ds

/-- A whole number. -/
def whole? (cs : List Char) : Option Int :=
  match cs with
  | '-' :: ds => (magnitude? ds).map fun n => -(n : Int)
  | '+' :: ds => (magnitude? ds).map Int.ofNat
  | ds => (magnitude? ds).map Int.ofNat

/-- A whole number that is not negative and fits 64 bits. -/
def count? (s : String) : Option Nat :=
  match s.toList with
  | '-' :: _ => none
  | cs => ((whole? cs).map Int.toNat).filter fun n => decide (n < 18446744073709551616)

/-- The exponent of a number, with its sign. -/
def exponent? : List Char → Option Int
  | [] => some 0
  | e :: cs =>
      if e != 'e' && e != 'E' then none
      else
        match cs with
        | '-' :: ds => (digits? 10 ds).map fun n => -(n : Int)
        | '+' :: ds => (digits? 10 ds).map Int.ofNat
        | ds => (digits? 10 ds).map Int.ofNat

/-- A number with a decimal point or an exponent; there must be a digit before or after the
point. -/
def real? (cs : List Char) : Option Binary64 := do
  let isNegative := cs.head? == some '-'
  let cs := unsigned cs
  let whole := cs.takeWhile Char.isDigit
  let (fraction, rest) := match cs.dropWhile Char.isDigit with
    | '.' :: ds => (ds.takeWhile Char.isDigit, ds.dropWhile Char.isDigit)
    | ds => ([], ds)
  let digits := whole ++ fraction
  if digits.isEmpty then none
  else
    Binary64.ofDecimal isNegative (Json.Reader.digitsValue digits)
      ((← exponent? rest) - fraction.length)

/-- The words for what is no finite number. -/
def endless? (s : String) : Option Plain :=
  if [".inf", ".Inf", ".INF", "+.inf", "+.Inf", "+.INF"].contains s then some (.infinite false)
  else if ["-.inf", "-.Inf", "-.INF"].contains s then some (.infinite true)
  else if [".nan", ".NaN", ".NAN"].contains s then some .undefined
  else none

/-- The value of a whole number, if it is one of at most 128 bits. -/
def ofWhole (n : Int) : Option Plain :=
  if -9223372036854775808 ≤ n ∧ n < 18446744073709551616 then some (.whole n)
  else if -(Int.pow 2 127) ≤ n ∧ n < Int.pow 2 128 then some (.wide n)
  else none

/-- What the text of a plain scalar stands for. -/
def ofText (s : String) : Plain :=
  let cs := s.toList
  if isNull s then .null
  else
    match boolean? s with
    | some b => .bool b
    | none =>
        match (whole? cs).bind ofWhole with
        | some p => p
        | none =>
            if isPaddedNumber cs then .text s
            else
              match endless? s with
              | some p => p
              | none =>
                  match real? cs with
                  | some x => .real x
                  | none => .text s

/-- A plain value as a document; none for a number that no document holds. -/
def toJson? : Plain → Option Json
  | null => some .null
  | bool b => some (.bool b)
  | whole n => some (.int n)
  | wide _ => none
  | real x => some (.num (.real x))
  | infinite _ => some .null
  | undefined => some .null
  | text s => some (.str s)

theorem ofText_null : ofText "" = .null ∧ ofText "~" = .null := by decide

theorem ofText_true : ofText "true" = .bool true := by decide

theorem isPaddedNumber_iff (cs : List Char) :
    isPaddedNumber cs = true ↔
      ∃ d rest, unsigned cs = '0' :: d :: rest ∧ (d :: rest).all Char.isDigit = true := by
  unfold isPaddedNumber
  split
  · rename_i d rest h
    constructor
    · intro hd; exact ⟨d, rest, h, hd⟩
    · rintro ⟨d', rest', h', hd⟩
      rw [h] at h'
      cases h'
      exact hd
  · rename_i h
    simp only [Bool.false_eq_true, false_iff]
    rintro ⟨d, rest, h', _⟩
    exact h d rest h'

end Plain
end Connector.Yaml
