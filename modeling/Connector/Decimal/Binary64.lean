/-!
# Binary64 numbers, exactly

A finite double is `mantissa · 2 ^ exponent` with a sign.  The mantissa stays below `2 ^ 53` and
the exponent between -1074 and 971, and among the forms of one value the one with the smallest
exponent is kept, so that two doubles are equal exactly when their forms are.  Everything here is
integer arithmetic: no machine number is involved.  Statements:

* `ofRatio_zero` — zero is written with the least exponent;
* `compare_self` — a double compares equal to itself.
-/

namespace Connector

/-- A finite double: `mantissa · 2 ^ exponent`, negated if `negative`. -/
structure Binary64 where
  negative : Bool
  mantissa : Nat
  exponent : Int
  deriving DecidableEq, Repr, Inhabited

namespace Binary64

/-- Zero with a sign. -/
def zero (negative : Bool) : Binary64 := ⟨negative, 0, -1074⟩

/-- The quotient of two positive numbers rounded to the nearest integer, a half to the even one. -/
def roundHalfEven (num den : Nat) : Nat :=
  let q := num / den
  let r := num % den
  if den < 2 * r then q + 1
  else if 2 * r == den && q % 2 == 1 then q + 1
  else q

/-- `num / den` scaled by `2 ^ (-e)`, as a numerator and a denominator. -/
def scaled (num den : Nat) (e : Int) : Nat × Nat :=
  if e < 0 then (num * Nat.pow 2 (-e).toNat, den) else (num, den * Nat.pow 2 e.toNat)

/-- The exponent in which `num / den` has a mantissa of 53 bits, or the least exponent. -/
def exponentFor (num den : Nat) : Int :=
  let guess : Int := (Nat.log2 num : Int) - (Nat.log2 den : Int) - 52
  let s := scaled num den guess
  let e := if s.1 < s.2 * Nat.pow 2 52 then guess - 1 else guess
  max e (-1074)

/-- The double nearest to `num / den` with a sign, a half to the even mantissa; `none` where the
quotient is out of range.  The denominator is positive. -/
def ofRatio (negative : Bool) (num den : Nat) : Option Binary64 :=
  if num == 0 then some (zero negative)
  else
    let e := exponentFor num den
    let s := scaled num den e
    let m := roundHalfEven s.1 s.2
    let r : Binary64 :=
      if m == Nat.pow 2 53 then ⟨negative, Nat.pow 2 52, e + 1⟩ else ⟨negative, m, e⟩
    if r.exponent > 971 then none else some r

/-- How many decimal digits a number has. -/
def digitCount (n : Nat) : Nat := (Nat.toDigits 10 n).length

/-- The double nearest to `digits · 10 ^ exponent`; `none` where it is out of range.  Exponents
far out are decided by the number of digits alone. -/
def ofDecimal (negative : Bool) (digits : Nat) (exponent : Int) : Option Binary64 :=
  if digits == 0 then some (zero negative)
  else
    let top : Int := (digitCount digits : Int) + exponent
    if top > 400 then none
    else if top < -400 then some (zero negative)
    else if exponent < 0 then ofRatio negative digits (Nat.pow 10 (-exponent).toNat)
    else ofRatio negative (digits * Nat.pow 10 exponent.toNat) 1

/-- The double nearest to an integer below `2 ^ 64` in size. -/
def ofInt (n : Int) : Binary64 :=
  (ofRatio (decide (n < 0)) n.natAbs 1).getD (zero false)

/-- The signed mantissas of two doubles over their lesser exponent. -/
def aligned (a b : Binary64) : Int × Int :=
  let e := min a.exponent b.exponent
  let sign (x : Binary64) (n : Int) : Int := if x.negative then -n else n
  (sign a (a.mantissa * Nat.pow 2 (a.exponent - e).toNat),
    sign b (b.mantissa * Nat.pow 2 (b.exponent - e).toNat))

/-- The order of two doubles by value; the two zeros are equal. -/
def compare (a b : Binary64) : Ordering :=
  let p := aligned a b
  Ord.compare p.1 p.2

/-- Equality of doubles by value. -/
def sameValue (a b : Binary64) : Bool := compare a b == .eq

theorem ofRatio_zero (negative : Bool) (den : Nat) :
    ofRatio negative 0 den = some (zero negative) := by
  simp [ofRatio]

theorem compare_self (a : Binary64) : compare a a = .eq := by
  simp [compare, aligned]

end Binary64
end Connector
