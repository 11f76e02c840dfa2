import Connector.Decimal.Binary64

/-!
# The shortest decimal of a double

The fewest digits that read back as the double, and among those the nearest.  Every real number
between the midpoints to the two neighbouring doubles reads back; the midpoints themselves do
exactly when the mantissa is even.  For each count of digits the two neighbours of the value on
that decimal grid are tried, and the first grid with a hit decides.

`Layout` says how the digits are set: up to which position of the point they are written out, and
when an exponent is used.
-/

namespace Connector.Decimal

/-- Digits and a power of ten: the value is `digits · 10 ^ exponent`. -/
structure Scientific where
  digits : Nat
  exponent : Int
  deriving DecidableEq, Repr

/-- A positive double and its rounding interval in units of a quarter of its last place, over one
denominator: `low ≤ value ≤ high`, each divided by `den`. -/
structure Interval where
  low : Nat
  value : Nat
  high : Nat
  den : Nat
  closed : Bool

/-- The interval of reals that round to a positive double. -/
def Interval.of (x : Binary64) : Interval :=
  let narrow := x.mantissa == Nat.pow 2 52 && decide (x.exponent > -1074)
  let low := 4 * x.mantissa - (if narrow then 1 else 2)
  let e := x.exponent - 2
  let up := if e < 0 then 1 else Nat.pow 2 e.toNat
  let den := if e < 0 then Nat.pow 2 (-e).toNat else 1
  { low := low * up, value := 4 * x.mantissa * up, high := (4 * x.mantissa + 2) * up, den,
    closed := x.mantissa % 2 == 0 }

/-- Whether `num / den` lies in the interval. -/
def Interval.holds (i : Interval) (num den : Nat) : Bool :=
  let l := i.low * den
  let n := num * i.den
  let h := i.high * den
  if i.closed then decide (l ≤ n) && decide (n ≤ h) else decide (l < n) && decide (n < h)

/-- The least `k` with `num / den < 10 ^ k`, found from an estimate by at most `fuel` steps each
way. -/
def magnitude (num den : Nat) (fuel : Nat) (k : Int) : Int :=
  match fuel with
  | 0 => k
  | fuel + 1 =>
      let below (k : Int) : Bool :=
        if k < 0 then decide (num * Nat.pow 10 (-k).toNat < den)
        else decide (num < den * Nat.pow 10 k.toNat)
      if !below k then magnitude num den fuel (k + 1)
      else if below (k - 1) then magnitude num den fuel (k - 1)
      else k

/-- An estimate of the magnitude of `num / den`. -/
def magnitudeGuess (num den : Nat) : Int :=
  (((Nat.log2 num : Int) - (Nat.log2 den : Int)) * 30103) / 100000 + 1

/-- The neighbours of the value among the multiples of `10 ^ k`; the one in the interval, or the
nearer if both are, a tie to the even one. -/
def onGrid (i : Interval) (k : Int) : Option Scientific :=
  let num := if k < 0 then i.value * Nat.pow 10 (-k).toNat else i.value
  let den := if k < 0 then i.den else i.den * Nat.pow 10 k.toNat
  let q := num / den
  let r := num % den
  let hit (c : Nat) : Bool :=
    c != 0 &&
      (if k < 0 then i.holds c (Nat.pow 10 (-k).toNat) else i.holds (c * Nat.pow 10 k.toNat) 1)
  match hit q, hit (q + 1) with
  | true, true =>
      if 2 * r < den || (2 * r == den && q % 2 == 0) then some ⟨q, k⟩ else some ⟨q + 1, k⟩
  | true, false => some ⟨q, k⟩
  | false, true => some ⟨q + 1, k⟩
  | false, false => none

/-- The first of the counts of digits `n, n + 1, …` whose grid holds a number of the interval. -/
def firstGrid (i : Interval) (top : Int) : Nat → Nat → Option Scientific
  | _, 0 => none
  | n, fuel + 1 =>
      match onGrid i (top - (n : Int)) with
      | some s => some s
      | none => firstGrid i top (n + 1) fuel

/-- A decimal without zeros at the end of its digits; at most `fuel` are taken off. -/
def stripZeros : Nat → Scientific → Scientific
  | 0, s => s
  | fuel + 1, s =>
      if s.digits % 10 == 0 && s.digits != 0 then stripZeros fuel ⟨s.digits / 10, s.exponent + 1⟩
      else s

/-- The shortest decimal that reads back as a double of either sign, without its sign. -/
def shortest (x : Binary64) : Scientific :=
  if x.mantissa == 0 then ⟨0, 0⟩
  else
    let i := Interval.of x
    let top := magnitude i.value i.den 400 (magnitudeGuess i.value i.den)
    stripZeros 20 ((firstGrid i top 1 20).getD ⟨0, 0⟩)

/-- How the digits of a decimal are set. -/
structure Layout where
  /-- Most digits before the point. -/
  wholeMost : Int
  /-- Most zeros between the point and the first digit. -/
  zerosMost : Int

/-- Up to sixteen digits stand before the point and up to four zeros behind it; otherwise an
exponent is written, with its sign. -/
def Layout.standard : Layout := ⟨16, 4⟩

/-- The digits of a decimal set by a layout, always with a point or an exponent. -/
def Layout.write (layout : Layout) (s : Scientific) : List Char :=
  let ds := Nat.toDigits 10 s.digits
  let point : Int := (ds.length : Int) + s.exponent
  if 0 ≤ s.exponent && point ≤ layout.wholeMost then
    ds ++ List.replicate s.exponent.toNat '0' ++ ['.', '0']
  else if 0 < point && point ≤ layout.wholeMost then
    ds.take point.toNat ++ ['.'] ++ ds.drop point.toNat
  else if -layout.zerosMost - 1 < point && point ≤ 0 then
    ['0', '.'] ++ List.replicate (-point).toNat '0' ++ ds
  else
    let e := point - 1
    let mark := ['e', if e < 0 then '-' else '+'] ++ Nat.toDigits 10 e.natAbs
    match ds with
    | [] => mark
    | [d] => d :: mark
    | d :: rest => d :: '.' :: rest ++ mark

/-- The text of a double. -/
def write (x : Binary64) : String :=
  String.ofList ((if x.negative then ['-'] else []) ++ Layout.standard.write (shortest x))

end Connector.Decimal
