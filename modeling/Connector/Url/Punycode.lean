import Connector.Text.Lowercase

/-!
# Names of machines in ASCII

A label of a name that has other letters than ASCII ones stands as `xn--`, its ASCII letters, and
the places and values of the others as numbers with digits of growing weight.
-/

namespace Connector.Url.Punycode

/-- The number of digits. -/
def base : Nat := 36

/-- The digit of a value: a letter, or a numeral from 26 on. -/
def digit (n : Nat) : Char := if n < 26 then Char.ofNat (97 + n) else Char.ofNat (22 + n)

/-- The bias after a number, from how large it was and how many were written. -/
def adapt (delta count : Nat) (isFirst : Bool) : Nat :=
  let delta := if isFirst then delta / 700 else delta / 2
  reduce 32 (delta + delta / count) 0
where
  /-- Takes a number down to the range of the bias. -/
  reduce : Nat → Nat → Nat → Nat
    | 0, _, k => k
    | fuel + 1, delta, k =>
        if delta > 455 then reduce fuel (delta / 35) (k + base)
        else k + 36 * delta / (delta + 38)

/-- The least value of a digit that is followed by another. -/
def threshold (k bias : Nat) : Nat := if k ≤ bias then 1 else min 26 (k - bias)

/-- The digits of a number, the lowest first. -/
def number (bias : Nat) : Nat → Nat → Nat → List Char
  | 0, _, _ => []
  | fuel + 1, k, q =>
      let t := threshold k bias
      if q < t then [digit q]
      else digit (t + (q - t) % (base - t)) :: number bias fuel (k + base) ((q - t) / (base - t))

/-- What was written so far. -/
structure State where
  delta : Nat
  bias : Nat
  /-- The number of characters written. -/
  count : Nat
  isFirst : Bool
  text : List Char

/-- Goes past a character while those of one value are written. -/
def pass (value : Nat) (s : State) (c : Char) : State :=
  if c.toNat < value then { s with delta := s.delta + 1 }
  else if c.toNat == value then
    { delta := 0
      bias := adapt s.delta (s.count + 1) s.isFirst
      count := s.count + 1
      isFirst := false
      text := s.text ++ number s.bias 64 base s.delta }
  else s

/-- Writes the characters of each value in turn, from the last value on. -/
def values (label : List Char) : List Nat → Nat → State → State
  | [], _, s => s
  | v :: rest, last, s =>
      let s := { s with delta := s.delta + (v - last) * (s.count + 1) }
      let s := label.foldl (pass v) s
      values label rest (v + 1) { s with delta := s.delta + 1 }

/-- The values of some characters that are not ASCII, each once, in increasing order. -/
def valuesOf (label : List Char) : List Nat :=
  ((label.map Char.toNat).filter fun n => decide (128 ≤ n)).mergeSort.eraseDups

/-- A label in ASCII. -/
def encode (label : List Char) : List Char :=
  let plain := label.filter fun c => decide (c.toNat < 128)
  let start : State := ⟨0, 72, plain.length, true, plain ++ if plain.isEmpty then [] else ['-']⟩
  (values label (valuesOf label) 128 start).text

end Connector.Url.Punycode
