import Connector.Text.Blank
import Connector.Time.Span

/-!
# Spans as text

The form people write: numbers with units, largest first, such as `1h 30m`.  A month is 30.44
days and a year 365.25 days.  Reading is more lenient than writing: blanks may stand anywhere,
units may repeat and come in any order, a number may have a decimal fraction, and `0` alone
needs no unit.

Two other forms are only written: seconds with nine decimals, and the short form of messages,
one number in the largest unit that fits.
-/

namespace Connector.Span

/-- The units of written spans. -/
inductive Unit where
  | nano | micro | milli | second | minute | hour | day | week | month | year
  deriving DecidableEq, Repr

/-- The unit a word stands for. -/
def Unit.ofWord? (w : String) : Option Unit :=
  if ["nanos", "nsec", "ns"].contains w then some .nano
  else if ["usec", "us", "µs"].contains w then some .micro
  else if ["millis", "msec", "ms"].contains w then some .milli
  else if ["seconds", "second", "secs", "sec", "s"].contains w then some .second
  else if ["minutes", "minute", "min", "mins", "m"].contains w then some .minute
  else if ["hours", "hour", "hrs", "hr", "h"].contains w then some .hour
  else if ["days", "day", "d"].contains w then some .day
  else if ["weeks", "week", "wk", "wks", "w"].contains w then some .week
  else if ["months", "month", "M"].contains w then some .month
  else if ["years", "year", "yr", "yrs", "y"].contains w then some .year
  else none

/-- Whole seconds of a unit, or nanoseconds for units below the second. -/
def Unit.size : Unit → Nat
  | .nano => 1
  | .micro => 1000
  | .milli => 1000000
  | .second => 1
  | .minute => 60
  | .hour => 3600
  | .day => 86400
  | .week => 604800
  | .month => 2630016
  | .year => 31557600

/-- Whether a unit is shorter than a second. -/
def Unit.isFine : Unit → Bool
  | .nano | .micro | .milli => true
  | _ => false

/-- Whether the fraction of a unit is counted in nanoseconds rather than whole seconds. -/
def Unit.finePart : Unit → Option Nat
  | .nano => some 1
  | .micro => some 1000
  | .milli => some 1000000
  | .second => some 1000000000
  | .minute => some 60000000000
  | _ => none

/-- Numbers in written spans fit 64 bits. -/
def fits (n : Nat) : Option Nat := if n < 18446744073709551616 then some n else none

/-- A span lengthened by seconds and nanoseconds, each within 64 bits. -/
def lengthen (s : Span) (secs nanos : Nat) : Option Span := do
  let n ← fits (s.nanos % 1000000000 + nanos)
  let secs ← if n > 1000000000 then fits (secs + n / 1000000000) else some secs
  let n := if n > 1000000000 then n % 1000000000 else n
  let secs ← fits (s.nanos / 1000000000 + secs)
  let total := secs * 1000000000 + n
  if total ≤ longest.nanos then some ⟨total⟩ else none

/-- A decimal fraction: numerator over denominator. -/
structure Fraction where
  numerator : Nat
  denominator : Nat

/-- A span lengthened by a number of units with an optional fraction. -/
def addUnits (s : Span) (n : Nat) (fraction : Option Fraction) (word : List Char) :
    Option Span := do
  let unit ← Unit.ofWord? (String.ofList word)
  let amount ← fits (n * unit.size)
  let s ← if unit.isFine then s.lengthen 0 amount else s.lengthen amount 0
  match fraction with
  | none => some s
  | some f =>
      match unit.finePart with
      | some size => s.lengthen 0 ((← fits (f.numerator * size)) / f.denominator)
      | none => s.lengthen ((← fits (f.numerator * unit.size)) / f.denominator) 0

/-- Letters of unit words. -/
def isUnitLetter (c : Char) : Bool := c.isAlpha || c == 'µ'

/-- What a reader of a span has gone through. -/
inductive Stage where
  /-- Before a number. -/
  | start
  /-- Inside the whole part of a number. -/
  | whole (n : Nat)
  /-- Inside its fraction; the numerator and denominator so far. -/
  | fraction (n : Nat) (f : Fraction)
  /-- Inside the unit word, letters in reverse. -/
  | word (n : Nat) (f : Option Fraction) (letters : List Char)

/-- The value of a decimal digit. -/
def digitValue (c : Char) : Nat := c.toNat - 48

/-- Reads the rest of a span from a stage; `any` says whether a number was read before. -/
def readFrom (any : Bool) (s : Span) : Stage → List Char → Option Span
  | .start, [] => if any then some s else none
  | .start, c :: cs =>
      if c.isDigit then readFrom any s (.whole (digitValue c)) cs
      else if Text.isBlank c then readFrom any s .start cs
      else none
  | .whole n, [] => addUnits s n none []
  | .whole n, c :: cs =>
      if c.isDigit then
        match fits (n * 10 + digitValue c) with
        | some n => readFrom any s (.whole n) cs
        | none => none
      else if Text.isBlank c then readFrom any s (.whole n) cs
      else if isUnitLetter c then readFrom any s (.word n none [c]) cs
      else if c == '.' then readFrom any s (.fraction n ⟨0, 1⟩) cs
      else none
  | .fraction n f, [] => if f.denominator == 1 then none else addUnits s n (some f) []
  | .fraction n f, c :: cs =>
      if c.isDigit then
        match fits (f.denominator * 10), fits (f.numerator * 10 + digitValue c) with
        | some d, some m => readFrom any s (.fraction n ⟨m, d⟩) cs
        | _, _ => none
      else if Text.isBlank c then readFrom any s (.fraction n f) cs
      else if isUnitLetter c then
        if f.denominator == 1 then none else readFrom any s (.word n (some f) [c]) cs
      else none
  | .word n f letters, [] => addUnits s n f letters.reverse
  | .word n f letters, c :: cs =>
      if c.isDigit then
        match addUnits s n f letters.reverse with
        | some s => readFrom true s (.whole (digitValue c)) cs
        | none => none
      else if Text.isBlank c then
        match addUnits s n f letters.reverse with
        | some s => readFrom true s .start cs
        | none => none
      else if isUnitLetter c then readFrom any s (.word n f (c :: letters)) cs
      else none

/-- The span a text stands for. -/
def parse? (text : String) : Option Span :=
  if text == "0" then some ⟨0⟩ else readFrom false ⟨0⟩ .start text.toList

/-- A count with its unit, if it is not zero. -/
def part (n : Nat) (unit : String) : List String := if n == 0 then [] else [toString n ++ unit]

/-- A count with its unit, in the plural from two on. -/
def partPlural (n : Nat) (unit : String) : List String :=
  part n (if n > 1 then unit ++ "s" else unit)

/-- The written form of a span. -/
def format (s : Span) : String :=
  let secs := s.nanos / 1000000000
  let nanos := s.nanos % 1000000000
  let inYear := secs % 31557600
  let inMonth := inYear % 2630016
  let inDay := inMonth % 86400
  let parts :=
    partPlural (secs / 31557600) "year" ++ partPlural (inYear / 2630016) "month"
      ++ partPlural (inMonth / 86400) "day" ++ part (inDay / 3600) "h"
      ++ part (inDay % 3600 / 60) "m" ++ part (inDay % 60) "s" ++ part (nanos / 1000000) "ms"
      ++ part (nanos / 1000 % 1000) "us" ++ part (nanos % 1000) "ns"
  if parts.isEmpty then "0s" else String.intercalate " " parts

/-- A number below `10 ^ width` with leading zeros. -/
def padded (width n : Nat) : List Char :=
  let ds := Nat.toDigits 10 n
  List.replicate (width - ds.length) '0' ++ ds

/-- Seconds with nine decimals. -/
def exactSeconds (s : Span) : String :=
  String.ofList (Nat.toDigits 10 (s.nanos / 1000000000) ++ '.' :: padded 9 (s.nanos % 1000000000))

/-- A whole number and decimals of a given count, without zeros at the end. -/
def decimal (whole fraction width : Nat) : List Char :=
  let ds := ((padded width fraction).reverse.dropWhile (· == '0')).reverse
  Nat.toDigits 10 whole ++ (if ds.isEmpty then [] else '.' :: ds)

/-- The short form of messages: one number in the largest of `s`, `ms`, `µs` and `ns` that fits. -/
def brief (s : Span) : String :=
  let n := s.nanos
  if n ≥ 1000000000 then String.ofList (decimal (n / 1000000000) (n % 1000000000) 9) ++ "s"
  else if n ≥ 1000000 then String.ofList (decimal (n / 1000000) (n % 1000000) 6) ++ "ms"
  else if n ≥ 1000 then String.ofList (decimal (n / 1000) (n % 1000) 3) ++ "µs"
  else toString n ++ "ns"

end Connector.Span
