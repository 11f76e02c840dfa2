import Connector.Text.Blank
import Connector.Time.Calendar
import Connector.Time.SpanText

/-!
# Instants and their text

An instant is a number of nanoseconds since 1970 in UTC.  The clock covers the years -262143 to
262142: moving an instant beyond them fails.

A time stamp is written as date, `T`, time and `Z`, with the fewest of 0, 3, 6 or 9 decimals that
are exact.  Reading accepts blanks in many places, fields without leading zeros, any offset, and
any number of decimals, of which nine count.  Statements:

* `later?_zero` — moving by nothing changes nothing, inside the range;
* `later?_nanos` — moving by a distance adds it.
-/

namespace Connector

/-- A point in time: nanoseconds since 1970-01-01T00:00:00Z. -/
structure Instant where
  nanos : Int
  deriving DecidableEq, Repr, Inhabited

namespace Instant

instance : LT Instant := ⟨fun a b => a.nanos < b.nanos⟩
instance : LE Instant := ⟨fun a b => a.nanos ≤ b.nanos⟩
instance (a b : Instant) : Decidable (a < b) := inferInstanceAs (Decidable (a.nanos < b.nanos))
instance (a b : Instant) : Decidable (a ≤ b) := inferInstanceAs (Decidable (a.nanos ≤ b.nanos))

/-- Nanoseconds of a day. -/
def nanosPerDay : Int := 86400000000000

/-- The first instant of the clock. -/
def first : Instant := ⟨Calendar.toDays ⟨-262143, 1, 1⟩ * nanosPerDay⟩

/-- The last instant of the clock. -/
def last : Instant := ⟨Calendar.toDays ⟨262143, 1, 1⟩ * nanosPerDay - 1⟩

/-- Whether the clock covers an instant. -/
def inRange (t : Instant) : Bool := decide (first ≤ t) && decide (t ≤ last)

/-- The instant at a signed distance, if the clock covers it. -/
def later? (t : Instant) (distance : Int) : Option Instant :=
  let r : Instant := ⟨t.nanos + distance⟩
  if r.inRange then some r else none

/-- The instant some milliseconds later, on the unbounded clock. -/
def plusMillis (t : Instant) (ms : Int) : Instant := ⟨t.nanos + ms * 1000000⟩

/-- The signed distance from one instant to another. -/
def since (t start : Instant) : Int := t.nanos - start.nanos

/-- The instant cut to whole microseconds, towards the past. -/
def toMicros (t : Instant) : Instant := ⟨Int.fdiv t.nanos 1000 * 1000⟩

theorem later?_nanos {t r : Instant} {d : Int} (h : t.later? d = some r) :
    r.nanos = t.nanos + d := by
  simp only [later?] at h
  split at h
  · cases h; rfl
  · cases h

theorem later?_zero {t : Instant} (h : t.inRange = true) : t.later? 0 = some t := by
  simp [later?, h]

/-- A year of at least four digits; outside 0 to 9999 with its sign. -/
def yearText (y : Int) : List Char :=
  if 0 ≤ y ∧ y ≤ 9999 then Span.padded 4 y.toNat
  else (if y < 0 then '-' else '+') :: Span.padded (if y < 0 then 4 else 5) y.natAbs

/-- The decimals of a second: 0, 3, 6 or 9. -/
def fractionText (nanos : Nat) : List Char :=
  if nanos == 0 then []
  else if nanos % 1000000 == 0 then '.' :: Span.padded 3 (nanos / 1000000)
  else if nanos % 1000 == 0 then '.' :: Span.padded 6 (nanos / 1000)
  else '.' :: Span.padded 9 nanos

/-- The date and the time of an instant, with a text between them and one behind. -/
def writeWith (between behind : List Char) (t : Instant) : String :=
  let days := Int.fdiv t.nanos nanosPerDay
  let inDay := (t.nanos - days * nanosPerDay).toNat
  let secs := inDay / 1000000000
  let d := Calendar.ofDays days
  String.ofList (yearText d.year ++ '-' :: Span.padded 2 d.month ++ '-' :: Span.padded 2 d.day
    ++ between ++ Span.padded 2 (secs / 3600) ++ ':' :: Span.padded 2 (secs % 3600 / 60)
    ++ ':' :: Span.padded 2 (secs % 60) ++ fractionText (inDay % 1000000000) ++ behind)

/-- The time stamp of an instant. -/
def format (t : Instant) : String := t.writeWith ['T'] ['Z']

/-- An instant as a note shows it. -/
def display (t : Instant) : String := t.writeWith [' '] [' ', 'U', 'T', 'C']

/-- Why a text is no time stamp. -/
inductive Malformed where
  | outOfRange
  | invalid
  | tooShort
  | tooLong
  deriving DecidableEq, Repr

/-- The wording of a refusal. -/
def Malformed.message : Malformed → String
  | .outOfRange => "input is out of range"
  | .invalid => "input contains invalid characters"
  | .tooShort => "premature end of input"
  | .tooLong => "trailing input"

namespace Reader

/-- The bytes a text takes. -/
def byteLength (cs : List Char) : Nat := cs.foldl (fun n c => n + c.utf8Size) 0

/-- A run of one to `most` decimal digits and the rest. -/
def digits (most : Nat) (cs : List Char) : Except Malformed (List Char × List Char) :=
  match cs with
  | [] => .error .tooShort
  | c :: _ =>
      if c.isDigit then
        let ds := (cs.take most).takeWhile Char.isDigit
        .ok (ds, cs.drop ds.length)
      else .error .invalid

/-- The number of some digits. -/
def numberOf (ds : List Char) : Nat := ds.foldl (fun n c => n * 10 + (c.toNat - 48)) 0

/-- A field of up to two digits between bounds. -/
def field (low high : Nat) (cs : List Char) : Except Malformed (Nat × List Char) := do
  let (ds, rest) ← digits 2 (Text.trimStart cs)
  let n := numberOf ds
  if low ≤ n ∧ n ≤ high then .ok (n, rest) else .error .outOfRange

/-- A year: four digits at most, or any number after a sign. -/
def year (cs : List Char) : Except Malformed (Int × List Char) := do
  let cs := Text.trimStart cs
  let (y, rest) ← match cs with
    | '-' :: cs => do
        let (ds, rest) ← digits cs.length cs
        pure (-(numberOf ds : Int), rest)
    | '+' :: cs => do
        let (ds, rest) ← digits cs.length cs
        pure ((numberOf ds : Int), rest)
    | cs => do
        let (ds, rest) ← digits 4 cs
        pure ((numberOf ds : Int), rest)
  if y < -2147483648 ∨ 2147483647 < y then .error .outOfRange else .ok (y, rest)

/-- A mark between fields, blanks before it. -/
def mark (c : Char) (cs : List Char) : Except Malformed (List Char) :=
  match Text.trimStart cs with
  | [] => .error .tooShort
  | d :: rest => if d == c then .ok rest else .error .invalid

/-- The decimals of a second, if there are any, in nanoseconds. -/
def decimals : List Char → Except Malformed (Nat × List Char)
  | '.' :: cs => do
      let (ds, rest) ← digits 9 cs
      .ok (numberOf ds * Nat.pow 10 (9 - ds.length), rest.dropWhile Char.isDigit)
  | cs => .ok (0, cs)

/-- Two digits of an offset, the first at most `9`, and the rest. -/
def pair (cs : List Char) : Except Malformed ((Char × Char) × List Char) :=
  match cs with
  | a :: b :: rest => .ok ((a, b), rest)
  | cs => .error (if byteLength cs < 2 then .tooShort else .invalid)

/-- The offset from UTC in seconds. -/
def offset (cs : List Char) : Except Malformed (Int × List Char) :=
  let cs := Text.trimStart cs
  let word := (cs.take 3).map Char.toLower
  if word == ['u', 't', 'c'] then .ok (0, cs.drop 3)
  else
    match cs with
    | [] => .error .tooShort
    | sign :: rest =>
        if sign == 'Z' || sign == 'z' then .ok (0, rest)
        else if sign == '+' || sign == '-' || sign.toNat == 0x2212 then do
          let ((a, b), rest) ← pair rest
          if !(a.isDigit && b.isDigit) then .error .invalid
          else
            let hours := numberOf [a, b]
            let rest := rest.dropWhile fun c => c == ':' || Text.isBlank c
            let ((a, b), rest) ← pair rest
            if !(a.isDigit && b.isDigit) then .error .invalid
            else if decide ('6' ≤ a) then .error .outOfRange
            else
              let secs : Int := hours * 3600 + numberOf [a, b] * 60
              .ok (if sign == '+' then secs else -secs, rest)
        else .error .invalid

end Reader

open Reader in
/-- The instant a time stamp stands for. -/
def parse (text : String) : Except Malformed Instant := do
  let (y, cs) ← year text.toList
  let (month, cs) ← field 1 12 (← mark '-' cs)
  let (day, cs) ← field 1 31 (← mark '-' cs)
  let cs ← match cs with
    | [] => .error .tooShort
    | c :: cs => if c == 't' || c == 'T' || c == ' ' then .ok cs else .error .invalid
  let (hour, cs) ← field 0 23 cs
  let (minute, cs) ← field 0 59 (← mark ':' cs)
  let (second, cs) ← field 0 60 (← mark ':' cs)
  let (nanos, cs) ← decimals cs
  let (shift, cs) ← offset cs
  if !(Text.trimStart cs).isEmpty then .error .tooLong
  else
    let date : Calendar.Date := ⟨y, month, day⟩
    let secs : Int := hour * 3600 + minute * 60 + second
    let t : Instant :=
      ⟨Calendar.toDays date * nanosPerDay + (secs - shift) * 1000000000 + nanos⟩
    if date.isValid && t.inRange && decide (shift.natAbs < 86400) then .ok t
    else .error .outOfRange

end Instant
end Connector
