/-!
# Spans of time

A span is a number of nanoseconds that is not negative and whose whole seconds fit 64 bits.
Signed distances between instants are plain integers of nanoseconds; a span becomes such a
distance unless it is longer than distances can be.  Statements:

* `scale_le_longest` — scaling stops at the longest span;
* `toDistance_eq` — a span that is short enough keeps its length.
-/

namespace Connector

/-- A span of time. -/
structure Span where
  nanos : Nat
  deriving DecidableEq, Repr, Inhabited

namespace Span

/-- The longest span. -/
def longest : Span := ⟨18446744073709551616 * 1000000000 - 1⟩

/-- A span of whole seconds. -/
def seconds (n : Nat) : Span := ⟨n * 1000000000⟩

/-- A span of milliseconds. -/
def millis (n : Nat) : Span := ⟨n * 1000000⟩

/-- The whole milliseconds of a span. -/
def inMillis (s : Span) : Nat := s.nanos / 1000000

/-- The milliseconds of a span, rounded up. -/
def ceilMillis (s : Span) : Nat := (s.nanos + 999999) / 1000000

/-- A multiple of a span; the longest span where it would be longer. -/
def scale (s : Span) (factor : Nat) : Span := ⟨min (s.nanos * factor) longest.nanos⟩

/-- The shorter of two spans. -/
def shorter (a b : Span) : Span := ⟨min a.nanos b.nanos⟩

/-- The longest distance between instants, in nanoseconds. -/
def longestDistance : Int := 9223372036854775807 * 1000000

/-- A span as a distance, unless it is longer than any. -/
def toDistance? (s : Span) : Option Int :=
  if (s.nanos : Int) ≤ longestDistance then some s.nanos else none

/-- A span as a distance; a hundred years of 365 days where it is longer than any. -/
def toDistance (s : Span) : Int := s.toDistance?.getD (36500 * 86400 * 1000000000)

theorem scale_le_longest (s : Span) (factor : Nat) : (s.scale factor).nanos ≤ longest.nanos :=
  Nat.min_le_right _ _

theorem toDistance_eq {s : Span} (h : (s.nanos : Int) ≤ longestDistance) :
    s.toDistance = s.nanos := by
  simp [toDistance, toDistance?, h]

end Span
end Connector
