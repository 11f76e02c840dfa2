import Connector.Time.Instant
import Mathlib.Tactic.ByContra

/-!
# Where the clock ends

A span passes three bounds on its way to an instant: what a span can be, what a distance can be,
and what the clock covers.  A span that is longer than any distance is cut to a hundred years,
which the clock covers from every modern instant.  Distances reach much further than the clock,
however, so that a span may be short enough to be kept and still lead beyond the end: it outruns
the clock.  Statements:

* `later?_eq_none_iff` — from a modern instant, exactly the spans that outrun the clock lead beyond
  its end;
* `not_outruns_of_le` — from a modern instant no span of up to 250000 years outruns the clock;
* `since_bounds` — the distance of two instants that the clock covers is one that can be.
-/

namespace Connector

namespace Instant

/-- Where the clock reaches from an instant. -/
theorem exists_later?_iff {t : Instant} {distance : Int} :
    (∃ r, t.later? distance = some r) ↔
      first.nanos ≤ t.nanos + distance ∧ t.nanos + distance ≤ last.nanos := by
  have hrange : Instant.inRange ⟨t.nanos + distance⟩ = true ↔
      first.nanos ≤ t.nanos + distance ∧ t.nanos + distance ≤ last.nanos := by
    rw [inRange, Bool.and_eq_true, decide_eq_true_eq, decide_eq_true_eq]
    exact Iff.rfl
  rw [← hrange, later?]
  split
  · rename_i h
    exact iff_of_true ⟨_, rfl⟩ h
  · rename_i h
    exact iff_of_false (by rintro ⟨_, hsome⟩; cases hsome) h

theorem later?_eq_none_iff {t : Instant} {distance : Int} :
    t.later? distance = none ↔ Instant.inRange ⟨t.nanos + distance⟩ = false := by
  rw [later?]
  split
  · rename_i h
    exact iff_of_false (Option.some_ne_none _) (by simp [h])
  · rename_i h
    exact iff_of_true rfl (by simpa using h)

theorem first_nanos : first.nanos = -8334601228800000000000 := by decide

theorem last_nanos : last.nanos = 8210266876799999999999 := by decide

/-- An instant of the years 2000 to 2200. -/
def IsModern (t : Instant) : Prop :=
  Calendar.toDays ⟨2000, 1, 1⟩ * nanosPerDay ≤ t.nanos ∧
    t.nanos < Calendar.toDays ⟨2201, 1, 1⟩ * nanosPerDay

theorem isModern_iff {t : Instant} :
    t.IsModern ↔ 946684800000000000 ≤ t.nanos ∧ t.nanos < 7289654400000000000 := by
  have hfirst : Calendar.toDays ⟨2000, 1, 1⟩ * nanosPerDay = 946684800000000000 := by decide
  have hlast : Calendar.toDays ⟨2201, 1, 1⟩ * nanosPerDay = 7289654400000000000 := by decide
  rw [IsModern, hfirst, hlast]

instance (t : Instant) : Decidable t.IsModern :=
  inferInstanceAs (Decidable (_ ∧ _))

end Instant

namespace Span

/-- A span that is short enough to be kept as a distance, and ends beyond the clock. -/
def Outruns (d : Span) (t : Instant) : Prop :=
  Instant.last.nanos - t.nanos < d.nanos ∧ (d.nanos : Int) ≤ longestDistance

instance (d : Span) (t : Instant) : Decidable (d.Outruns t) :=
  inferInstanceAs (Decidable (_ ∧ _))

variable {d : Span} {t : Instant}

/-- From a modern instant, exactly the spans that outrun the clock lead beyond its end. -/
theorem later?_eq_none_iff (modern : t.IsModern) :
    t.later? d.toDistance = none ↔ d.Outruns t := by
  have hnone : t.later? d.toDistance = none ↔ ¬ ∃ r, t.later? d.toDistance = some r := by
    cases t.later? d.toDistance <;> simp
  obtain ⟨hearliest, hlatest⟩ := Instant.isModern_iff.1 modern
  rw [hnone, Instant.exists_later?_iff, Outruns, Instant.first_nanos, Instant.last_nanos]
  by_cases hshort : (d.nanos : Int) ≤ longestDistance
  · rw [toDistance_eq hshort]
    constructor
    · intro hlate
      refine ⟨?_, hshort⟩
      by_contra hfits
      exact hlate ⟨by omega, by omega⟩
    · rintro ⟨hlate, -⟩ ⟨-, hfits⟩
      omega
  · -- A longer span is cut to a hundred years.
    have hcut : d.toDistance = 36500 * 86400 * 1000000000 := by
      simp [toDistance, toDistance?, hshort]
    rw [hcut]
    constructor
    · intro hlate
      exact absurd ⟨by omega, by omega⟩ hlate
    · rintro ⟨-, hshort'⟩
      exact absurd hshort' hshort

/-- The end of a span is on the clock unless the span outruns it. -/
theorem isSome_later?_iff (modern : t.IsModern) :
    (t.later? d.toDistance).isSome = true ↔ ¬ d.Outruns t := by
  rw [← later?_eq_none_iff modern]
  cases t.later? d.toDistance <;> simp

/-- From a modern instant the clock goes on for more than 250000 years. -/
theorem not_outruns_of_le (modern : t.IsModern) (h : d.nanos ≤ 250000 * 31557600000000000) :
    ¬ d.Outruns t := by
  obtain ⟨-, hlatest⟩ := Instant.isModern_iff.1 modern
  rintro ⟨hlate, -⟩
  rw [Instant.last_nanos] at hlate
  omega

end Span

/-- The distance of two instants that the clock covers is one that can be. -/
theorem Instant.since_bounds {t u : Instant} (ht : t.inRange = true) (hu : u.inRange = true) :
    -Span.longestDistance ≤ t.since u ∧ t.since u ≤ Span.longestDistance := by
  simp only [inRange, Bool.and_eq_true, decide_eq_true_eq] at ht hu
  have ht' : first.nanos ≤ t.nanos ∧ t.nanos ≤ last.nanos := ht
  have hu' : first.nanos ≤ u.nanos ∧ u.nanos ≤ last.nanos := hu
  rw [first_nanos, last_nanos] at ht' hu'
  rw [since, Span.longestDistance]
  omega

theorem Instant.IsModern.inRange {t : Instant} (modern : t.IsModern) : t.inRange = true := by
  obtain ⟨hearliest, hlatest⟩ := isModern_iff.1 modern
  have hfirst : first.nanos ≤ t.nanos := by rw [first_nanos]; omega
  have hlast : t.nanos ≤ last.nanos := by rw [last_nanos]; omega
  simp only [Instant.inRange, Bool.and_eq_true, decide_eq_true_eq]
  exact ⟨hfirst, hlast⟩

end Connector
