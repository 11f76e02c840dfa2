import Connector.Time.Calendar
import Mathlib.Tactic.IntervalCases

/-!
# Days and dates

A day of an era of 400 years is taken apart once: into centuries, cycles of four years, years and
days, of which only the last one of a whole has a day more than the others.  The rounding of the
calendar finds exactly these parts, and so a day and its date give one another.  Statements:

* `toDays_ofDays` — the date of a day leads back to the day;
* `isValid_ofDays` — the date of a day is a date of the calendar.
-/

namespace Connector.Calendar

/-- A day of an era: the centuries before it, the cycles of four years, the years and the days. -/
structure Cycle where
  century : Int
  quad : Int
  year : Int
  day : Int

namespace Cycle

/-- The day of the era. -/
def dayOfEra (c : Cycle) : Int := 36524 * c.century + 1461 * c.quad + 365 * c.year + c.day

/-- The year of the era. -/
def yearOfEra (c : Cycle) : Int := 100 * c.century + 4 * c.quad + c.year

/-- Each part is within its whole; only a year at the end of its cycle has a day more. -/
structure IsProper (c : Cycle) : Prop where
  century_nonneg : 0 ≤ c.century
  century_le : c.century ≤ 3
  quad_nonneg : 0 ≤ c.quad
  quad_le : c.quad ≤ 24
  year_nonneg : 0 ≤ c.year
  year_le : c.year ≤ 3
  day_nonneg : 0 ≤ c.day
  day_le : c.day ≤ 365
  leap : c.day = 365 → c.year = 3 ∧ (c.quad = 24 → c.century = 3)

/-- Every day of an era has its parts. -/
theorem exists_of_dayOfEra {d : Int} (h0 : 0 ≤ d) (h1 : d < 146097) :
    ∃ c : Cycle, c.IsProper ∧ c.dayOfEra = d := by
  obtain ⟨c, r, hd, hc⟩ : ∃ c r : Int, d = 36524 * c + r ∧ 0 ≤ c ∧ c ≤ 3 ∧
      0 ≤ r ∧ (r < 36524 ∨ r = 36524 ∧ c = 3) := by
    by_cases hlast : d = 146096
    · exact ⟨3, 36524, by omega⟩
    · exact ⟨d / 36524, d % 36524, by omega⟩
  obtain ⟨y, t, hs, hy⟩ : ∃ y t : Int, r % 1461 = 365 * y + t ∧ 0 ≤ y ∧ y ≤ 3 ∧
      0 ≤ t ∧ (t < 365 ∨ t = 365 ∧ y = 3) := by
    by_cases hlast : r % 1461 = 1460
    · exact ⟨3, 365, by omega⟩
    · exact ⟨r % 1461 / 365, r % 1461 % 365, by omega⟩
  refine ⟨⟨c, r / 1461, y, t⟩, ⟨?_, ?_, ?_, ?_, ?_, ?_, ?_, ?_, ?_⟩, ?_⟩ <;>
    simp only [dayOfEra] <;> omega

/-- The calendar finds the year of a day. -/
theorem IsProper.yearOfEra_eq {c : Cycle} (h : c.IsProper) :
    let d := c.dayOfEra
    (d - d / 1460 + d / 36524 - d / 146096) / 365 = c.yearOfEra := by
  obtain ⟨_, _, _, _, _, _, _, _, _⟩ := h
  obtain ⟨c, f, y, t⟩ := c
  intro d
  have hd : d = 36524 * c + 1461 * f + 365 * y + t := rfl
  simp only [yearOfEra] at *
  have hrest : 1461 * f + 365 * y + t < 36524 ∨ 1461 * f + 365 * y + t = 36524 ∧ c = 3 := by
    by_cases hleap : t = 365 ∧ f = 24 <;> omega
  have hlate : d / 36524 - d / 146096 = c := by
    rcases hrest with hrest | ⟨hrest, rfl⟩
    · have hcentury : d / 36524 = c := by omega
      have hera : d / 146096 = 0 := by omega
      omega
    · have hlast : d = 146096 := by omega
      rw [hlast]
      rfl
  have hquads : d / 1460 = 25 * c + f ∧ t ≤ 364 ∨ d / 1460 = 25 * c + f + 1 ∧ 1 ≤ t := by
    omega
  omega

/-- The calendar finds the day of its year. -/
theorem IsProper.dayOfYear_eq {c : Cycle} (h : c.IsProper) :
    c.dayOfEra - (365 * c.yearOfEra + c.yearOfEra / 4 - c.yearOfEra / 100) = c.day := by
  obtain ⟨_, _, _, _, _, _, _, _, _⟩ := h
  simp only [yearOfEra, dayOfEra]
  omega

theorem IsProper.yearOfEra_lt {c : Cycle} (h : c.IsProper) :
    0 ≤ c.yearOfEra ∧ c.yearOfEra < 400 := by
  obtain ⟨_, _, _, _, _, _, _, _, _⟩ := h
  simp only [yearOfEra]
  omega

/-- A year that begins in March is as long as the civil year it ends in says. -/
theorem IsProper.isLeap_of_day {c : Cycle} (h : c.IsProper) (hday : c.day = 365) (era : Int) :
    isLeap (c.yearOfEra + era * 400 + 1) = true := by
  obtain ⟨_, _, _, _, _, _, _, _, hleap⟩ := h
  obtain ⟨hyear, hquad⟩ := hleap hday
  have hfour : (c.yearOfEra + era * 400 + 1) % 4 = 0 := by
    simp only [yearOfEra]
    omega
  have hlast : (c.yearOfEra + era * 400 + 1) % 100 ≠ 0 ∨
      (c.yearOfEra + era * 400 + 1) % 400 = 0 := by
    simp only [yearOfEra]
    omega
  simpa [isLeap, hfour] using hlast

end Cycle

/-- What a day is in its era, and the date of it. -/
theorem exists_cycle (n : Int) : ∃ c : Cycle, c.IsProper ∧
    n + 719468 = (n + 719468) / 146097 * 146097 + c.dayOfEra ∧
    ofDays n =
      let m := (5 * c.day + 2) / 153
      let month := if m < 10 then m + 3 else m - 9
      ⟨c.yearOfEra + (n + 719468) / 146097 * 400 + (if month ≤ 2 then 1 else 0), month.toNat,
        (c.day - (153 * m + 2) / 5 + 1).toNat⟩ := by
  have hdiv : (n + 719468).fdiv 146097 = (n + 719468) / 146097 :=
    Int.fdiv_eq_ediv_of_nonneg _ (by omega)
  obtain ⟨c, hc, hday⟩ := Cycle.exists_of_dayOfEra
    (d := n + 719468 - (n + 719468) / 146097 * 146097) (by omega) (by omega)
  refine ⟨c, hc, by omega, ?_⟩
  have hyear := hc.yearOfEra_eq
  have hdoy := hc.dayOfYear_eq
  simp only [hday] at hyear hdoy
  simp only [ofDays, hdiv, hyear, hdoy]

/-- A day gives its date, and the date gives the day. -/
theorem toDays_ofDays (n : Int) : toDays (ofDays n) = n := by
  obtain ⟨c, hc, hn, heq⟩ := exists_cycle n
  have hday := hc.dayOfYear_eq
  have hyear := hc.yearOfEra_lt
  obtain ⟨_, _, _, _, _, _, _, _, _⟩ := hc
  rw [heq]
  simp only [toDays]
  generalize (n + 719468) / 146097 = era at *
  generalize c.dayOfEra = d at *
  generalize c.yearOfEra = y at *
  generalize hm : (5 * c.day + 2) / 153 = m
  have hera : ∀ x, x = y + era * 400 → x.fdiv 400 = era := by
    intro x hx
    rw [Int.fdiv_eq_ediv_of_nonneg _ (by omega)]
    omega
  by_cases hlate : m < 10
  · have hmonth : ¬ (m + 3).toNat ≤ 2 := by omega
    have hnext : ¬ m + 3 ≤ 2 := by omega
    have hmarch : (((m + 3).toNat : Int) + 9) % 12 = m := by omega
    have hyears : y + era * 400 + 0 - era * 400 = y := by omega
    simp only [if_pos hlate, if_neg hmonth, if_neg hnext, hera (y + era * 400 + 0) (by omega),
      hmarch, hyears]
    omega
  · have hmonth : (m - 9).toNat ≤ 2 := by omega
    have hnext : m - 9 ≤ 2 := by omega
    have hmarch : (((m - 9).toNat : Int) + 9) % 12 = m := by omega
    have hyears : y + era * 400 + 1 - 1 - era * 400 = y := by omega
    simp only [if_neg hlate, if_pos hmonth, if_pos hnext,
      hera (y + era * 400 + 1 - 1) (by omega), hmarch, hyears]
    omega

/-- The lengths of the months from March to January. -/
theorem daysInMonth_fromMarch (year : Int) {m : Int} (h0 : 0 ≤ m) (h1 : m < 11) :
    (daysInMonth year (if m < 10 then m + 3 else m - 9).toNat : Int) =
      (153 * (m + 1) + 2) / 5 - (153 * m + 2) / 5 := by
  interval_cases m <;> rfl

/-- The date of a day exists. -/
theorem isValid_ofDays (n : Int) : (ofDays n).isValid = true := by
  obtain ⟨c, hc, -, heq⟩ := exists_cycle n
  have hleap := hc.isLeap_of_day
  obtain ⟨_, _, _, _, _, _, _, _, _⟩ := hc
  rw [heq]
  simp only [Date.isValid, Bool.and_eq_true, decide_eq_true_eq]
  generalize (n + 719468) / 146097 = era at *
  generalize hm : (5 * c.day + 2) / 153 = m
  generalize hmonth : (if m < 10 then m + 3 else m - 9) = month
  generalize hyear : c.yearOfEra + era * 400 + (if month ≤ 2 then 1 else 0) = year
  have hrange : 1 ≤ month ∧ month ≤ 12 := by
    split at hmonth <;> omega
  have hlength : c.day - (153 * m + 2) / 5 + 1 ≤ daysInMonth year month.toNat := by
    by_cases hfeb : m = 11
    · obtain rfl : month = 2 := by
        rw [← hmonth, hfeb]
        rfl
      obtain rfl : c.yearOfEra + era * 400 + 1 = year := hyear
      by_cases hlast : c.day = 365
      · have hlong : daysInMonth (c.yearOfEra + era * 400 + 1) (2 : Int).toNat = 29 :=
          if_pos (hleap hlast era)
        omega
      · have hshort : 28 ≤ daysInMonth (c.yearOfEra + era * 400 + 1) (2 : Int).toNat := by
          show 28 ≤ if isLeap _ = true then 29 else 28
          split <;> omega
        omega
    · have hmarch := daysInMonth_fromMarch year (m := m) (by omega) (by omega)
      rw [hmonth] at hmarch
      omega
  omega
theorem daysInMonth_le (year : Int) (month : Nat) : daysInMonth year month ≤ 31 := by
  unfold daysInMonth
  repeat' split
  all_goals decide

/-- The year of a day that is not too far away is not too far away. -/
theorem year_ofDays_bounds {n : Int} (h : -100000000 ≤ n ∧ n ≤ 100000000) :
    -2147483648 ≤ (ofDays n).year ∧ (ofDays n).year ≤ 2147483647 := by
  obtain ⟨c, hc, -, heq⟩ := exists_cycle n
  have hyear := hc.yearOfEra_lt
  rw [heq]
  dsimp only
  split <;> omega

end Connector.Calendar
