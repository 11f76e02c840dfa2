import Connector.Proofs.Time.Calendar
import Connector.Time.Instant
import Mathlib.Data.List.TakeWhile

/-!
# Time stamps read back

A time stamp is written field by field, each with a fixed number of digits or up to a mark that is
no digit.  The reader of a field takes just what was written for it, and leaves the rest to the
next one.  Statements:

* `numberOf_padded` — a number with leading zeros reads back;
* `year_yearText`, `field_padded`, `decimals_fractionText` — the fields read back, whatever stands
  behind them;
* `parse_format` — the time stamp of every instant of the clock stands for that instant.
-/

namespace Connector

/-- A value is handed on to the rest. -/
theorem ok_bind {ε α β : Type} (a : α) (f : α → Except ε β) : (Except.ok a >>= f) = f a := rfl

namespace Span

variable {width n : Nat} {c : Char}

/-- A number that is short enough is written with all its digits and no more. -/
theorem length_padded (hw : 0 < width) (hn : n < 10 ^ width) : (padded width n).length = width := by
  have hlen := (Nat.length_toDigits_le_iff (b := 10) (by omega) hw).2 hn
  simp only [padded, List.length_append, List.length_replicate]
  omega

theorem isDigit_of_mem_padded (h : c ∈ padded width n) : c.isDigit = true := by
  rcases List.mem_append.1 h with h | h
  · rw [List.eq_of_mem_replicate h]
    rfl
  · exact Nat.isDigit_of_mem_toDigits (by omega) (by omega) h

end Span

namespace Instant
namespace Reader

open Connector.Span

variable {ds rest : List Char} {n : Nat} {c : Char}

/-- Whether what follows goes on with a digit. -/
def startsWithDigit (rest : List Char) : Bool := rest.head?.any Char.isDigit

theorem numberOf_eq (ds : List Char) : numberOf ds = Nat.ofDigitChars 10 ds 0 := by
  unfold numberOf
  rw [Nat.ofDigitChars]
  simp only [Nat.mul_comm]
  rfl

/-- Leading zeros do not count. -/
theorem numberOf_padded (width n : Nat) : numberOf (padded width n) = n := by
  have hzeros : ∀ k, numberOf (List.replicate k '0') = 0 := by
    intro k
    induction k with
    | zero => rfl
    | succ k ih =>
        rw [List.replicate_succ']
        simp only [numberOf, List.foldl_append] at ih ⊢
        rw [ih]
        rfl
  have happend : numberOf (padded width n) = numberOf (Nat.toDigits 10 n) := by
    have hfold := hzeros (width - (Nat.toDigits 10 n).length)
    simp only [numberOf] at hfold
    simp only [numberOf, padded, List.foldl_append, hfold]
  rw [happend, numberOf_eq, Nat.ofDigitChars_toDigits (by omega) (by omega)]

theorem not_isBlank_of_isDigit (h : c.isDigit = true) : Text.isBlank c = false := by
  have hrange : 48 ≤ c.toNat ∧ c.toNat ≤ 57 := by
    simp only [Char.isDigit, Bool.and_eq_true, decide_eq_true_eq, ge_iff_le,
      UInt32.le_iff_toNat_le] at h
    exact h
  simp only [Text.isBlank, Bool.or_eq_false_iff, Bool.and_eq_false_iff, decide_eq_false_iff_not,
    beq_eq_false_iff_ne, ne_eq]
  omega

/-- A run of digits is read to its end, or up to the number of digits that count. -/
theorem digits_append {most : Nat} (hne : ds ≠ []) (hds : ∀ c ∈ ds, c.isDigit = true)
    (hend : ds.length = most ∨ ds.length ≤ most ∧ startsWithDigit rest = false) :
    digits most (ds ++ rest) = .ok (ds, rest) := by
  have htake : ((ds ++ rest).take most).takeWhile Char.isDigit = ds := by
    have hall : ds.takeWhile Char.isDigit = ds := List.takeWhile_eq_self_iff.2 hds
    rcases hend with rfl | ⟨hlen, hrest⟩
    · rw [List.take_left, hall]
    · rw [List.take_append, List.take_of_length_le hlen, List.takeWhile_append_of_pos hds]
      have hnone : ((rest.take (most - ds.length)).takeWhile Char.isDigit) = [] := by
        cases rest with
        | nil => rw [List.take_nil, List.takeWhile_nil]
        | cons c rest =>
            cases most - ds.length with
            | zero => rfl
            | succ k =>
                have hc : c.isDigit = false := hrest
                rw [List.take_succ_cons, List.takeWhile_cons, hc]
                rfl
      rw [hnone, List.append_nil]
  obtain ⟨c, ds, rfl⟩ := List.exists_cons_of_ne_nil hne
  have hc : c.isDigit = true := hds c (List.mem_cons_self)
  rw [List.cons_append] at htake ⊢
  simp only [digits, hc, if_true, htake]
  rw [← List.cons_append, List.drop_left]

theorem padded_ne_nil (width n : Nat) : padded width n ≠ [] := by
  intro h
  have hpos := Nat.length_toDigits_pos (b := 10) (n := n)
  rw [List.append_eq_nil_iff.1 h |>.2] at hpos
  exact Nat.lt_irrefl _ hpos

theorem trimStart_padded (width n : Nat) (rest : List Char) :
    Text.trimStart (padded width n ++ rest) = padded width n ++ rest := by
  obtain ⟨c, ds, hds⟩ := List.exists_cons_of_ne_nil (padded_ne_nil width n)
  have hc : c.isDigit = true := isDigit_of_mem_padded (hds ▸ List.mem_cons_self)
  rw [hds, List.cons_append, Text.trimStart, List.dropWhile_cons, not_isBlank_of_isDigit hc]
  rfl

/-- A field of two digits is read as its number. -/
theorem field_padded {low high : Nat} (hlow : low ≤ n) (hhigh : n ≤ high) (hn : n < 100)
    (rest : List Char) : field low high (padded 2 n ++ rest) = .ok (n, rest) := by
  have hdigits : digits 2 (padded 2 n ++ rest) = .ok (padded 2 n, rest) :=
    digits_append (padded_ne_nil 2 n) (fun _ => isDigit_of_mem_padded)
      (Or.inl (length_padded (by omega) hn))
  simp only [field, trimStart_padded, hdigits, ok_bind, numberOf_padded]
  rw [if_pos ⟨hlow, hhigh⟩]

/-- A mark is read over. -/
theorem mark_cons (hc : Text.isBlank c = false) (rest : List Char) :
    mark c (c :: rest) = .ok rest := by
  simp [mark, Text.trimStart, hc]

/-- Digits behind a sign are read up to the mark behind them. -/
theorem digits_signed (width n : Nat) (rest : List Char) :
    digits (padded width n ++ '-' :: rest).length (padded width n ++ '-' :: rest) =
      .ok (padded width n, '-' :: rest) := by
  refine digits_append (padded_ne_nil width n) (fun _ => isDigit_of_mem_padded)
    (Or.inr ⟨?_, rfl⟩)
  rw [List.length_append]
  omega

/-- A year of four digits, or of more behind a sign, is read up to the mark behind it. -/
theorem year_yearText {y : Int} (hy : -2147483648 ≤ y ∧ y ≤ 2147483647) (rest : List Char) :
    year (yearText y ++ '-' :: rest) = .ok (y, '-' :: rest) := by
  have hrange : ¬ (y < -2147483648 ∨ 2147483647 < y) := by omega
  unfold yearText
  split
  · rename_i hshort
    have hdigits : digits 4 (padded 4 y.toNat ++ '-' :: rest) =
        .ok (padded 4 y.toNat, '-' :: rest) :=
      digits_append (padded_ne_nil 4 _) (fun _ => isDigit_of_mem_padded)
        (Or.inl (length_padded (by omega) (by omega)))
    have hvalue : (numberOf (padded 4 y.toNat) : Int) = y := by
      rw [numberOf_padded]
      omega
    obtain ⟨c, ds, hds⟩ := List.exists_cons_of_ne_nil (padded_ne_nil 4 y.toNat)
    have hc : c.isDigit = true := isDigit_of_mem_padded (hds ▸ List.mem_cons_self)
    rw [hds] at hdigits hvalue ⊢
    rw [List.cons_append] at hdigits ⊢
    have htrim : Text.trimStart (c :: (ds ++ '-' :: rest)) = c :: (ds ++ '-' :: rest) :=
      List.dropWhile_cons_of_neg (by simp [not_isBlank_of_isDigit hc])
    unfold year
    simp only [htrim]
    split
    · rename_i heq
      cases heq
      cases hc
    · rename_i heq
      cases heq
      cases hc
    · simp only [hdigits, ok_bind, pure_bind, hvalue, hrange, if_false]
  · by_cases hneg : y < 0
    · have htrim : ∀ cs, Text.trimStart ('-' :: cs) = '-' :: cs := fun _ => rfl
      have hvalue : -(y.natAbs : Int) = y := by omega
      simp only [hneg, if_true, year, List.cons_append, htrim, digits_signed, ok_bind, pure_bind,
        numberOf_padded, hvalue, hrange, if_false]
    · have htrim : ∀ cs, Text.trimStart ('+' :: cs) = '+' :: cs := fun _ => rfl
      have hvalue : (y.natAbs : Int) = y := by omega
      simp only [hneg, if_false, year, List.cons_append, htrim, digits_signed, ok_bind, pure_bind,
        numberOf_padded, hvalue, hrange]

/-- The decimals of a second are read up to the `Z` behind them. -/
theorem decimals_fractionText (hn : n < 1000000000) (rest : List Char) :
    decimals (fractionText n ++ 'Z' :: rest) = .ok (n, 'Z' :: rest) := by
  have hread : ∀ width k, 0 < width → width ≤ 9 → k < 10 ^ width →
      decimals ('.' :: padded width k ++ 'Z' :: rest) =
        .ok (k * 10 ^ (9 - width), 'Z' :: rest) := by
    intro width k hw hle hk
    have hdigits : digits 9 (padded width k ++ 'Z' :: rest) =
        .ok (padded width k, 'Z' :: rest) := by
      refine digits_append (padded_ne_nil width k) (fun _ => isDigit_of_mem_padded)
        (Or.inr ⟨?_, rfl⟩)
      rw [length_padded hw hk]
      exact hle
    simp only [List.cons_append, decimals, hdigits, ok_bind, numberOf_padded, length_padded hw hk]
    rfl
  unfold fractionText
  split
  · rename_i hzero
    rw [beq_iff_eq] at hzero
    rw [hzero]
    rfl
  · split
    · rename_i h
      rw [beq_iff_eq] at h
      rw [hread 3 _ (by omega) (by omega) (by omega)]
      congr 2
      omega
    · split
      · rename_i h
        rw [beq_iff_eq] at h
        rw [hread 6 _ (by omega) (by omega) (by omega)]
        congr 2
        omega
      · rw [hread 9 _ (by omega) (by omega) (by omega)]
        congr 2
        omega

end Reader

open Reader Connector.Span

/-- The days of the clock. -/
theorem days_of_inRange {t : Instant} (ht : t.inRange = true) :
    -100000000 ≤ t.nanos.fdiv nanosPerDay ∧ t.nanos.fdiv nanosPerDay ≤ 100000000 := by
  have hfirst : -8640000000000000000000 ≤ first.nanos := by decide
  have hlast : last.nanos ≤ 8640000000000000000000 := by decide
  obtain ⟨hlow, hhigh⟩ : first ≤ t ∧ t ≤ last := by
    simpa [inRange] using ht
  change first.nanos ≤ t.nanos at hlow
  change t.nanos ≤ last.nanos at hhigh
  rw [Int.fdiv_eq_ediv_of_nonneg _ (by decide), nanosPerDay]
  omega

/-- **A time stamp reads back.** -/
theorem parse_format {t : Instant} (ht : t.inRange = true) : parse t.format = .ok t := by
  have hdays := days_of_inRange ht
  have hdate := Calendar.toDays_ofDays (t.nanos.fdiv nanosPerDay)
  have hvalid := Calendar.isValid_ofDays (t.nanos.fdiv nanosPerDay)
  have hyear := Calendar.year_ofDays_bounds hdays
  have hfdiv : t.nanos.fdiv nanosPerDay = t.nanos / nanosPerDay :=
    Int.fdiv_eq_ediv_of_nonneg _ (by decide)
  simp only [format, writeWith, parse, String.toList_ofList, List.append_assoc, List.cons_append,
    List.nil_append]
  generalize hd : Calendar.ofDays (t.nanos.fdiv nanosPerDay) = d at *
  generalize hn : (t.nanos - t.nanos.fdiv nanosPerDay * nanosPerDay).toNat = inDay
  have hinDay : inDay < 86400000000000 := by
    rw [hfdiv, nanosPerDay] at hn
    omega
  obtain ⟨⟨⟨hm1, hm2⟩, hd1⟩, hd2⟩ :
      ((1 ≤ d.month ∧ d.month ≤ 12) ∧ 1 ≤ d.day) ∧ d.day ≤ Calendar.daysInMonth d.year d.month := by
    simpa [Calendar.Date.isValid] using hvalid
  have hd3 : d.day ≤ 31 := hd2.trans (Calendar.daysInMonth_le d.year d.month)
  have hdash : Text.isBlank '-' = false := rfl
  have hcolon : Text.isBlank ':' = false := rfl
  have hoffset : offset ['Z'] = .ok (0, []) := rfl
  -- Each reader takes its field and leaves the rest of the text to the next one.
  simp only [year_yearText hyear, ok_bind, mark_cons hdash]
  rw [field_padded hm1 hm2 (by omega)]
  simp only [ok_bind, mark_cons hdash]
  rw [field_padded hd1 hd3 (by omega)]
  simp only [ok_bind]
  rw [if_pos (by decide), field_padded (by omega) (by omega) (by omega)]
  simp only [ok_bind, mark_cons hcolon]
  rw [field_padded (by omega) (by omega) (by omega)]
  simp only [ok_bind, mark_cons hcolon]
  rw [field_padded (by omega) (by omega) (by omega)]
  simp only [ok_bind]
  rw [decimals_fractionText (by omega)]
  simp only [ok_bind, hoffset]
  have hnanos : Calendar.toDays d * nanosPerDay + (((inDay / 1000000000 / 3600 : Nat) : Int) * 3600
      + ((inDay / 1000000000 % 3600 / 60 : Nat) : Int) * 60
      + ((inDay / 1000000000 % 60 : Nat) : Int) - 0) * 1000000000
      + ((inDay % 1000000000 : Nat) : Int) = t.nanos := by
    rw [hdate]
    rw [hfdiv] at hn ⊢
    simp only [nanosPerDay] at hn ⊢
    omega
  rw [hnanos, if_neg (by decide)]
  have hdone : (d.isValid && (⟨t.nanos⟩ : Instant).inRange && decide ((0 : Int).natAbs < 86400))
      = true := by
    rw [hvalid, ht]
    decide
  exact if_pos hdone

end Instant
end Connector
