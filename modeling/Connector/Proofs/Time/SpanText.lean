import Connector.Proofs.Time.Stamp
import Connector.Time.SpanText

/-!
# Spans read back

A span is written as counts with their units, a blank between two of them, and nothing for a count
that is zero.  The reader adds the units up as it goes, so what it makes of a text depends on the
sum so far and on what still follows.  The parts can therefore be taken one by one, each with the
blank before it.  Statements:

* `lengthen_eq`, `addUnits_eq` — where there is room, adding units is plain addition;
* `leads_part`, `leads_partPlural` — a written count leads the reader to the sum with its units;
* `leads_parts` — all of them together lead from nothing to the span they were written for;
* `parse?_format` — the written form of every span stands for that span.
-/

namespace Connector.Span

variable {any : Bool} {s t u : Span} {n : Nat} {unit : Unit} {word : String} {rest : List Char}

/-- The nanoseconds of a unit. -/
def Unit.nanos (unit : Unit) : Nat :=
  if unit.isFine then unit.size else unit.size * 1000000000

/-- So many units lead from one span to another: those below a second do not fill one up, and the
sum is no longer than a span can be. -/
structure Adds (s : Span) (n : Nat) (unit : Unit) (t : Span) : Prop where
  fine : unit.isFine = true → s.nanos % 1000000000 + n * unit.size < 1000000000
  sum : t.nanos = s.nanos + n * unit.nanos
  short : t.nanos ≤ longest.nanos

theorem fits_eq (h : n < 18446744073709551616) : fits n = some n := if_pos h

theorem nanos_longest : longest.nanos = 18446744073709551615999999999 := rfl

theorem lengthen_eq {secs nanos : Nat} (fine : s.nanos % 1000000000 + nanos < 1000000000)
    (short : s.nanos + secs * 1000000000 + nanos ≤ longest.nanos) :
    s.lengthen secs nanos = some ⟨s.nanos + secs * 1000000000 + nanos⟩ := by
  have htotal : s.nanos + secs * 1000000000 + nanos =
      (s.nanos / 1000000000 + secs) * 1000000000 + (s.nanos % 1000000000 + nanos) := by omega
  rw [htotal] at short ⊢
  have hsecs : s.nanos / 1000000000 + secs < 18446744073709551616 := by
    rw [nanos_longest] at short
    omega
  unfold lengthen
  generalize s.nanos % 1000000000 + nanos = n at *
  generalize s.nanos / 1000000000 = whole at *
  have hcarry : ¬ n > 1000000000 := by omega
  rw [fits_eq (by omega), Option.bind_eq_bind, Option.bind_some, if_neg hcarry, if_neg hcarry,
    Option.bind_some]
  show (fits (whole + secs) >>= fun secs =>
    if secs * 1000000000 + n ≤ longest.nanos then some (Span.mk (secs * 1000000000 + n))
    else none) = _
  rw [fits_eq hsecs, Option.bind_eq_bind, Option.bind_some, if_pos short]

theorem Adds.fits (adds : s.Adds n unit t) : n * unit.size < 18446744073709551616 := by
  obtain ⟨fine, sum, short⟩ := adds
  rw [nanos_longest] at short
  cases hfine : unit.isFine with
  | true =>
      have := fine hfine
      omega
  | false =>
      rw [Unit.nanos, hfine, if_neg Bool.false_ne_true, ← Nat.mul_assoc] at sum
      omega

/-- Units below a second lengthen the span by their nanoseconds, the others by their seconds. -/
theorem Adds.lengthen (adds : s.Adds n unit t) :
    (if unit.isFine then s.lengthen 0 (n * unit.size) else s.lengthen (n * unit.size) 0) =
      some t := by
  obtain ⟨t⟩ := t
  obtain ⟨fine, sum, short⟩ := adds
  simp only at sum short
  cases hfine : unit.isFine with
  | true =>
      rw [Unit.nanos, hfine, if_pos rfl] at sum
      rw [if_pos rfl, lengthen_eq (fine hfine) (by omega), sum, Nat.zero_mul, Nat.add_zero]
  | false =>
      rw [Unit.nanos, hfine, if_neg Bool.false_ne_true, ← Nat.mul_assoc] at sum
      rw [if_neg Bool.false_ne_true, lengthen_eq (by omega) (by omega), sum, Nat.add_zero]

theorem addUnits_eq (hunit : Unit.ofWord? word = some unit) (adds : s.Adds n unit t) :
    addUnits s n none word.toList = some t := by
  have hlengthen := adds.lengthen
  unfold addUnits
  rw [String.ofList_toList, hunit, Option.bind_eq_bind, Option.bind_some, fits_eq adds.fits,
    Option.bind_eq_bind, Option.bind_some]
  cases hfine : unit.isFine with
  | true =>
      rw [hfine, if_pos rfl] at hlengthen
      rw [if_pos rfl, hlengthen]
      rfl
  | false =>
      rw [hfine, if_neg Bool.false_ne_true] at hlengthen
      rw [if_neg Bool.false_ne_true, hlengthen]
      rfl

/-! ## What is read of one part -/

theorem readFrom_start_cons (c : Char) (cs : List Char) :
    readFrom any s .start (c :: cs) =
      if c.isDigit then readFrom any s (.whole (digitValue c)) cs
      else if Text.isBlank c then readFrom any s .start cs
      else none := (rfl)

theorem readFrom_whole_cons (c : Char) (cs : List Char) :
    readFrom any s (.whole n) (c :: cs) =
      if c.isDigit then
        match fits (n * 10 + digitValue c) with
        | some n => readFrom any s (.whole n) cs
        | none => none
      else if Text.isBlank c then readFrom any s (.whole n) cs
      else if isUnitLetter c then readFrom any s (.word n none [c]) cs
      else if c == '.' then readFrom any s (.fraction n ⟨0, 1⟩) cs
      else none := (rfl)

theorem readFrom_word_nil (letters : List Char) :
    readFrom any s (.word n none letters) [] = addUnits s n none letters.reverse := (rfl)

theorem readFrom_word_cons (letters : List Char) (c : Char) (cs : List Char) :
    readFrom any s (.word n none letters) (c :: cs) =
      if c.isDigit then
        match addUnits s n none letters.reverse with
        | some s => readFrom true s (.whole (digitValue c)) cs
        | none => none
      else if Text.isBlank c then
        match addUnits s n none letters.reverse with
        | some s => readFrom true s .start cs
        | none => none
      else if isUnitLetter c then readFrom any s (.word n none (c :: letters)) cs
      else none := (rfl)

theorem le_ofDigitChars (ds : List Char) (m : Nat) : m ≤ Nat.ofDigitChars 10 ds m := by
  induction ds generalizing m with
  | nil => exact le_refl m
  | cons c ds ih =>
      calc m ≤ 10 * m + (c.toNat - 48) := by omega
        _ ≤ Nat.ofDigitChars 10 (c :: ds) m := ih _

/-- Digits are read to their end, as long as their number fits. -/
theorem readFrom_digits {ds : List Char} (hds : ∀ c ∈ ds, c.isDigit = true) {m : Nat}
    (hfits : Nat.ofDigitChars 10 ds m < 18446744073709551616) :
    readFrom any s (.whole m) (ds ++ rest) =
      readFrom any s (.whole (Nat.ofDigitChars 10 ds m)) rest := by
  induction ds generalizing m with
  | nil => rfl
  | cons c ds ih =>
      rw [List.forall_mem_cons] at hds
      have hnext : m * 10 + digitValue c = 10 * m + (c.toNat - 48) := by
        rw [digitValue, Nat.mul_comm]
      have hfit : fits (m * 10 + digitValue c) = some (10 * m + (c.toNat - 48)) := by
        rw [hnext]
        exact if_pos (lt_of_le_of_lt (le_ofDigitChars ds _) hfits)
      rw [List.cons_append, readFrom_whole_cons, if_pos hds.1, hfit]
      exact ih hds.2 hfits

/-- The code points of letters. -/
theorem range_of_isAlpha {c : Char} (h : c.isAlpha = true) :
    (65 ≤ c.toNat ∧ c.toNat ≤ 90) ∨ (97 ≤ c.toNat ∧ c.toNat ≤ 122) := by
  change (decide ('A'.val ≤ c.val ∧ c.val ≤ 'Z'.val) ||
    decide ('a'.val ≤ c.val) && decide (c.val ≤ 'z'.val)) = true at h
  simp only [Bool.or_eq_true, Bool.and_eq_true, decide_eq_true_eq, UInt32.le_iff_toNat_le] at h
  exact h

theorem not_isDigit_of_isAlpha {c : Char} (h : c.isAlpha = true) : ¬ c.isDigit = true := by
  intro hdigit
  have hletter := range_of_isAlpha h
  have hrange : 48 ≤ c.toNat ∧ c.toNat ≤ 57 := by
    simp only [Char.isDigit, Bool.and_eq_true, decide_eq_true_eq, ge_iff_le,
      UInt32.le_iff_toNat_le] at hdigit
    exact hdigit
  omega

theorem not_isBlank_of_isAlpha {c : Char} (h : c.isAlpha = true) : ¬ Text.isBlank c = true := by
  have hletter := range_of_isAlpha h
  simp only [Text.isBlank, Bool.or_eq_true, Bool.and_eq_true, decide_eq_true_eq, beq_iff_eq]
  omega

/-- The letters of a unit are read to their end. -/
theorem readFrom_letters {cs : List Char} (hcs : ∀ c ∈ cs, c.isAlpha = true)
    (letters : List Char) :
    readFrom any s (.word n none letters) (cs ++ rest) =
      readFrom any s (.word n none (cs.reverse ++ letters)) rest := by
  induction cs generalizing letters with
  | nil => rfl
  | cons c cs ih =>
      rw [List.forall_mem_cons] at hcs
      have hletter : isUnitLetter c = true := by rw [isUnitLetter, hcs.1, Bool.true_or]
      rw [List.cons_append, readFrom_word_cons, if_neg (not_isDigit_of_isAlpha hcs.1),
        if_neg (not_isBlank_of_isAlpha hcs.1), if_pos hletter, ih hcs.2, List.reverse_cons,
        List.append_assoc, List.singleton_append]

/-- Nothing follows, or a blank stands before what does. -/
def IsApart (rest : List Char) : Prop := rest = [] ∨ ∃ more, rest = ' ' :: more

theorem readFrom_blank (cs : List Char) :
    readFrom any s .start (' ' :: cs) = readFrom any s .start cs := rfl

/-- At the end of a unit its number of units is added. -/
theorem readFrom_wordEnd {letters : List Char} (hadd : addUnits s n none letters.reverse = some t)
    (apart : IsApart rest) :
    readFrom any s (.word n none letters) rest = readFrom true t .start rest := by
  obtain rfl | ⟨more, rfl⟩ := apart
  · rw [readFrom_word_nil, hadd]
    rfl
  · rw [readFrom_word_cons, hadd]
    rfl

/-- A count with its unit is read as so many units more. -/
theorem readFrom_count (hn : n < 18446744073709551616) (hunit : word ≠ "")
    (hword : ∀ c ∈ word.toList, c.isAlpha = true) (hadd : addUnits s n none word.toList = some t)
    (apart : IsApart rest) :
    readFrom any s .start (Nat.toDigits 10 n ++ (word.toList ++ rest)) =
      readFrom true t .start rest := by
  have hdigits : ∀ c ∈ Nat.toDigits 10 n, c.isDigit = true :=
    fun c => Nat.isDigit_of_mem_toDigits (by omega) (by omega)
  have hvalue : Nat.ofDigitChars 10 (Nat.toDigits 10 n) 0 = n :=
    Nat.ofDigitChars_toDigits (by omega) (by omega)
  have hnonempty : word.toList ≠ [] := fun h => hunit (String.toList_eq_nil_iff.1 h)
  have hsome : Nat.toDigits 10 n ≠ [] := List.ne_nil_of_length_pos Nat.length_toDigits_pos
  obtain ⟨d, ds, hds⟩ := List.exists_cons_of_ne_nil hsome
  obtain ⟨c, cs, hcs⟩ := List.exists_cons_of_ne_nil hnonempty
  rw [hds, List.forall_mem_cons] at hdigits
  rw [hds] at hvalue
  rw [hcs, List.forall_mem_cons] at hword
  have hletter : isUnitLetter c = true := by rw [isUnitLetter, hword.1, Bool.true_or]
  -- The first digit and the first letter start a stage; the others continue it.
  have hfirst : readFrom any s .start (d :: (ds ++ (c :: cs ++ rest))) =
      readFrom any s (.whole (digitValue d)) (ds ++ (c :: cs ++ rest)) := by
    rw [readFrom_start_cons, if_pos hdigits.1]
  have hwhole : Nat.ofDigitChars 10 ds (digitValue d) = n := by
    rw [← hvalue]
    show _ = Nat.ofDigitChars 10 ds (10 * 0 + (d.toNat - 48))
    rw [digitValue, Nat.mul_zero, Nat.zero_add]
  have hmiddle : readFrom any s (.whole n) (c :: (cs ++ rest)) =
      readFrom any s (.word n none [c]) (cs ++ rest) := by
    rw [readFrom_whole_cons, if_neg (not_isDigit_of_isAlpha hword.1),
      if_neg (not_isBlank_of_isAlpha hword.1), if_pos hletter]
  have hreverse : (cs.reverse ++ [c]).reverse = word.toList := by
    rw [List.reverse_append, List.reverse_reverse, hcs]
    rfl
  rw [hds, hcs, List.cons_append, hfirst, readFrom_digits hdigits.2 (by rw [hwhole]; exact hn),
    hwhole, List.cons_append, hmiddle, readFrom_letters hword.2]
  exact readFrom_wordEnd (by rw [hreverse]; exact hadd) apart

/-! ## The parts of a written span -/

/-- The parts, each with a blank before it. -/
def spread (parts : List String) : List Char := parts.flatMap fun p => ' ' :: p.toList

/-- Reading the parts leads from one sum to another, whatever follows them. -/
def Leads (s : Span) (parts : List String) (t : Span) : Prop :=
  ∀ any rest, IsApart rest →
    readFrom any s .start (spread parts ++ rest) =
      readFrom (any || !parts.isEmpty) t .start rest

theorem isApart_spread (parts : List String) (apart : IsApart rest) :
    IsApart (spread parts ++ rest) := by
  cases parts with
  | nil => exact apart
  | cons p parts => exact Or.inr ⟨_, rfl⟩

theorem Leads.append {parts more : List String} (h : Leads s parts t) (hmore : Leads t more u) :
    Leads s (parts ++ more) u := by
  intro any rest apart
  have hspread : spread (parts ++ more) ++ rest = spread parts ++ (spread more ++ rest) := by
    rw [spread, List.flatMap_append, List.append_assoc]
    rfl
  rw [hspread, h any _ (isApart_spread more apart), hmore _ rest apart]
  cases parts <;> simp

theorem leads_part (adds : s.Adds n unit t) (hn : n < 18446744073709551616)
    (hunit : Unit.ofWord? word = some unit) (hword : word.toList.all Char.isAlpha = true) :
    Leads s (part n word) t := by
  intro any rest apart
  by_cases h : n = 0
  · subst h
    have hsame : t.nanos = s.nanos := by rw [adds.sum, Nat.zero_mul, Nat.add_zero]
    have hspan : t = s := congrArg Span.mk hsame
    show readFrom any s .start rest = readFrom (any || false) t .start rest
    rw [hspan, Bool.or_false]
  · have hpart : part n word = [toString n ++ word] := if_neg (by simp [h])
    have hnonempty : word ≠ "" := by
      rintro rfl
      cases hunit
    have htext : spread [toString n ++ word] ++ rest =
        ' ' :: (Nat.toDigits 10 n ++ (word.toList ++ rest)) := by
      simp [spread]
    rw [hpart, htext, readFrom_blank, readFrom_count hn hnonempty
      (fun c hc => List.all_eq_true.1 hword c hc) (addUnits_eq hunit adds) apart]
    simp

theorem leads_partPlural (adds : s.Adds n unit t) (hn : n < 18446744073709551616)
    (hone : Unit.ofWord? word = some unit) (hmany : Unit.ofWord? (word ++ "s") = some unit)
    (hword : word.toList.all Char.isAlpha = true) : Leads s (partPlural n word) t := by
  unfold partPlural
  split
  · refine leads_part adds hn hmany ?_
    rw [String.toList_append, List.all_append, hword]
    rfl
  · exact leads_part adds hn hone hword

/-- The parts of the written form, the largest unit first. -/
def parts (s : Span) : List String :=
  let secs := s.nanos / 1000000000
  let nanos := s.nanos % 1000000000
  let inYear := secs % 31557600
  let inMonth := inYear % 2630016
  let inDay := inMonth % 86400
  partPlural (secs / 31557600) "year" ++ partPlural (inYear / 2630016) "month"
    ++ partPlural (inMonth / 86400) "day" ++ part (inDay / 3600) "h"
    ++ part (inDay % 3600 / 60) "m" ++ part (inDay % 60) "s" ++ part (nanos / 1000000) "ms"
    ++ part (nanos / 1000 % 1000) "us" ++ part (nanos % 1000) "ns"

theorem format_eq (s : Span) :
    s.format = if s.parts.isEmpty then "0s" else String.intercalate " " s.parts := rfl

theorem adds_coarse (unit : Unit) (size : Nat) {a b : Nat} (hunit : unit.isFine = false)
    (hsize : unit.size = size) (sum : b = a + n * (size * 1000000000))
    (short : b ≤ 18446744073709551615999999999) : Adds ⟨a⟩ n unit ⟨b⟩ where
  fine h := absurd (hunit.symm.trans h) Bool.false_ne_true
  sum := by rw [sum, Unit.nanos, hunit, hsize, if_neg Bool.false_ne_true]
  short := by rwa [nanos_longest]

theorem adds_fine (unit : Unit) (size : Nat) {a b : Nat} (hunit : unit.isFine = true)
    (hsize : unit.size = size) (fine : a % 1000000000 + n * size < 1000000000)
    (sum : b = a + n * size) (short : b ≤ 18446744073709551615999999999) :
    Adds ⟨a⟩ n unit ⟨b⟩ where
  fine _ := by rwa [hsize]
  sum := by rw [sum, Unit.nanos, hunit, hsize, if_pos rfl]
  short := by rwa [nanos_longest]

/-- The parts lead from nothing to the span they were written for. -/
theorem leads_parts (h : s.nanos ≤ longest.nanos) : Leads ⟨0⟩ s.parts s := by
  rw [nanos_longest] at h
  obtain ⟨nanos⟩ := s
  simp only at h
  simp only [parts]
  generalize hsecs : nanos / 1000000000 = secs
  generalize hyear : secs % 31557600 = inYear
  generalize hmonth : inYear % 2630016 = inMonth
  generalize hday : inMonth % 86400 = inDay
  generalize hfine : nanos % 1000000000 = fine
  -- The sum after each part: the whole seconds less what is left of them, then the rest.
  have years : Adds ⟨0⟩ (secs / 31557600) .year ⟨(secs - inYear) * 1000000000⟩ :=
    adds_coarse .year 31557600 rfl rfl (by omega) (by omega)
  have months : Adds ⟨(secs - inYear) * 1000000000⟩ (inYear / 2630016) .month
      ⟨(secs - inMonth) * 1000000000⟩ :=
    adds_coarse .month 2630016 rfl rfl (by omega) (by omega)
  have days : Adds ⟨(secs - inMonth) * 1000000000⟩ (inMonth / 86400) .day
      ⟨(secs - inDay) * 1000000000⟩ :=
    adds_coarse .day 86400 rfl rfl (by omega) (by omega)
  have hours : Adds ⟨(secs - inDay) * 1000000000⟩ (inDay / 3600) .hour
      ⟨(secs - inDay % 3600) * 1000000000⟩ :=
    adds_coarse .hour 3600 rfl rfl (by omega) (by omega)
  have minutes : Adds ⟨(secs - inDay % 3600) * 1000000000⟩ (inDay % 3600 / 60) .minute
      ⟨(secs - inDay % 60) * 1000000000⟩ :=
    adds_coarse .minute 60 rfl rfl (by omega) (by omega)
  have seconds : Adds ⟨(secs - inDay % 60) * 1000000000⟩ (inDay % 60) .second
      ⟨secs * 1000000000⟩ :=
    adds_coarse .second 1 rfl rfl (by omega) (by omega)
  have millis : Adds ⟨secs * 1000000000⟩ (fine / 1000000) .milli
      ⟨secs * 1000000000 + fine / 1000000 * 1000000⟩ :=
    adds_fine .milli 1000000 rfl rfl (by omega) (by omega) (by omega)
  have micros : Adds ⟨secs * 1000000000 + fine / 1000000 * 1000000⟩ (fine / 1000 % 1000) .micro
      ⟨secs * 1000000000 + fine / 1000 * 1000⟩ :=
    adds_fine .micro 1000 rfl rfl (by omega) (by omega) (by omega)
  have rest : Adds ⟨secs * 1000000000 + fine / 1000 * 1000⟩ (fine % 1000) .nano ⟨nanos⟩ :=
    adds_fine .nano 1 rfl rfl (by omega) (by omega) (by omega)
  exact ((((((((leads_partPlural years (by omega) rfl rfl rfl).append
    (leads_partPlural months (by omega) rfl rfl rfl)).append
    (leads_partPlural days (by omega) rfl rfl rfl)).append
    (leads_part hours (by omega) rfl rfl)).append
    (leads_part minutes (by omega) rfl rfl)).append
    (leads_part seconds (by omega) rfl rfl)).append
    (leads_part millis (by omega) rfl rfl)).append
    (leads_part micros (by omega) rfl rfl)).append
    (leads_part rest (by omega) rfl rfl)

theorem part_eq_nil_iff : part n word = [] ↔ n = 0 := by
  unfold part
  split <;> simp_all

/-- Only the span of no length has no parts. -/
theorem nanos_eq_zero_of_parts (h : s.parts = []) : s.nanos = 0 := by
  simp only [parts, partPlural, List.append_eq_nil_iff, part_eq_nil_iff] at h
  omega

theorem spread_eq {parts : List String} (h : parts ≠ []) :
    spread parts = ' ' :: (String.intercalate " " parts).toList := by
  rw [String.toList_intercalate]
  induction parts with
  | nil => exact absurd rfl h
  | cons p rest ih =>
      cases rest with
      | nil => simp [spread]
      | cons q rest =>
          have hrest := ih (List.cons_ne_nil q rest)
          rw [spread, List.flatMap_cons, ← spread, hrest]
          simp [List.intercalate_cons_cons]

/-- **A span reads back** from its written form. -/
theorem parse?_format (h : s.nanos ≤ longest.nanos) : parse? s.format = some s := by
  by_cases hparts : s.parts = []
  · have hzero : s = ⟨0⟩ := congrArg Span.mk (nanos_eq_zero_of_parts hparts)
    rw [hzero]
    rfl
  · have hempty : s.parts.isEmpty = false := by simpa using hparts
    have htext : s.format = String.intercalate " " s.parts := by
      rw [format_eq, hempty, if_neg Bool.false_ne_true]
    have hread : readFrom false ⟨0⟩ .start s.format.toList = some s := by
      have hspread := leads_parts h false [] (Or.inl rfl)
      rw [List.append_nil, spread_eq hparts, readFrom_blank, ← htext, hempty] at hspread
      exact hspread
    -- A zero without a unit would not read as the parts do.
    have hunit : s.format ≠ "0" := by
      intro hzero
      rw [hzero] at hread
      cases hread
    rw [parse?, if_neg (by simpa using hunit), hread]

end Connector.Span
