import Connector.Decimal.Binary64
import Mathlib.Algebra.Order.Field.Power
import Mathlib.Algebra.Order.Field.Rat
import Mathlib.Tactic.Linarith
import Mathlib.Tactic.Ring

/-!
# The double nearest to a whole number

A double stands for a rational number, its value, and doubles are ordered as their values are.  A
whole number of at most 53 binary digits, trailing zeros apart, is the value of a double; of any
other one the double keeps the nearest number of this kind, and of two that are equally near the one
that is divisible by twice their distance.  What is said about rounding below rests on this
description alone (`IsNearest`), and not on how the digits are found.  Statements:

* `compare_eq_lt_iff`, `compare_eq_gt_iff`, `compare_eq_eq_iff` — doubles are ordered by their
  values;
* `IsNearest.unique`, `IsNearest.mono` — what is nearest, and that rounding keeps the order;
* `IsNearest.lt_iff` — numbers stand as their nearest ones do, unless these are the same;
* `IsNearest.eq_of_isShort`, `IsNearest.eq_iff` — where rounding changes nothing, and where it keeps
  different numbers apart;
* `exists_isNearest_ofInt` — the double of a whole number has the nearest value.
-/

namespace Connector
namespace Binary64

/-- The number that a double stands for. -/
def value (x : Binary64) : ℚ :=
  (if x.negative then -(x.mantissa : ℚ) else x.mantissa) * 2 ^ x.exponent

/-! ## The order of doubles -/

/-- An aligned mantissa counts units of the lesser exponent. -/
theorem aligned_fst (a b : Binary64) :
    ((aligned a b).1 : ℚ) * 2 ^ min a.exponent b.exponent = a.value := by
  have hle : min a.exponent b.exponent ≤ a.exponent := Int.min_le_left _ _
  have hshift : (2 : ℚ) ^ (a.exponent - min a.exponent b.exponent).toNat
      * 2 ^ min a.exponent b.exponent = 2 ^ a.exponent := by
    rw [← zpow_natCast, Int.toNat_of_nonneg (Int.sub_nonneg_of_le hle),
      ← zpow_add₀ two_ne_zero, Int.sub_add_cancel]
  unfold aligned value
  cases h : a.negative with
  | false => simp [h, mul_assoc, hshift]
  | true => simp [h, mul_assoc, hshift]

theorem aligned_snd (a b : Binary64) :
    ((aligned a b).2 : ℚ) * 2 ^ min a.exponent b.exponent = b.value := by
  have hswap : (aligned a b).2 = (aligned b a).1 := by
    simp only [aligned, Int.min_comm]
  rw [hswap, Int.min_comm]
  exact aligned_fst b a

theorem compare_eq_lt_iff {a b : Binary64} : a.compare b = .lt ↔ a.value < b.value := by
  have hscale : (0 : ℚ) < 2 ^ min a.exponent b.exponent := zpow_pos two_pos _
  rw [← aligned_fst a b, ← aligned_snd a b, mul_lt_mul_iff_left₀ hscale, Int.cast_lt]
  exact Int.compare_eq_lt

theorem compare_eq_gt_iff {a b : Binary64} : a.compare b = .gt ↔ b.value < a.value := by
  have hscale : (0 : ℚ) < 2 ^ min a.exponent b.exponent := zpow_pos two_pos _
  rw [← aligned_fst a b, ← aligned_snd a b, mul_lt_mul_iff_left₀ hscale, Int.cast_lt]
  exact Int.compare_eq_gt

theorem compare_eq_eq_iff {a b : Binary64} : a.compare b = .eq ↔ a.value = b.value := by
  have hscale : (2 : ℚ) ^ min a.exponent b.exponent ≠ 0 := zpow_ne_zero _ two_ne_zero
  rw [← aligned_fst a b, ← aligned_snd a b, mul_left_inj' hscale, Int.cast_inj]
  exact Int.compare_eq_eq

/-! ## What rounding is -/

/-- A whole number of at most 53 binary digits, trailing zeros apart. -/
def IsShort (v : Int) : Prop := ∃ (m : Int) (e : Nat), m.natAbs < 2 ^ 53 ∧ v = m * 2 ^ e

/-- A whole number of at most 53 binary digits is nearest to a number: no other is nearer, and if
another is as near, it is divisible by twice their distance. -/
structure IsNearest (n v : Int) : Prop where
  short : IsShort v
  closest : ∀ w, IsShort w → (n - v).natAbs ≤ (n - w).natAbs
  even : ∀ w, IsShort w → w ≠ v → (n - w).natAbs = (n - v).natAbs → 2 * (v - w) ∣ v

variable {n a b u v : Int}

theorem isShort_of_natAbs_le (h : n.natAbs ≤ 2 ^ 53) : IsShort n := by
  rcases Nat.lt_or_eq_of_le h with hlt | heq
  · exact ⟨n, 0, hlt, by simp⟩
  · -- Two to the power of 53 has one digit only.
    exact ⟨n / 2, 1, by omega, by omega⟩

theorem IsShort.shift (h : IsShort v) (e : Nat) : IsShort (v * 2 ^ e) := by
  obtain ⟨m, f, hm, rfl⟩ := h
  exact ⟨m, f + e, hm, by rw [Int.mul_assoc, Int.pow_add]⟩

theorem IsShort.neg (h : IsShort v) : IsShort (-v) := by
  obtain ⟨m, e, hm, rfl⟩ := h
  exact ⟨-m, e, by rwa [Int.natAbs_neg], (Int.neg_mul m _).symm⟩

theorem isNearest_self (h : IsShort n) : IsNearest n n where
  short := h
  closest w _ := by omega
  even w _ hne heq := by omega

namespace IsNearest

theorem unique (hu : IsNearest n u) (hv : IsNearest n v) : u = v := by
  by_contra hne
  have hleft := hu.closest v hv.short
  have hright := hv.closest u hu.short
  -- Both would be divisible by twice their distance, and so would that distance.
  obtain ⟨j, hj⟩ := hu.even v hv.short (fun h => hne h.symm) (by omega)
  obtain ⟨k, hk⟩ := hv.even u hu.short hne (by omega)
  have hdistance : (u - v) * (2 * (j + k)) = (u - v) * 1 := by linarith
  have hone := Int.eq_of_mul_eq_mul_left (sub_ne_zero.2 hne) hdistance
  omega

/-- Rounding keeps the order. -/
theorem mono (hu : IsNearest a u) (hv : IsNearest b v) (h : a ≤ b) : u ≤ v := by
  have hleft := hu.closest v hv.short
  have hright := hv.closest u hu.short
  by_contra hlt
  have heq : a = b := by omega
  subst heq
  exact hlt (Int.le_of_eq (hu.unique hv))

/-- A number that is short already is its own nearest. -/
theorem eq_of_isShort (h : IsNearest n v) (hn : IsShort n) : v = n :=
  h.unique (isNearest_self hn)

theorem neg (h : IsNearest n v) : IsNearest (-n) (-v) where
  short := h.short.neg
  closest w hw := by
    have := h.closest (-w) hw.neg
    omega
  even w hw hne heq := by
    have hdvd := h.even (-w) hw.neg (by omega) (by omega)
    have hfactor : 2 * (-v - w) = -(2 * (v - -w)) := by ring
    rw [hfactor]
    exact (Int.neg_dvd.2 hdvd).trans (Int.dvd_neg.2 (Int.dvd_refl v))

/-- Numbers stand as their nearest ones do, unless different numbers have the same nearest one. -/
theorem lt_iff (hu : IsNearest a u) (hv : IsNearest b v) (h : a = b ∨ u ≠ v) :
    u < v ↔ a < b := by
  constructor
  · intro hlt
    by_contra hle
    exact absurd (hv.mono hu (Int.not_lt.1 hle)) (Int.not_le.2 hlt)
  · intro hlt
    exact lt_of_le_of_ne (hu.mono hv (Int.le_of_lt hlt)) (h.resolve_left (Int.ne_of_lt hlt))

/-- Below two to the power of 53 rounding keeps a number apart from every other one. -/
theorem eq_iff (hu : IsNearest a u) (hv : IsNearest b v) (h : a.natAbs < 2 ^ 53) :
    u = v ↔ a = b := by
  have hself : u = a := hu.eq_of_isShort (isShort_of_natAbs_le (Nat.le_of_lt h))
  constructor
  · intro heq
    -- The neighbours of the small number are short too, and what lies behind them stays there.
    have habove : IsShort (a + 1) := isShort_of_natAbs_le (by omega)
    have hbelow : IsShort (a - 1) := isShort_of_natAbs_le (by omega)
    by_contra hne
    rcases Int.lt_or_gt_of_ne hne with hlt | hgt
    · have := (isNearest_self habove).mono hv (by omega)
      omega
    · have := hv.mono (isNearest_self hbelow) (by omega)
      omega
  · rintro rfl
    exact hu.unique hv

end IsNearest

/-! ## How it is done -/

/-- A quotient is rounded by half a unit at most, and by exactly half a unit to an even number
only. -/
theorem roundHalfEven_spec (num : Nat) {den : Nat} (hden : 0 < den) :
    let d : Int := num - roundHalfEven num den * den
    2 * d.natAbs ≤ den ∧ (2 * d.natAbs = den → roundHalfEven num den % 2 = 0) := by
  have hdivision : den * (num / den) + num % den = num := Nat.div_add_mod num den
  have hrest : num % den < den := Nat.mod_lt _ hden
  intro d
  unfold d roundHalfEven
  generalize num / den = q at hdivision ⊢
  generalize num % den = r at hdivision hrest ⊢
  have hsum : (num : Int) = q * den + r := by
    rw [← hdivision]
    push_cast
    ring
  dsimp only
  split_ifs with hmore hhalf
  · have hd : (num : Int) - ↑(q + 1) * den = r - den := by
      rw [hsum]
      push_cast
      ring
    rw [hd]
    omega
  · obtain ⟨heq, hodd⟩ : 2 * r = den ∧ q % 2 = 1 := by simpa using hhalf
    have hd : (num : Int) - ↑(q + 1) * den = r - den := by
      rw [hsum]
      push_cast
      ring
    rw [hd]
    omega
  · have hnot : ¬ (2 * r = den ∧ q % 2 = 1) := by simpa using hhalf
    have hd : (num : Int) - q * den = r := by
      rw [hsum]
      ring
    rw [hd]
    omega

theorem roundHalfEven_one (n : Nat) : roundHalfEven n 1 = n := by
  have := (roundHalfEven_spec n Nat.one_pos).1
  omega

theorem roundHalfEven_le {num den k : Nat} (h : num < k * den) : roundHalfEven num den ≤ k := by
  have hdiv : num / den < k := Nat.div_lt_of_lt_mul (by rwa [Nat.mul_comm])
  unfold roundHalfEven
  dsimp only
  split_ifs <;> omega

/-- A short number that is no multiple of a power of two lies below the numbers that have 53 digits
in front of such a power. -/
theorem IsShort.dvd_or_lt {w : Int} (hw : IsShort w) (e : Nat) :
    2 ^ e ∣ w ∨ w.natAbs < 2 ^ 52 * 2 ^ e := by
  obtain ⟨m, f, hm, rfl⟩ := hw
  rcases Nat.lt_or_ge f e with hlt | hge
  · right
    calc (m * 2 ^ f).natAbs
        = m.natAbs * 2 ^ f := by rw [Int.natAbs_mul, Int.natAbs_pow]; rfl
      _ < 2 ^ 53 * 2 ^ f := Nat.mul_lt_mul_of_pos_right hm (Nat.two_pow_pos f)
      _ = 2 ^ 52 * 2 ^ (f + 1) := by ring
      _ ≤ 2 ^ 52 * 2 ^ e := Nat.mul_le_mul_left _ (Nat.pow_le_pow_right (by decide) hlt)
  · exact Or.inl ((pow_dvd_pow 2 hge).trans (Int.dvd_mul_left m _))

/-- Different multiples of a unit are a unit apart at least. -/
theorem unit_le_of_ne {j k unit : Int} (hunit : 0 < unit) (h : j ≠ k) :
    unit ≤ (j * unit - k * unit).natAbs := by
  have hone : 1 ≤ (j - k).natAbs := by omega
  have hfactor : (j * unit - k * unit).natAbs = (j - k).natAbs * unit.natAbs := by
    rw [← Int.sub_mul, Int.natAbs_mul]
  have := Nat.mul_le_mul_right unit.natAbs hone
  omega

/-- A multiple of the unit of the last of 53 digits is nearest to a number if it lies half a unit
off at most, and is even where it lies exactly half a unit off. -/
theorem isNearest_of_unit {n m : Int} {e : Nat} (hn : 2 ^ 52 * 2 ^ e ≤ n) (hm : m.natAbs ≤ 2 ^ 53)
    (hhalf : 2 * (n - m * 2 ^ e).natAbs ≤ 2 ^ e)
    (heven : 2 * (n - m * 2 ^ e).natAbs = 2 ^ e → m % 2 = 0) : IsNearest n (m * 2 ^ e) := by
  have hunit : (0 : Int) < 2 ^ e := Int.pow_pos (by decide)
  have hcast : ((2 ^ e : Nat) : Int) = 2 ^ e := by push_cast; rfl
  -- Another multiple of the unit is a unit off, and what is no multiple of it lies below the least
  -- number of that many digits, which is one.
  have hbeside : ∀ w, IsShort w → w ≠ m * 2 ^ e → (n - m * 2 ^ e).natAbs < (n - w).natAbs ∨
      (n - m * 2 ^ e).natAbs = (n - w).natAbs ∧ (m * 2 ^ e - w).natAbs = 2 ^ e ∧
        2 * (n - m * 2 ^ e).natAbs = 2 ^ e := by
    intro w hw hne
    rcases hw.dvd_or_lt e with hdvd | hbelow
    · obtain ⟨k, rfl⟩ := exists_eq_mul_left_of_dvd hdvd
      have := unit_le_of_ne hunit fun h : k = m => hne (congrArg (· * 2 ^ e) h)
      omega
    · by_cases heq : (2 : Int) ^ 52 = m
      · subst heq
        omega
      · have := unit_le_of_ne hunit heq
        omega
  refine ⟨(isShort_of_natAbs_le hm).shift e, fun w hw => ?_, fun w hw hne heq => ?_⟩
  · by_cases hne : w = m * 2 ^ e
    · rw [hne]
    · rcases hbeside w hw hne with hlt | ⟨heq, -, -⟩
      · exact Nat.le_of_lt hlt
      · exact Nat.le_of_eq heq
  · obtain ⟨-, hdistance, htie⟩ := (hbeside w hw hne).resolve_left (by omega)
    obtain ⟨k, hk⟩ := Int.dvd_of_emod_eq_zero (heven htie)
    have hdvd : 2 * (2 : Int) ^ e ∣ m * 2 ^ e := ⟨k, by rw [hk]; ring⟩
    -- The distance is the unit, with one sign or the other.
    rcases Int.natAbs_eq (m * 2 ^ e - w) with hsign | hsign
    · rwa [hsign, hdistance, hcast]
    · rw [hsign, hdistance, hcast, Int.mul_neg]
      exact Int.neg_dvd.2 hdvd

/-! ## The double of a whole number -/

theorem scaled_up (n : Nat) {k : Nat} (hk : 0 < k) : scaled n 1 (-(k : Int)) = (n * 2 ^ k, 1) := by
  unfold scaled
  rw [if_pos (by omega), Int.neg_neg, Int.toNat_natCast]
  rfl

theorem scaled_down (n e : Nat) : scaled n 1 (e : Int) = (n, 2 ^ e) := by
  unfold scaled
  rw [if_neg (by omega), Int.toNat_natCast, Nat.one_mul]
  rfl

/-- The exponent in which a whole number has 53 digits is the one that is tried first. -/
theorem exponentFor_one {n : Nat} (hn : n ≠ 0) : exponentFor n 1 = (Nat.log2 n : Int) - 52 := by
  have hlow : 2 ^ Nat.log2 n ≤ n := Nat.log2_self_le hn
  have hguess : (scaled n 1 ((Nat.log2 n : Int) - 52)).2 * 2 ^ 52 ≤
      (scaled n 1 ((Nat.log2 n : Int) - 52)).1 := by
    rcases Nat.lt_or_ge (Nat.log2 n) 52 with hlt | hge
    · obtain ⟨k, hk⟩ : ∃ k, 52 = Nat.log2 n + k := ⟨52 - Nat.log2 n, by omega⟩
      have hexponent : (Nat.log2 n : Int) - 52 = -(k : Int) := by omega
      rw [hexponent, scaled_up n (by omega)]
      calc 1 * 2 ^ 52 = 2 ^ Nat.log2 n * 2 ^ k := by rw [← Nat.pow_add, ← hk, Nat.one_mul]
        _ ≤ n * 2 ^ k := Nat.mul_le_mul_right _ hlow
    · obtain ⟨e, he⟩ : ∃ e, Nat.log2 n = e + 52 := ⟨Nat.log2 n - 52, by omega⟩
      have hexponent : (Nat.log2 n : Int) - 52 = (e : Int) := by omega
      rw [hexponent, scaled_down, ← Nat.pow_add, ← he]
      exact hlow
  have hone : Nat.log2 1 = 0 := by decide
  unfold exponentFor
  simp only [hone, Int.ofNat_zero, Int.sub_zero, Nat.pow_eq]
  rw [if_neg (Nat.not_lt.2 hguess)]
  exact Int.max_eq_left (by omega)

/-- A mantissa that ran over is halved, and the value stays the same. -/
theorem value_carried (negative : Bool) (m : Nat) (e : Int) :
    (if m == 2 ^ 53 then (⟨negative, 2 ^ 52, e + 1⟩ : Binary64) else ⟨negative, m, e⟩).value =
      (if negative then -(m : ℚ) else m) * 2 ^ e := by
  by_cases hm : m = 2 ^ 53
  · subst hm
    rw [if_pos (beq_self_eq_true _)]
    have hcarry : (2 : ℚ) ^ (e + 1) = 2 * 2 ^ e := by
      rw [zpow_add_one₀ two_ne_zero, mul_comm]
    unfold value
    rw [hcarry]
    cases negative with
    | false =>
        simp only [Bool.false_eq_true, if_false]
        push_cast
        ring
    | true =>
        simp only [if_true]
        push_cast
        ring
  · rw [if_neg (by simpa using hm)]
    rfl

/-- The double of a whole number has 53 digits of it, the last of them rounded. -/
theorem ofRatio_one {n : Nat} (hn : n ≠ 0) (hword : n < 2 ^ 64) (negative : Bool) :
    let s := scaled n 1 ((Nat.log2 n : Int) - 52)
    let m := roundHalfEven s.1 s.2
    ∃ x, ofRatio negative n 1 = some x ∧
      x.value = (if negative then -(m : ℚ) else m) * 2 ^ ((Nat.log2 n : Int) - 52) := by
  intro s m
  have hlog : Nat.log2 n < 64 := (Nat.log2_lt hn).2 hword
  let x : Binary64 := if m == 2 ^ 53 then ⟨negative, 2 ^ 52, (Nat.log2 n : Int) - 52 + 1⟩
    else ⟨negative, m, (Nat.log2 n : Int) - 52⟩
  have hexponent : ¬ x.exponent > 971 := by
    unfold x
    split_ifs <;> dsimp only <;> omega
  refine ⟨x, ?_, value_carried negative m _⟩
  unfold ofRatio
  rw [if_neg (by simpa using hn)]
  simp only [exponentFor_one hn]
  exact if_neg hexponent

/-- The double of a positive number has the nearest value. -/
theorem exists_isNearest_ofRatio {n : Nat} (hn : n ≠ 0) (hword : n < 2 ^ 64) (negative : Bool) :
    ∃ (x : Binary64) (v : Int), ofRatio negative n 1 = some x ∧ IsNearest n v ∧
      x.value = if negative then -(v : ℚ) else v := by
  have hlow : 2 ^ Nat.log2 n ≤ n := Nat.log2_self_le hn
  have hhigh : n < 2 ^ (Nat.log2 n + 1) := Nat.lt_log2_self
  obtain ⟨x, hx, hvalue⟩ := ofRatio_one hn hword negative
  rcases Nat.lt_or_ge (Nat.log2 n) 52 with hlt | hge
  · -- A number with fewer digits is kept as it is.
    obtain ⟨k, hk⟩ : ∃ k, 52 = Nat.log2 n + k := ⟨52 - Nat.log2 n, by omega⟩
    have hexponent : (Nat.log2 n : Int) - 52 = -(k : Int) := by omega
    have hsmall : n < 2 ^ 53 :=
      Nat.lt_of_lt_of_le hhigh (Nat.pow_le_pow_right (by decide) (by omega))
    rw [hexponent, scaled_up n (by omega), roundHalfEven_one] at hvalue
    refine ⟨x, n, hx, isNearest_self (isShort_of_natAbs_le (by omega)), ?_⟩
    rw [hvalue]
    cases negative <;> simp
  · obtain ⟨e, he⟩ : ∃ e, Nat.log2 n = e + 52 := ⟨Nat.log2 n - 52, by omega⟩
    have hexponent : (Nat.log2 n : Int) - 52 = (e : Int) := by omega
    have hdigits : 2 ^ 52 * 2 ^ e ≤ n := by rwa [← Nat.pow_add, Nat.add_comm, ← he]
    have hfew : n < 2 ^ 53 * 2 ^ e := by
      rwa [← Nat.pow_add, show 53 + e = Nat.log2 n + 1 by omega]
    obtain ⟨hhalf, heven⟩ := roundHalfEven_spec n (Nat.two_pow_pos e)
    have hmantissa : roundHalfEven n (2 ^ e) ≤ 2 ^ 53 := roundHalfEven_le hfew
    rw [hexponent, scaled_down] at hvalue
    refine ⟨x, roundHalfEven n (2 ^ e) * 2 ^ e, hx, ?_, ?_⟩
    · push_cast at hhalf heven
      refine isNearest_of_unit (by exact_mod_cast hdigits) (by omega) hhalf fun htie => ?_
      have := heven htie
      omega
    · rw [hvalue, zpow_natCast]
      cases negative <;> simp

/-- **The double of a whole number of 64 bits has the value nearest to it.** -/
theorem exists_isNearest_ofInt {n : Int} (hword : n.natAbs < 2 ^ 64) :
    ∃ v : Int, IsNearest n v ∧ (ofInt n).value = v := by
  by_cases hn : n = 0
  · subst hn
    have hvalue : (ofInt 0).value = 0 := by simp [ofInt, ofRatio, zero, value]
    exact ⟨0, isNearest_self (isShort_of_natAbs_le (by decide)), by exact_mod_cast hvalue⟩
  · obtain ⟨x, v, hx, hnearest, hvalue⟩ :=
      exists_isNearest_ofRatio (Int.natAbs_ne_zero.2 hn) hword (decide (n < 0))
    have hdouble : ofInt n = x := by
      rw [ofInt, hx, Option.getD_some]
    rw [hdouble, hvalue]
    rcases Int.lt_or_gt_of_ne hn with hneg | hpos
    · refine ⟨-v, ?_, by simp [hneg]⟩
      have hopposite : n = -(n.natAbs : Int) := by omega
      rw [hopposite]
      exact hnearest.neg
    · refine ⟨v, ?_, by simp [Int.not_lt.2 (Int.le_of_lt hpos)]⟩
      have hsame : n = (n.natAbs : Int) := by omega
      rw [hsame]
      exact hnearest

end Binary64
end Connector
