import Connector.Config.Retry
import Mathlib.Algebra.Group.Nat.Defs
import Mathlib.Order.Monotone.Basic

/-!
# How long a retry waits

The wait after a failure is the base delay, doubled with every failure before it, up to the greatest
delay.  It is doubled thirty-one times at most, though: from there on the wait stays what it is, and
with a base delay that is short enough beside the greatest one it never gets that long.  Products
that no span can hold are cut off, but so far out that the greatest delay lies below.  Statements:

* `nanos_delay` — the wait as a number, without any cutting off;
* `delay_mono`, `delay_of_le` — it grows with the failures, and no more after thirty-one of them;
* `nanos_delay_eq_doubled_iff` — when it is the base delay doubled as often as there were failures;
* `delay_reaches_greatest_iff` — when it comes up to the greatest delay;
* `delay_curve` — all of this; `delay_levels_off` — a wait that stays short.
-/

namespace Connector
namespace RetryPolicy

variable {r : RetryPolicy}

/-- The wait as a number.  A product that is longer than every span is longer than the greatest
delay, so that cutting it off is never seen. -/
theorem nanos_delay (fits : r.maxDelay.nanos ≤ Span.longest.nanos) (n : Nat) :
    (r.delay n).nanos = min (r.baseDelay.nanos * 2 ^ min n 31) r.maxDelay.nanos := by
  show min (min (r.baseDelay.nanos * 2 ^ min n 31) Span.longest.nanos) r.maxDelay.nanos = _
  rw [Nat.min_assoc, Nat.min_eq_right fits]

/-- More failures, no shorter wait. -/
theorem delay_mono (fits : r.maxDelay.nanos ≤ Span.longest.nanos) :
    Monotone fun n => (r.delay n).nanos := by
  intro m n hmn
  show (r.delay m).nanos ≤ (r.delay n).nanos
  rw [nanos_delay fits, nanos_delay fits]
  have hexponent : min m 31 ≤ min n 31 := by omega
  have hpower : 2 ^ min m 31 ≤ 2 ^ min n 31 := Nat.pow_le_pow_right (by decide) hexponent
  have hproduct := Nat.mul_le_mul_left r.baseDelay.nanos hpower
  omega

/-- After thirty-one failures the wait stays the same. -/
theorem delay_of_le {n : Nat} (h : 31 ≤ n) : r.delay n = r.delay 31 := by
  unfold delay
  rw [Nat.min_eq_right h, Nat.min_self]

/-- The wait is the base delay doubled with every failure, up to the greatest delay, exactly for
thirty-one failures at most, or if there is nothing to double, or if thirty-one doublings come up to
the greatest delay. -/
theorem nanos_delay_eq_doubled_iff (fits : r.maxDelay.nanos ≤ Span.longest.nanos) (n : Nat) :
    (r.delay n).nanos = min (r.baseDelay.nanos * 2 ^ n) r.maxDelay.nanos ↔
      n ≤ 31 ∨ r.baseDelay.nanos = 0 ∨ r.maxDelay.nanos ≤ r.baseDelay.nanos * 2 ^ 31 := by
  rw [nanos_delay fits]
  rcases Nat.lt_or_ge 31 n with hlt | hle
  · rw [Nat.min_eq_right (Nat.le_of_lt hlt)]
    -- One more doubling than the thirty-one there are.
    have hpower : 2 ^ 32 ≤ 2 ^ n := Nat.pow_le_pow_right (by decide) hlt
    have hproduct := Nat.mul_le_mul_left r.baseDelay.nanos hpower
    constructor
    · intro heq
      omega
    · rintro (hfew | hzero | hlong)
      · exact absurd hfew (Nat.not_le.2 hlt)
      · rw [hzero, Nat.zero_mul, Nat.zero_mul]
      · rw [Nat.min_eq_right hlong, Nat.min_eq_right (by omega)]
  · rw [Nat.min_eq_left hle]
    exact ⟨fun _ => Or.inl hle, fun _ => rfl⟩

/-- The wait comes up to the greatest delay, and stays there, exactly if thirty-one doublings of the
base delay do. -/
theorem delay_reaches_greatest_iff (fits : r.maxDelay.nanos ≤ Span.longest.nanos) :
    (∃ m, ∀ n, m ≤ n → r.delay n = r.maxDelay) ↔
      r.maxDelay.nanos ≤ r.baseDelay.nanos * 2 ^ 31 := by
  have hlast : (r.delay 31).nanos = min (r.baseDelay.nanos * 2 ^ 31) r.maxDelay.nanos :=
    nanos_delay fits 31
  constructor
  · rintro ⟨m, hm⟩
    have hreached : r.delay 31 = r.maxDelay := by
      rw [← delay_of_le (Nat.le_max_right m 31)]
      exact hm _ (Nat.le_max_left m 31)
    rw [hreached] at hlast
    omega
  · intro h
    refine ⟨31, fun n hn => ?_⟩
    rw [delay_of_le hn]
    have hnanos : (r.delay 31).nanos = r.maxDelay.nanos := by omega
    exact congrArg Span.mk hnanos

/-- **The curve of the waits.**  For every policy and every number of failures the wait is the base
delay times two to the power of that number, or of thirty-one if there were more failures, up to the
greatest delay, computed without any bound.  So it is the base delay doubled with every failure, up
to the greatest delay, exactly in the three cases named; it never falls, never exceeds the greatest
delay, and comes up to it exactly if thirty-one doublings do. -/
theorem delay_curve (r : RetryPolicy) (fits : r.maxDelay.nanos ≤ Span.longest.nanos) :
    (∀ n, (r.delay n).nanos = min (r.baseDelay.nanos * 2 ^ min n 31) r.maxDelay.nanos) ∧
    (∀ n, (r.delay n).nanos = min (r.baseDelay.nanos * 2 ^ n) r.maxDelay.nanos ↔
      n ≤ 31 ∨ r.baseDelay.nanos = 0 ∨ r.maxDelay.nanos ≤ r.baseDelay.nanos * 2 ^ 31) ∧
    (Monotone fun n => (r.delay n).nanos) ∧
    (∀ n, (r.delay n).nanos ≤ r.maxDelay.nanos) ∧
    ((∃ m, ∀ n, m ≤ n → r.delay n = r.maxDelay) ↔
      r.maxDelay.nanos ≤ r.baseDelay.nanos * 2 ^ 31) :=
  ⟨nanos_delay fits, nanos_delay_eq_doubled_iff fits, delay_mono fits, r.delay_le_greatest,
    delay_reaches_greatest_iff fits⟩

/-- From one second on, and five seconds at most: after three failures the wait is the greatest. -/
theorem delay_curve_of_five_seconds :
    let r : RetryPolicy := ⟨3, .seconds 1, .seconds 5⟩
    r.maxDelay.nanos ≤ Span.longest.nanos ∧
      (∀ n, (r.delay n).nanos = min (1000000000 * 2 ^ n) 5000000000) ∧
      ∃ m, ∀ n, m ≤ n → r.delay n = .seconds 5 := by
  intro r
  have fits : r.maxDelay.nanos ≤ Span.longest.nanos := by decide
  obtain ⟨-, hdoubled, -, -, hreaches⟩ := delay_curve r fits
  have hlong : r.maxDelay.nanos ≤ r.baseDelay.nanos * 2 ^ 31 := by decide
  exact ⟨fits, fun n => (hdoubled n).2 (Or.inr (Or.inr hlong)), hreaches.2 hlong⟩

/-- **The wait levels off.**  From a millisecond on, and a year at most: the wait after thirty-two
failures is not the base delay times two to the power of thirty-two, though that is less than a
year, and no number of failures makes it a year. -/
theorem delay_levels_off :
    let r : RetryPolicy := ⟨100, .millis 1, .seconds 31557600⟩
    (r.delay 32).nanos ≠ min (r.baseDelay.nanos * 2 ^ 32) r.maxDelay.nanos ∧
      0 < r.baseDelay.nanos ∧ ∀ n, (r.delay n).nanos < r.maxDelay.nanos := by
  intro r
  have fits : r.maxDelay.nanos ≤ Span.longest.nanos := by decide
  refine ⟨by decide, by decide, fun n => ?_⟩
  have hlast : (r.delay 31).nanos < r.maxDelay.nanos := by decide
  have hgrown : (r.delay n).nanos ≤ (r.delay (max n 31)).nanos :=
    delay_mono fits (Nat.le_max_left n 31)
  rw [delay_of_le (Nat.le_max_right n 31)] at hgrown
  omega

end RetryPolicy
end Connector
