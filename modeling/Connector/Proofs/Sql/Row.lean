import Connector.Proofs.Json.Reading
import Connector.Proofs.Time.Stamp
import Connector.Sql.Session

/-!
# Rows and their columns

What a column holds after a statement has written it, and what becomes of an instant on its way
into a column: it is cut to the microsecond, towards the year 2000.  Statements:

* `Row.value_put` — a column that is written holds what was written, the others what they held;
* `found_eq_filter` — which rows are found without an order;
* `toMicros_eq_self_iff` — exactly the whole microseconds are kept as they are;
* `inRange_toMicros` — an instant of the clock stays one;
* `le_toMicros_iff` — from the year 2000 on, cutting moves an instant past no whole microsecond.
-/

namespace Connector

namespace Sql

/-! ## Columns -/

@[simp] theorem Row.value_put (r : Row) (column other : String) (v : Value) :
    Row.value (Table.put column v r) other = if other = column then v else r.value other := by
  rw [Row.value, Table.get?_put]
  split
  · rfl
  · rfl

/-- The columns that are asked for read as those of the whole row. -/
theorem value_projected (columns : List String) (distinct : columns.Nodup) (r : Row) :
    ∀ c ∈ columns, (projected columns r).value c = r.value c := by
  intro c hc
  have hget := Table.get?_ofEntries (columns.map fun c => (c, r.value c))
    (by rwa [List.map_map, show Prod.fst ∘ (fun c => (c, r.value c)) = id from rfl, List.map_id])
    (c, r.value c) (List.mem_map.2 ⟨c, hc, rfl⟩)
  rw [Row.value, projected, hget]
  rfl

/-! ## Tables of a database -/

theorem rows_put (d : Database) (table : String) (rows : List Row) :
    Database.rows (Table.put table rows d) table = rows := by
  rw [Database.rows, Table.get?_put_self]
  rfl

/-- Without an order rows are found in the order in which they stand. -/
theorem found_eq_filter {s : Selection} (horder : s.order = []) (hlimit : s.limit = none)
    (d : Database) (params : List Value) :
    s.found d params =
      (d.rows s.table).filter fun r => s.condition.all fun c => c.holds ⟨r, params, []⟩ := by
  simp only [Selection.found, horder, hlimit]
  exact List.mergeSort_of_pairwise (List.pairwise_of_forall fun _ _ => rfl)

/-! ## Instants in microseconds -/

/-- What a column keeps as it is: whole microseconds. -/
theorem toMicros_eq_self_iff {t : Instant} : toMicros t = t ↔ t.nanos % 1000 = 0 := by
  obtain ⟨n⟩ := t
  simp only [toMicros, epoch, Instant.mk.injEq]
  constructor
  · intro h
    omega
  · intro h
    have hdvd : (1000 : Int) ∣ n - 946684800000000000 := by omega
    rw [Int.tdiv_mul_cancel hdvd]
    omega

/-- What is cut is whole. -/
theorem toMicros_toMicros (t : Instant) : toMicros (toMicros t) = toMicros t := by
  rw [toMicros_eq_self_iff]
  simp only [toMicros, epoch]
  omega

/-- Cutting an instant moves it towards the year 2000, if at all. -/
theorem toMicros_between (t : Instant) :
    (epoch ≤ (toMicros t).nanos ∧ (toMicros t).nanos ≤ t.nanos) ∨
      (t.nanos ≤ (toMicros t).nanos ∧ (toMicros t).nanos ≤ epoch) := by
  have hvalue : (toMicros t).nanos = (t.nanos - epoch).tdiv 1000 * 1000 + epoch := rfl
  by_cases hlate : epoch ≤ t.nanos
  · have hpos : (t.nanos - epoch).tdiv 1000 = (t.nanos - epoch) / 1000 :=
      Int.tdiv_eq_ediv_of_nonneg (by omega)
    omega
  · have hneg : (t.nanos - epoch).tdiv 1000 = -((epoch - t.nanos) / 1000) := by
      rw [← Int.neg_sub, Int.neg_tdiv, Int.tdiv_eq_ediv_of_nonneg (by omega)]
    omega

/-- An instant of the clock is cut to an instant of the clock. -/
theorem inRange_toMicros {t : Instant} (h : t.inRange = true) : (toMicros t).inRange = true := by
  have hfirst : Instant.first.nanos ≤ epoch := by decide
  have hlast : epoch ≤ Instant.last.nanos := by decide
  simp only [Instant.inRange, Bool.and_eq_true, decide_eq_true_eq] at h ⊢
  obtain ⟨hlow, hhigh⟩ : Instant.first.nanos ≤ t.nanos ∧ t.nanos ≤ Instant.last.nanos := h
  show Instant.first.nanos ≤ (toMicros t).nanos ∧ (toMicros t).nanos ≤ Instant.last.nanos
  rcases toMicros_between t with ⟨h1, h2⟩ | ⟨h1, h2⟩ <;> omega

/-- Cutting an instant moves it past no whole microsecond, if it is not before the year 2000. -/
theorem le_toMicros_iff {t now : Instant} (whole : toMicros t = t)
    (late : toMicros now = now ∨ epoch ≤ now.nanos) : t ≤ toMicros now ↔ t ≤ now := by
  rcases late with hnow | hnow
  · rw [hnow]
  · rw [toMicros_eq_self_iff] at whole
    show t.nanos ≤ (now.nanos - epoch).tdiv 1000 * 1000 + epoch ↔ t.nanos ≤ now.nanos
    rw [Int.tdiv_eq_ediv_of_nonneg (by omega), epoch]
    omega

/-! ## Conditions that hold -/

namespace Condition

variable {s : Scope} {a b : Expression}

theorem holds_group {roomy : Bool} {c : Condition} : (group roomy c).holds s = c.holds s := rfl

theorem holds_isNull : (isNull a).holds s = true ↔ s.eval a = .null := by
  simp only [holds, eval, beq_iff_eq]
  cases s.eval a <;> simp [Value.isNull]

theorem holds_isNotNull : (isNotNull a).holds s = true ↔ s.eval a ≠ .null := by
  simp only [holds, eval, beq_iff_eq]
  cases s.eval a <;> simp [Value.isNull]

theorem holds_isTrue : (isTrue a).holds s = true ↔ s.eval a = .truth true := by
  simp only [holds, eval, beq_iff_eq]
  cases s.eval a <;> simp [Value.toTruth]

/-- A value equals a text if it is that text; no value equals nothing. -/
theorem holds_equal_text {x : String} (hb : s.eval b = .text x) :
    (equal a b).holds s = true ↔ s.eval a = .text x := by
  simp only [holds, eval, hb, beq_iff_eq]
  cases s.eval a <;> simp [Value.equal]

theorem holds_equal_number {n : Int} (hb : s.eval b = .number n) :
    (equal a b).holds s = true ↔ s.eval a = .number n := by
  simp only [holds, eval, hb, beq_iff_eq]
  cases s.eval a <;> simp [Value.equal]

theorem holds_unequal_text {x y : String} (ha : s.eval a = .text x) (hb : s.eval b = .text y) :
    (unequal a b).holds s = true ↔ x ≠ y := by
  simp [holds, eval, ha, hb, Value.equal, Truth.not]

theorem holds_among {x : String} {texts : List String} (ha : s.eval a = .text x)
    (hb : s.eval b = .texts texts) : (among a b).holds s = true ↔ x ∈ texts := by
  simp [holds, eval, ha, hb, Value.among]

theorem holds_atMost_instant {t u : Instant} (ha : s.eval a = .instant t)
    (hb : s.eval b = .instant u) : (atMost a b).holds s = true ↔ t ≤ u := by
  simp only [holds, eval, ha, hb, Value.atMost, Value.order, Option.map_some, beq_iff_eq,
    Option.some.injEq]
  exact Int.isLE_compare

theorem holds_less_instant {t u : Instant} (ha : s.eval a = .instant t)
    (hb : s.eval b = .instant u) : (less a b).holds s = true ↔ t < u := by
  simp only [holds, eval, ha, hb, Value.below, Value.order, Option.map_some, beq_iff_eq,
    Option.some.injEq, Ordering.isLT_iff_eq_lt]
  exact Int.compare_eq_lt

end Condition

end Sql
end Connector
