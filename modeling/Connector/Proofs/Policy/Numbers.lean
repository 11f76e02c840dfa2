import Connector.Policy.Evaluation
import Connector.Proofs.Decimal.Nearest

/-!
# Whole numbers in policies

Numbers are compared as doubles, whole ones too.  So a comparison of two whole numbers tells how the
numbers nearest to them compare: it is the comparison of the numbers themselves as long as these are
the same or are not rounded to the same double, and in any case a number that is told to be greater
is greater.  From two to the power of 53 on neighbours are told to be equal.  Statements:

* `holds_num_iff` — an operator on two numbers compares the values of their doubles;
* `compares_nearest` — an operator on two whole numbers, and on a list of them;
* `eq_of_neighbours` — two numbers that are equal for every operator.
-/

namespace Connector

/-- A whole number fits 64 bits, with a sign or without one. -/
def IsWord (n : Int) : Prop := -2 ^ 63 ≤ n ∧ n < 2 ^ 64

instance (n : Int) : Decidable (IsWord n) := inferInstanceAs (Decidable (_ ∧ _))

theorem IsWord.natAbs_lt {n : Int} (h : IsWord n) : n.natAbs < 2 ^ 64 := by
  unfold IsWord at h
  omega

namespace Operator

/-- What an operator says of two numbers; of a single number beside it `isIn` says nothing. -/
def Relates {α : Type} [LT α] [LE α] (op : Operator) (a b : α) : Prop :=
  match op with
  | eq => a = b
  | neq => a ≠ b
  | gt => b < a
  | geq => b ≤ a
  | lt => a < b
  | leq => a ≤ b
  | isIn => False

/-- An operator on two numbers compares the values of their doubles. -/
theorem holds_num_iff (op : Operator) (x y : JsonNumber) :
    op.holds (.num x) (.num y) = true ↔ op.Relates x.toBinary64.value y.toBinary64.value := by
  have hequal : (Json.num x).equalValue (.num y) = true ↔
      x.toBinary64.value = y.toBinary64.value := by
    rw [← Binary64.compare_eq_eq_iff]
    exact beq_iff_eq
  have hcompared : (Json.num x).compareValue (.num y) =
      some (x.toBinary64.compare y.toBinary64) := rfl
  cases op with
  | eq => exact hequal
  | neq => simp only [holds, Relates, Bool.not_eq_true', ne_eq, ← hequal, Bool.not_eq_true]
  | gt => simp only [holds, Relates, hcompared, beq_iff_eq, Option.some.injEq,
      Binary64.compare_eq_gt_iff]
  | geq => simp only [holds, Relates, hcompared, Option.any_some, Ordering.isGE_iff_ne_lt,
      Binary64.compare_eq_lt_iff, not_lt]
  | lt => simp only [holds, Relates, hcompared, beq_iff_eq, Option.some.injEq,
      Binary64.compare_eq_lt_iff]
  | leq => simp only [holds, Relates, hcompared, Option.any_some, Ordering.isLE_iff_ne_gt,
      Binary64.compare_eq_gt_iff, not_lt]
  | isIn => simp [holds, Relates]

/-- Numbers that stand in the same order stand in the same relations. -/
theorem relates_congr {α β : Type} [LinearOrder α] [LinearOrder β] {a b : α} {c d : β}
    (hlt : a < b ↔ c < d) (hgt : b < a ↔ d < c) (op : Operator) :
    op.Relates a b ↔ op.Relates c d := by
  have heq : a = b ↔ c = d := by
    rw [le_antisymm_iff, le_antisymm_iff, ← not_lt, ← not_lt, ← not_lt, ← not_lt, hlt, hgt]
  cases op with
  | eq => exact heq
  | neq => exact not_congr heq
  | gt => exact hgt
  | geq => exact not_lt.symm.trans ((not_congr hlt).trans not_lt)
  | lt => exact hlt
  | leq => exact not_lt.symm.trans ((not_congr hgt).trans not_lt)
  | isIn => exact Iff.rfl

/-- An operator on two whole numbers compares the numbers nearest to them. -/
theorem holds_int_iff {a b u v : Int} (ha : (Binary64.ofInt a).value = u)
    (hb : (Binary64.ofInt b).value = v) (op : Operator) :
    op.holds (.int a) (.int b) = true ↔ op.Relates u v := by
  have hvalues : (JsonNumber.whole a).toBinary64.value = u ∧
      (JsonNumber.whole b).toBinary64.value = v := ⟨ha, hb⟩
  rw [Json.int, Json.int, holds_num_iff, hvalues.1, hvalues.2]
  exact relates_congr Int.cast_lt Int.cast_lt op

/-- A list of whole numbers holds a number for `isIn` if one of them has the same nearest number. -/
theorem isIn_holds_iff {a u : Int} (hu : (Binary64.ofInt a).value = u) {items : List Int}
    (hitems : ∀ x ∈ items, IsWord x) :
    isIn.holds (.int a) (.arr (items.map .int)) = true ↔ ∃ x ∈ items, Binary64.IsNearest x u := by
  have heach : ∀ x ∈ items,
      ((Json.int a).equalValue (.int x) = true ↔ Binary64.IsNearest x u) := by
    intro x hx
    obtain ⟨w, hnearest, hw⟩ := Binary64.exists_isNearest_ofInt (hitems x hx).natAbs_lt
    have heq : (Json.int a).equalValue (.int x) = true ↔ u = w := holds_int_iff hu hw eq
    rw [heq]
    constructor
    · rintro rfl
      exact hnearest
    · exact fun h => h.unique hnearest
  simp only [holds, List.any_map, List.any_eq_true, Function.comp_apply]
  exact exists_congr fun x => and_congr_right fun hx => heach x hx

/-- **Whole numbers are compared as the doubles nearest to them.**  Let two whole numbers of 64 bits
be given, with a sign or without one, and the numbers nearest to them that 53 binary digits hold.
Then every operator tells how the nearest numbers stand, and a list holds the first number for it
if a member of it has the same nearest number.  So an operator tells how the numbers themselves
stand if these are the same or have different nearest numbers; and that is so if both have at most
53 digits, trailing zeros apart, or if one of them lies below two to the power of 53. -/
theorem compares_nearest {a b : Int} (ha : IsWord a) (hb : IsWord b) :
    ∃ u v : Int, Binary64.IsNearest a u ∧ Binary64.IsNearest b v ∧
      (∀ op : Operator, op.holds (.int a) (.int b) = true ↔ op.Relates u v) ∧
      (a = b ∨ u ≠ v → ∀ op : Operator, op.holds (.int a) (.int b) = true ↔ op.Relates a b) ∧
      (Binary64.IsShort a ∧ Binary64.IsShort b ∨ a.natAbs < 2 ^ 53 ∨ b.natAbs < 2 ^ 53 →
        a = b ∨ u ≠ v) ∧
      ∀ items : List Int, (∀ x ∈ items, IsWord x) →
        (isIn.holds (.int a) (.arr (items.map .int)) = true ↔
          ∃ x ∈ items, Binary64.IsNearest x u) ∧
        (a.natAbs < 2 ^ 53 →
          (isIn.holds (.int a) (.arr (items.map .int)) = true ↔ a ∈ items)) := by
  obtain ⟨u, hu, hua⟩ := Binary64.exists_isNearest_ofInt ha.natAbs_lt
  obtain ⟨v, hv, hvb⟩ := Binary64.exists_isNearest_ofInt hb.natAbs_lt
  refine ⟨u, v, hu, hv, holds_int_iff hua hvb, ?_, ?_, ?_⟩
  · intro hapart op
    have hapart' : b = a ∨ v ≠ u := hapart.imp Eq.symm Ne.symm
    exact (holds_int_iff hua hvb op).trans
      (relates_congr (hu.lt_iff hv hapart) (hv.lt_iff hu hapart') op)
  · rintro (⟨hshort, hshort'⟩ | hsmall | hsmall)
    · rw [hu.eq_of_isShort hshort, hv.eq_of_isShort hshort']
      exact em (a = b)
    · rw [ne_eq, hu.eq_iff hv hsmall]
      exact em (a = b)
    · rw [ne_eq, eq_comm (a := u), hv.eq_iff hu hsmall, eq_comm (a := b)]
      exact em (a = b)
  · intro items hitems
    refine ⟨isIn_holds_iff hua hitems, fun hsmall => (isIn_holds_iff hua hitems).trans ?_⟩
    have hself : ∀ x ∈ items, (Binary64.IsNearest x u ↔ a = x) := by
      intro x hx
      constructor
      · exact fun h => (hu.eq_iff h hsmall).1 rfl
      · rintro rfl
        exact hu
    constructor
    · rintro ⟨x, hx, hnearest⟩
      rwa [(hself x hx).1 hnearest]
    · exact fun hmem => ⟨a, hmem, hu⟩

/-- The number before two to the power of 53 is told apart from that power, and from the number
behind it, which is rounded to the power. -/
theorem compares_nearest_of_power :
    IsWord 9007199254740992 ∧ IsWord 9007199254740991 ∧
      (∀ op : Operator, op.holds (.int 9007199254740992) (.int 9007199254740991) = true ↔
        op.Relates (9007199254740992 : Int) 9007199254740991) ∧
      isIn.holds (.int 9007199254740991)
        (.arr ([9007199254740992, 9007199254740993].map .int)) = false := by
  have ha : IsWord 9007199254740992 := by decide
  have hb : IsWord 9007199254740991 := by decide
  obtain ⟨u, v, -, -, -, hexact, hapart, -⟩ := compares_nearest ha hb
  obtain ⟨_, _, -, -, -, -, -, hlists⟩ := compares_nearest hb ha
  have hitems : ∀ x ∈ [9007199254740992, 9007199254740993], IsWord x := by decide
  refine ⟨ha, hb, hexact (hapart (Or.inr (Or.inr (by decide)))), ?_⟩
  have hmember := (hlists _ hitems).2 (by decide)
  exact Bool.eq_false_iff.2 fun h => absurd (hmember.1 h) (by decide)

/-- **Neighbours are told to be equal.**  Of two to the power of 53 and the number behind it every
operator says what it says of a number and itself. -/
theorem eq_of_neighbours :
    IsWord 9007199254740993 ∧ IsWord 9007199254740992 ∧
      eq.holds (.int 9007199254740993) (.int 9007199254740992) = true ∧
      neq.holds (.int 9007199254740993) (.int 9007199254740992) = false ∧
      gt.holds (.int 9007199254740993) (.int 9007199254740992) = false ∧
      leq.holds (.int 9007199254740993) (.int 9007199254740992) = true ∧
      isIn.holds (.int 9007199254740993) (.arr [.int 9007199254740992]) = true := by
  decide

end Operator
end Connector
