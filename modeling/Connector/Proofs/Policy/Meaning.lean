import Connector.Policy.Evaluation
import Mathlib.Data.List.Perm.Basic
import Mathlib.Data.Fin.Basic

/-!
# What a constraint means

The evaluation of a constraint counts the members of a combination that hold.  Here the condition
is said outright: a comparison needs an attribute that is there and compares with the value, and a
combination asks for all, any or exactly one of its members, which are told apart by their places.
Constraints nest without bound, so what is said of one is proved along its members
(`induction_members`).  Statements:

* `isWellFormed_iff` — well formed is: every part, at any depth, is sound;
* `holds_iff` — a constraint holds exactly if its condition is met.
-/

namespace Connector
namespace Constraint

/-- The constraints that a combination is made of; a comparison has none. -/
def members : Constraint → List Constraint
  | .atomic _ _ _ => []
  | .all items | .any items | .one items => items

theorem sizeOf_lt_of_mem_members {c m : Constraint} (h : m ∈ c.members) : sizeOf m < sizeOf c := by
  cases c with
  | atomic name op value => exact absurd h List.not_mem_nil
  | all items | any items | one items =>
      have hlt := List.sizeOf_lt_of_mem h
      simp only [members, all.sizeOf_spec, any.sizeOf_spec, one.sizeOf_spec] at hlt ⊢
      omega

/-- What passes from the members of a constraint to the constraint holds of every constraint. -/
theorem induction_members {P : Constraint → Prop}
    (step : ∀ c, (∀ m ∈ c.members, P m) → P c) (c : Constraint) : P c :=
  step c fun m _ => induction_members step m
termination_by sizeOf c
decreasing_by exact sizeOf_lt_of_mem_members ‹_›

/-- A constraint within another, at any depth; each is within itself. -/
inductive Within (part : Constraint) : Constraint → Prop where
  | refl : Within part part
  | inside {c whole : Constraint} : Within part c → c ∈ whole.members → Within part whole

/-- A comparison names an attribute, and a combination combines something. -/
def IsSound : Constraint → Prop
  | .atomic name _ _ => Text.isBlankText name = false
  | .all items | .any items | .one items => items ≠ []

/-- The parts of a constraint are the constraint itself and the parts of its members. -/
theorem within_iff {part whole : Constraint} :
    part.Within whole ↔ part = whole ∨ ∃ c ∈ whole.members, part.Within c := by
  constructor
  · intro h
    cases h with
    | refl => exact Or.inl rfl
    | inside hc hmem => exact Or.inr ⟨_, hmem, hc⟩
  · rintro (rfl | ⟨c, hmem, hc⟩)
    · exact .refl
    · exact .inside hc hmem

/-- One level of well-formedness. -/
theorem isWellFormed_iff_members (c : Constraint) :
    c.isWellFormed = true ↔ c.IsSound ∧ ∀ m ∈ c.members, m.isWellFormed = true := by
  cases c with
  | atomic name op value => simp [isWellFormed, IsSound, members]
  | all items | any items | one items =>
      simp [isWellFormed, areWellFormed_eq_all, IsSound, members]

/-- Well formed is: every part, at any depth, is sound. -/
theorem isWellFormed_iff (c : Constraint) :
    c.isWellFormed = true ↔ ∀ part : Constraint, part.Within c → part.IsSound := by
  induction c using induction_members with
  | step c ih =>
      rw [isWellFormed_iff_members]
      constructor
      · rintro ⟨hsound, hmembers⟩ part hpart
        rcases within_iff.1 hpart with rfl | ⟨m, hm, hpart⟩
        · exact hsound
        · exact (ih m hm).1 (hmembers m hm) part hpart
      · intro h
        refine ⟨h c .refl, fun m hm => (ih m hm).2 fun part hpart => ?_⟩
        exact h part (.inside hpart hm)

/-- The condition of a constraint is met.  An attribute that is not there meets no comparison. -/
def IsMet (context : PolicyContext) : Constraint → Prop
  | .atomic name op value =>
      ∃ left, context.attribute? name = some left ∧ op.holds left value = true
  | .all items => ∀ i : Fin items.length, IsMet context items[i]
  | .any items => ∃ i : Fin items.length, IsMet context items[i]
  | .one items => ∃! i : Fin items.length, IsMet context items[i]
termination_by c => sizeOf c
decreasing_by
  all_goals
    have hlt := List.sizeOf_lt_of_mem (List.getElem_mem i.isLt)
    simp only [all.sizeOf_spec, any.sizeOf_spec, one.sizeOf_spec, Fin.getElem_fin]
    omega

/-- Exactly one element of a list has a property if exactly one place of the list has it. -/
theorem countP_eq_one_iff {α : Type} (p : α → Bool) (l : List α) :
    l.countP p = 1 ↔ ∃! i : Fin l.length, p l[i] = true := by
  induction l with
  | nil => simp [ExistsUnique]
  | cons a l ih =>
      rw [List.countP_cons]
      cases ha : p a with
      | false => simpa [ExistsUnique, Fin.exists_fin_succ, Fin.forall_fin_succ, ha] using ih
      | true =>
          have hnone : l.countP p = 0 ↔ ∀ i : Fin l.length, p l[i] = false := by
            rw [List.countP_eq_zero, List.forall_mem_iff_forall_getElem]
            exact ⟨fun h i => by simpa using h i i.isLt, fun h i hi => by simpa using h ⟨i, hi⟩⟩
          simp [ExistsUnique, Fin.exists_fin_succ, Fin.forall_fin_succ, ha, hnone,
            (Fin.succ_ne_zero _).symm]

/-- A constraint holds exactly if its condition is met. -/
theorem holds_iff (context : PolicyContext) (c : Constraint) :
    c.holds context = true ↔ c.IsMet context := by
  induction c using induction_members with
  | step c ih =>
      -- The members of a combination, by their places.
      have hplace : ∀ items : List Constraint, items = c.members → ∀ i : Fin items.length,
          items[i].holds context = true ↔ items[i].IsMet context :=
        fun items hitems i => ih _ (hitems ▸ List.getElem_mem i.isLt)
      cases c with
      | atomic name op value => simp [holds, IsMet, Option.any_eq_true]
      | all items =>
          rw [holds, IsMet, countHolding_eq_countP, beq_iff_eq, List.countP_eq_length,
            List.forall_mem_iff_forall_getElem]
          constructor
          · exact fun h i => (hplace items rfl i).1 (h i i.isLt)
          · exact fun h i hlt => (hplace items rfl ⟨i, hlt⟩).2 (h ⟨i, hlt⟩)
      | any items =>
          rw [holds, IsMet, countHolding_eq_countP, bne_iff_ne, ← Nat.pos_iff_ne_zero,
            List.countP_pos_iff]
          constructor
          · rintro ⟨m, hmem, hm⟩
            obtain ⟨i, hi, rfl⟩ := List.getElem_of_mem hmem
            exact ⟨⟨i, hi⟩, (hplace items rfl ⟨i, hi⟩).1 hm⟩
          · rintro ⟨i, hi⟩
            exact ⟨items[i], List.getElem_mem i.isLt, (hplace items rfl i).2 hi⟩
      | one items =>
          rw [holds, IsMet, countHolding_eq_countP, beq_iff_eq, countP_eq_one_iff]
          simp only [hplace items rfl]

end Constraint
end Connector
