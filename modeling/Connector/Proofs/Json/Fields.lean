import Connector.Json.Decode
import Mathlib.Data.List.Forall2

/-!
# What a document that reads as a record holds

A record is read out of an object or out of an array, by the name of a field or by its place.
Here both come to the same: a field of a document is what stands under its name or at its place,
and a record reads exactly if the document has room for it and each of its fields gives a value.
Statements:

* `Fields.gives_map`, `Fields.gives_seq`, `Fields.gives_required`, `Fields.gives_withDefault` —
  when fields give a value, one by one;
* `Fields.read_eq_ok_iff` — when a record reads, out of whatever document;
* `Decoder.items_eq_ok_iff`, `Decoder.list_eq_ok_iff` — a list reads if each item does.
-/

namespace Connector

namespace Json

/-- The field of a record: under its name in an object, at its place in an array. -/
def field? (name : String) (place : Nat) : Json → Option Json
  | .obj members => Table.get? name members
  | .arr items => items[place]?
  | _ => none

/-- A document with room for so many fields: an object, or an array that is no longer. -/
def IsRecord (width : Nat) : Json → Prop
  | .obj _ => True
  | .arr items => items.length ≤ width
  | _ => False

/-- Objects both, or arrays of one length. -/
def SameShape : Json → Json → Prop
  | .obj _, .obj _ => True
  | .arr xs, .arr ys => xs.length = ys.length
  | _, _ => False

theorem SameShape.symm {a b : Json} (h : a.SameShape b) : b.SameShape a := by
  cases a <;> cases b <;> simp_all [SameShape]

theorem SameShape.isRecord {a b : Json} {width : Nat} (h : a.SameShape b)
    (ha : a.IsRecord width) : b.IsRecord width := by
  cases a <;> cases b <;> simp_all [SameShape, IsRecord]

end Json

namespace Fields

variable {α β : Type} {aside : Bool} {record name : String} {start : Nat} {j : Json}

theorem both_eq_ok_iff {f : Except FieldFault (α → β)} {x : Except FieldFault α} {b : β} :
    both f x = .ok b ↔ ∃ g a, f = .ok g ∧ x = .ok a ∧ g a = b := by
  cases f <;> cases x <;> simp [both]

theorem within_eq_ok_iff {r : Except DecodeFault α} {a : α} :
    within name r = .ok a ↔ r = .ok a := by
  cases r <;> simp [within, Except.mapError]

/-- The fields give a value out of a document, from a place on if it is an array.  A document that
is no record is taken for one that has no field. -/
def Gives (fields : Fields α) (aside : Bool) (record : String) (start : Nat) (j : Json) (a : α) :
    Prop :=
  match j with
  | .arr items => fields.ofItems aside record start items = .ok a
  | .obj members => fields.ofMembers aside members = .ok a
  | _ => fields.ofMembers aside [] = .ok a

/-- What a field with a value of its own gives: what is read where there is something, and that
value elsewhere. -/
def GivesOr (value : α) (d : Decoder α) (aside : Bool) (a : α) : Option Json → Prop
  | some j => d aside j = .ok a
  | none => a = value

theorem width_map (f : α → β) (x : Fields α) : (f <$> x).width = x.width := Nat.zero_add _

theorem width_seq (f : Fields (α → β)) (x : Fields α) :
    (f <*> x).width = f.width + x.width := rfl

theorem width_required (name : String) (d : Decoder α) : (required name d).width = 1 := rfl

theorem width_withDefault (name : String) (value : α) (d : Decoder α) :
    (withDefault name value d).width = 1 := rfl

theorem gives_seq {f : Fields (α → β)} {x : Fields α} {b : β} :
    (f <*> x).Gives aside record start j b ↔
      ∃ g a, f.Gives aside record start j g ∧ x.Gives aside record (start + f.width) j a ∧
        g a = b := by
  cases j with
  | arr items =>
      show (do
        let g ← f.ofItems aside record start items
        let a ← x.ofItems aside record (start + f.width) items
        Except.ok (g a)) = _ ↔ ∃ g a, f.ofItems aside record start items = .ok g ∧
          x.ofItems aside record (start + f.width) items = .ok a ∧ g a = b
      cases f.ofItems aside record start items with
      | error e => simp [bind, Except.bind]
      | ok g => cases x.ofItems aside record (start + f.width) items <;> simp [bind, Except.bind]
  | obj members => exact both_eq_ok_iff
  | null | bool _ | num _ | str _ => exact both_eq_ok_iff

theorem gives_pure {a b : α} : (pure a : Fields α).Gives aside record start j b ↔ a = b := by
  cases j <;> exact ⟨Except.ok.inj, congrArg Except.ok⟩

theorem gives_map {f : α → β} {x : Fields α} {b : β} :
    (f <$> x).Gives aside record start j b ↔ ∃ a, x.Gives aside record start j a ∧ f a = b := by
  show (pure f <*> x : Fields β).Gives aside record start j b ↔ _
  rw [gives_seq]
  constructor
  · rintro ⟨g, a, hg, ha, rfl⟩
    obtain rfl := gives_pure.1 hg
    exact ⟨a, ha, rfl⟩
  · rintro ⟨a, ha, rfl⟩
    exact ⟨f, a, gives_pure.2 rfl, ha, rfl⟩

theorem gives_required {d : Decoder α} {a : α} :
    (required name d).Gives aside record start j a ↔
      ∃ v, j.field? name start = some v ∧ d aside v = .ok a := by
  cases j with
  | arr items =>
      simp only [Gives, required, Json.field?]
      cases items[start]? <;> simp
  | obj members =>
      simp only [Gives, required, Json.field?]
      cases Table.get? name members <;> simp [within_eq_ok_iff]
  | null | bool _ | num _ | str _ => simp [Gives, required, Json.field?, Table.get?]

theorem gives_withDefault {value : α} {d : Decoder α} {a : α} :
    (withDefault name value d).Gives aside record start j a ↔
      GivesOr value d aside a (j.field? name start) := by
  cases j with
  | arr items =>
      simp only [Gives, withDefault, Json.field?]
      cases items[start]? with
      | some v => exact Iff.rfl
      | none => simp [GivesOr, eq_comm]
  | obj members =>
      simp only [Gives, withDefault, Json.field?]
      cases Table.get? name members with
      | some v => exact within_eq_ok_iff
      | none => simp [GivesOr, eq_comm]
  | null | bool _ | num _ | str _ =>
      simp [Gives, withDefault, Json.field?, Table.get?, GivesOr, eq_comm]

/-- A record reads if the document has room for its fields and they give it. -/
theorem read_eq_ok_iff {fields : Fields α} {a : α} :
    read record fields aside j = .ok a ↔
      j.IsRecord fields.width ∧
        fields.Gives aside s!"{record} with {countText fields.width}" 0 j a := by
  cases j with
  | obj members =>
      simp only [read, Gives, Json.IsRecord]
      cases fields.ofMembers aside members <;> simp [Except.mapError]
  | arr items =>
      simp only [read, Gives, Json.IsRecord]
      cases fields.ofItems aside s!"{record} with {countText fields.width}" 0 items with
      | error e => simp [bind, Except.bind]
      | ok b =>
          by_cases hlong : fields.width < items.length
          · simp [bind, Except.bind, hlong, Nat.not_le.2 hlong]
          · simp [bind, Except.bind, hlong, Nat.not_lt.1 hlong]
  | null | bool _ | num _ | str _ => simp [read, Json.IsRecord]

end Fields

namespace Decoder

variable {α : Type} {d : Decoder α} {aside : Bool}

/-- Items read if each of them does. -/
theorem items_eq_ok_iff {js : List Json} {as : List α} :
    items d aside js = .ok as ↔ List.Forall₂ (fun j a => d aside j = .ok a) js as := by
  induction js generalizing as with
  | nil => cases as <;> simp [items]
  | cons j rest ih =>
      simp only [items]
      cases hj : d aside j with
      | error e => cases as <;> simp [bind, Except.bind, hj]
      | ok a =>
          cases hrest : items d aside rest with
          | error e =>
              have hnone : ∀ more, ¬ List.Forall₂ (fun j a => d aside j = .ok a) rest more :=
                fun more h => by simpa [hrest] using ih.2 h
              cases as <;> simp [bind, Except.bind, hj, hnone]
          | ok more =>
              have hmore : ∀ as, List.Forall₂ (fun j a => d aside j = .ok a) rest as ↔ more = as :=
                fun as => by rw [← ih, hrest]; simp
              cases as <;> simp [bind, Except.bind, hj, hmore]

/-- A list reads if it is an array each item of which reads. -/
theorem list_eq_ok_iff {j : Json} {as : List α} :
    list d aside j = .ok as ↔
      ∃ js, j = .arr js ∧ List.Forall₂ (fun j a => d aside j = .ok a) js as := by
  cases j <;> simp [list, items_eq_ok_iff]

end Decoder
end Connector
