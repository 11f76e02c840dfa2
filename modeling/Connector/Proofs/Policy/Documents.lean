import Connector.Policy.Codec
import Connector.Proofs.Json.Fields
import Mathlib.Data.List.Perm.Basic

/-!
# Policy documents in another order

A document of a policy holds three lists of rules, and a document of a rule a list of constraints.
One document is another rearranged if the lists of rules are permuted, and within the rules the
lists of constraints (`Policy.Rearranged`).  Whether a document reads does not depend on the order
of a list, and two documents of which one is the other rearranged read as policies with the same
rules up to the order of their constraints (`Policy.Alike`).  Statements:

* `Rule.decoder_eq_ok_iff`, `Policy.decoder_eq_ok_iff` — when the documents read, field by field;
* `givesOr_of_reorders` — a list in another order reads, and as values that match;
* `Policy.decoder_of_rearranged` — a policy rearranged reads as an alike one.
-/

namespace Connector

section Lists

variable {α β : Type} {R : α → β → Prop} {as : List α} {bs : List β}

/-- Of two lists matched one by one, an element of the first has a match in the second. -/
theorem exists_of_forall₂_left (h : List.Forall₂ R as bs) : ∀ a ∈ as, ∃ b ∈ bs, R a b := by
  induction h with
  | nil => exact fun a ha => absurd ha List.not_mem_nil
  | cons hab _ ih =>
      intro a ha
      rcases List.mem_cons.1 ha with rfl | ha
      · exact ⟨_, List.mem_cons_self, hab⟩
      · obtain ⟨b, hb, hR⟩ := ih a ha
        exact ⟨b, List.mem_cons_of_mem _ hb, hR⟩

/-- Of two lists matched one by one, an element of the second has a match in the first. -/
theorem exists_of_forall₂_right (h : List.Forall₂ R as bs) : ∀ b ∈ bs, ∃ a ∈ as, R a b :=
  exists_of_forall₂_left h.flip

/-- A list has a list that matches it one by one if each of its elements has a match. -/
theorem exists_forall₂ (h : ∀ a ∈ as, ∃ b, R a b) : ∃ bs, List.Forall₂ R as bs := by
  induction as with
  | nil => exact ⟨[], .nil⟩
  | cons a rest ih =>
      obtain ⟨b, hb⟩ := h a List.mem_cons_self
      obtain ⟨bs, hbs⟩ := ih fun a ha => h a (List.mem_cons_of_mem _ ha)
      exact ⟨b :: bs, .cons hb hbs⟩

/-- Each element of one list has a match in the other, either way. -/
def Correspond (R : α → β → Prop) (as : List α) (bs : List β) : Prop :=
  (∀ a ∈ as, ∃ b ∈ bs, R a b) ∧ ∀ b ∈ bs, ∃ a ∈ as, R a b

end Lists

/-- A field of two records: the same in both, or a list in both, the items of the one being in
another order those of the other, up to a relation. -/
inductive Json.Reorders (alike : Json → Json → Prop) : Option Json → Option Json → Prop where
  | same (f : Option Json) : Reorders alike f f
  | moved {xs ys zs : List Json} : xs.Perm zs → List.Forall₂ alike zs ys →
      Reorders alike (some (.arr xs)) (some (.arr ys))

theorem Json.Reorders.symm {alike : Json → Json → Prop} (halike : ∀ x y, alike x y → alike y x)
    {f g : Option Json} (h : Reorders alike f g) : Reorders alike g f := by
  cases h with
  | same => exact .same f
  | @moved xs ys zs hperm hmatch =>
      have hback : List.Forall₂ alike ys zs := (hmatch.imp fun x y => halike x y).flip
      have hcomp : Relation.Comp (List.Forall₂ alike) List.Perm ys xs := ⟨zs, hback, hperm.symm⟩
      rw [List.forall₂_comp_perm_eq_perm_comp_forall₂] at hcomp
      obtain ⟨ws, hys, hws⟩ := hcomp
      exact .moved hys hws

/-- A list in another order reads too, if items that are alike read as values that match, and its
values match those of the list. -/
theorem givesOr_of_reorders {α : Type} {d : Decoder α} {aside : Bool}
    {alike : Json → Json → Prop} {R : α → α → Prop} (hrefl : ∀ a, R a a)
    (hreads : ∀ x y a, alike x y → d aside x = .ok a → ∃ b, d aside y = .ok b ∧ R a b)
    {f g : Option Json} (h : Json.Reorders alike f g) {as : List α}
    (hf : Fields.GivesOr [] (Decoder.list d) aside as f) :
    ∃ bs, Fields.GivesOr [] (Decoder.list d) aside bs g ∧ Correspond R as bs := by
  cases h with
  | same f => exact ⟨as, hf, fun a ha => ⟨a, ha, hrefl a⟩, fun a ha => ⟨a, ha, hrefl a⟩⟩
  | @moved xs ys zs hperm hmatch =>
      obtain ⟨js, hjs, hxs⟩ := Decoder.list_eq_ok_iff.1 hf
      obtain rfl : xs = js := Json.arr.inj hjs
      -- An item of either list is alike one of the other, so it reads as a value that matches.
      have hto : ∀ a ∈ as, ∃ y ∈ ys, ∃ b, d aside y = .ok b ∧ R a b := by
        intro a ha
        obtain ⟨x, hx, hxa⟩ := exists_of_forall₂_right hxs a ha
        obtain ⟨y, hy, hxy⟩ := exists_of_forall₂_left hmatch x (hperm.mem_iff.1 hx)
        exact ⟨y, hy, hreads x y a hxy hxa⟩
      have hfrom : ∀ y ∈ ys, ∃ a ∈ as, ∃ b, d aside y = .ok b ∧ R a b := by
        intro y hy
        obtain ⟨x, hx, hxy⟩ := exists_of_forall₂_right hmatch y hy
        obtain ⟨a, ha, hxa⟩ := exists_of_forall₂_left hxs x (hperm.mem_iff.2 hx)
        exact ⟨a, ha, hreads x y a hxy hxa⟩
      obtain ⟨bs, hys⟩ : ∃ bs, List.Forall₂ (fun j b => d aside j = .ok b) ys bs :=
        exists_forall₂ fun y hy => by
          obtain ⟨_, _, b, hb, -⟩ := hfrom y hy
          exact ⟨b, hb⟩
      refine ⟨bs, Decoder.list_eq_ok_iff.2 ⟨ys, rfl, hys⟩, fun a ha => ?_, fun b hb => ?_⟩
      · obtain ⟨y, hy, b, hyb, hab⟩ := hto a ha
        obtain ⟨b', hb', hyb'⟩ := exists_of_forall₂_left hys y hy
        obtain rfl : b = b' := Except.ok.inj (hyb.symm.trans hyb')
        exact ⟨b, hb', hab⟩
      · obtain ⟨y, hy, hyb⟩ := exists_of_forall₂_right hys b hb
        obtain ⟨a, ha, b', hyb', hab⟩ := hfrom y hy
        obtain rfl : b' = b := Except.ok.inj (hyb'.symm.trans hyb)
        exact ⟨a, ha, hab⟩

namespace Rule

/-- When a document reads as a rule: its action is a string, and it has no constraints or a list
of them. -/
theorem decoder_eq_ok_iff {aside : Bool} {j : Json} {r : Rule} :
    decoder aside j = .ok r ↔
      j.IsRecord 2 ∧
      (∃ a, j.field? "action" 0 = some a ∧ Decoder.string aside a = .ok r.action) ∧
      Fields.GivesOr [] (Decoder.list Constraint.decoder) aside r.constraints
        (j.field? "constraints" 1) := by
  rw [decoder, Decoder.record, Fields.read_eq_ok_iff]
  simp only [Fields.gives_seq, Fields.gives_map, Fields.gives_required, Fields.gives_withDefault,
    Fields.width_seq, Fields.width_map, Fields.width_required, Fields.width_withDefault]
  constructor
  · rintro ⟨hj, _, constraints, ⟨action, haction, rfl⟩, hconstraints, rfl⟩
    exact ⟨hj, haction, hconstraints⟩
  · rintro ⟨hj, haction, hconstraints⟩
    exact ⟨hj, _, r.constraints, ⟨r.action, haction, rfl⟩, hconstraints, rfl⟩

/-- A document of a rule with its constraints in another order. -/
def Rearranged (x y : Json) : Prop :=
  x = y ∨ x.SameShape y ∧ x.field? "action" 0 = y.field? "action" 0 ∧
    Json.Reorders Eq (x.field? "constraints" 1) (y.field? "constraints" 1)

theorem Rearranged.symm {x y : Json} (h : Rearranged x y) : Rearranged y x := by
  rcases h with rfl | ⟨hshape, haction, hconstraints⟩
  · exact Or.inl rfl
  · exact Or.inr ⟨hshape.symm, haction.symm, hconstraints.symm fun _ _ => Eq.symm⟩

/-- Rules about one action under the same constraints. -/
def Alike (r s : Rule) : Prop := r.action = s.action ∧ ∀ c, c ∈ r.constraints ↔ c ∈ s.constraints

/-- A rule in another order reads as an alike one. -/
theorem decoder_of_rearranged {aside : Bool} {x y : Json} {r : Rule} (h : Rearranged x y)
    (hx : decoder aside x = .ok r) : ∃ s, decoder aside y = .ok s ∧ r.Alike s := by
  rcases h with rfl | ⟨hshape, haction, hconstraints⟩
  · exact ⟨r, hx, rfl, fun _ => Iff.rfl⟩
  · obtain ⟨hrecord, hr, hcs⟩ := decoder_eq_ok_iff.1 hx
    obtain ⟨cs, hcs, hto, hfrom⟩ := givesOr_of_reorders (R := Eq) (fun _ => rfl)
      (fun j _ c hj hc => ⟨c, hj ▸ hc, rfl⟩) hconstraints hcs
    refine ⟨⟨r.action, cs⟩, decoder_eq_ok_iff.2 ⟨hshape.isRecord hrecord, haction ▸ hr, hcs⟩, rfl,
      fun c => ⟨fun hc => ?_, fun hc => ?_⟩⟩
    · obtain ⟨_, hmem, rfl⟩ := hto c hc
      exact hmem
    · obtain ⟨_, hmem, rfl⟩ := hfrom c hc
      exact hmem

end Rule

namespace Policy

/-- A comparison of an attribute with a text, as a document. -/
def comparison (name value : String) : Json :=
  .obj [("leftOperand", .str name), ("operator", .str "eq"), ("rightOperand", .str value)]

/-- A document with one permission for everything, under some constraints. -/
def permitting (constraints : List Json) : Json :=
  .obj [("permissions",
    .arr [.obj [("action", .str "use"), ("constraints", .arr constraints)]])]

/-- When a document reads as a policy: each list of rules is absent or a list. -/
theorem decoder_eq_ok_iff {aside : Bool} {j : Json} {p : Policy} :
    decoder aside j = .ok p ↔
      j.IsRecord 3 ∧
      Fields.GivesOr [] (Decoder.list Rule.decoder) aside p.permissions
        (j.field? "permissions" 0) ∧
      Fields.GivesOr [] (Decoder.list Rule.decoder) aside p.prohibitions
        (j.field? "prohibitions" 1) ∧
      Fields.GivesOr [] (Decoder.list Rule.decoder) aside p.obligations
        (j.field? "obligations" 2) := by
  rw [decoder, Decoder.record, Fields.read_eq_ok_iff]
  simp only [Fields.gives_seq, Fields.gives_map, Fields.gives_withDefault, Fields.width_seq,
    Fields.width_map, Fields.width_withDefault]
  constructor
  · rintro ⟨hj, _, obligations, ⟨_, prohibitions, ⟨permissions, h₁, rfl⟩, h₂, rfl⟩, h₃, rfl⟩
    exact ⟨hj, h₁, h₂, h₃⟩
  · rintro ⟨hj, h₁, h₂, h₃⟩
    exact ⟨hj, _, p.obligations, ⟨_, p.prohibitions, ⟨p.permissions, h₁, rfl⟩, h₂, rfl⟩, h₃, rfl⟩

/-- A document of a policy with each of its lists of rules in another order, and within the rules
the constraints. -/
structure Rearranged (x y : Json) : Prop where
  shape : x.SameShape y
  permissions : Json.Reorders Rule.Rearranged (x.field? "permissions" 0) (y.field? "permissions" 0)
  prohibitions :
    Json.Reorders Rule.Rearranged (x.field? "prohibitions" 1) (y.field? "prohibitions" 1)
  obligations : Json.Reorders Rule.Rearranged (x.field? "obligations" 2) (y.field? "obligations" 2)

theorem Rearranged.symm {x y : Json} (h : Rearranged x y) : Rearranged y x :=
  ⟨h.shape.symm, h.permissions.symm fun _ _ => .symm, h.prohibitions.symm fun _ _ => .symm,
    h.obligations.symm fun _ _ => .symm⟩

/-- Policies whose lists hold alike rules. -/
structure Alike (p q : Policy) : Prop where
  permissions : Correspond Rule.Alike p.permissions q.permissions
  prohibitions : Correspond Rule.Alike p.prohibitions q.prohibitions
  obligations : Correspond Rule.Alike p.obligations q.obligations

/-- A policy rearranged reads as an alike one. -/
theorem decoder_of_rearranged {aside : Bool} {x y : Json} {p : Policy} (h : Rearranged x y)
    (hx : decoder aside x = .ok p) : ∃ q, decoder aside y = .ok q ∧ p.Alike q := by
  have hrefl : ∀ r : Rule, r.Alike r := fun r => ⟨rfl, fun _ => Iff.rfl⟩
  have hreads : ∀ x y r, Rule.Rearranged x y → Rule.decoder aside x = .ok r →
      ∃ s, Rule.decoder aside y = .ok s ∧ r.Alike s := fun x y r => Rule.decoder_of_rearranged
  obtain ⟨hrecord, h₁, h₂, h₃⟩ := decoder_eq_ok_iff.1 hx
  obtain ⟨permissions, hpermissions, halike₁⟩ :=
    givesOr_of_reorders hrefl hreads h.permissions h₁
  obtain ⟨prohibitions, hprohibitions, halike₂⟩ :=
    givesOr_of_reorders hrefl hreads h.prohibitions h₂
  obtain ⟨obligations, hobligations, halike₃⟩ :=
    givesOr_of_reorders hrefl hreads h.obligations h₃
  exact ⟨⟨permissions, prohibitions, obligations⟩,
    decoder_eq_ok_iff.2 ⟨h.shape.isRecord hrecord, hpermissions, hprohibitions, hobligations⟩,
    halike₁, halike₂, halike₃⟩

end Policy
end Connector
