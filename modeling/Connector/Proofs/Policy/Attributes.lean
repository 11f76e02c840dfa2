import Connector.Proofs.Policy.Documents
import Connector.Proofs.Policy.Meaning

/-!
# What attributes can change

A verdict depends on a transfer only through its action and the values of the attributes that the
constraints compare (`Policy.decide_congr`).  The names of these attributes all stand in the
document, as the left operand of an object somewhere in it (`Json.NamesOperand`), and three of
them are never looked up among the attributes.  So two transfers that differ only in attributes
which the document does not name, or in attributes under the three names, get the same verdict
for the same reasons.  Statements:

* `Constraint.namesOperand_of_within` — what a constraint compares, its document names;
* `Policy.namesOperand_of_decoder` — the same for the constraints of a policy;
* `Constraint.holds_congr`, `Policy.decide_congr` — what is judged by the same values is judged
  the same;
* `Policy.judge_eq_of_agree` — attributes that a document does not name have no influence.
-/

namespace Connector

namespace Json

/-- A name stands in a document as the left operand of an object, at any depth. -/
inductive NamesOperand (name : String) : Json → Prop where
  | here {members : List (String × Json)} :
      ("leftOperand", .str name) ∈ members → NamesOperand name (.obj members)
  | member {members : List (String × Json)} {key : String} {value : Json} :
      (key, value) ∈ members → NamesOperand name value → NamesOperand name (.obj members)
  | item {items : List Json} {value : Json} :
      value ∈ items → NamesOperand name value → NamesOperand name (.arr items)

theorem namesOperand_obj_iff {name : String} {members : List (String × Json)} :
    (obj members).NamesOperand name ↔
      ("leftOperand", .str name) ∈ members ∨ ∃ e ∈ members, e.2.NamesOperand name := by
  constructor
  · intro h
    cases h with
    | here hmem => exact Or.inl hmem
    | member hmem hvalue => exact Or.inr ⟨_, hmem, hvalue⟩
  · rintro (hmem | ⟨e, hmem, hvalue⟩)
    · exact .here hmem
    · exact .member hmem hvalue

theorem namesOperand_arr_iff {name : String} {items : List Json} :
    (arr items).NamesOperand name ↔ ∃ v ∈ items, v.NamesOperand name := by
  constructor
  · intro h
    cases h with
    | item hmem hvalue => exact ⟨_, hmem, hvalue⟩
  · rintro ⟨v, hmem, hvalue⟩
    exact .item hmem hvalue

theorem not_namesOperand_str {name s : String} : ¬ (str s).NamesOperand name := nofun

/-- What a field names, the document names. -/
theorem NamesOperand.of_field? {name field : String} {place : Nat} {j value : Json}
    (hfield : j.field? field place = some value) (h : value.NamesOperand name) :
    j.NamesOperand name := by
  cases j with
  | obj members => exact .member (Table.mem_of_get?_eq_some hfield) h
  | arr items => exact .item (List.mem_of_getElem? hfield) h
  | null | bool _ | num _ | str _ => cases hfield

/-- What an item of a field with a list names, the document names. -/
theorem NamesOperand.of_givesOr {α : Type} {d : Decoder α} {aside : Bool} {name field : String}
    {place : Nat} {j : Json} {as : List α}
    (h : Fields.GivesOr [] (Decoder.list d) aside as (j.field? field place)) {a : α} (ha : a ∈ as)
    (hitem : ∀ k, d aside k = .ok a → k.NamesOperand name) : j.NamesOperand name := by
  cases hfield : j.field? field place with
  | none =>
      rw [hfield] at h
      obtain rfl : as = [] := h
      exact absurd ha List.not_mem_nil
  | some value =>
      rw [hfield] at h
      obtain ⟨js, rfl, hjs⟩ := Decoder.list_eq_ok_iff.1 h
      obtain ⟨k, hk, hka⟩ := exists_of_forall₂_right hjs a ha
      exact .of_field? hfield (.item hk (hitem k hka))

end Json

namespace Constraint

theorem groupUnder_eq_some_iff {word : String} {members : List (String × Json)}
    {items : List Constraint} :
    groupUnder word members = some items ↔
      ∃ js, Table.get? word members = some (.arr js) ∧ listOf js = some items := by
  induction members with
  | nil => simp [groupUnder, Table.get?]
  | cons e rest ih =>
      obtain ⟨key, value⟩ := e
      by_cases hkey : key = word
      · cases value <;> simp [groupUnder, groupOf, Table.get?, hkey]
      · simpa [groupUnder, Table.get?, hkey] using ih

/-- Each constraint of some documents is that of one of them. -/
theorem exists_of_mem_listOf {js : List Json} {items : List Constraint}
    (h : listOf js = some items) : ∀ m ∈ items, ∃ j ∈ js, ofJson? j = some m := by
  induction js generalizing items with
  | nil =>
      obtain rfl : [] = items := Option.some.inj h
      exact fun m hm => absurd hm List.not_mem_nil
  | cons j rest ih =>
      simp only [listOf, Option.bind_eq_bind, Option.bind_eq_some_iff, Option.pure_def,
        Option.some.injEq] at h
      obtain ⟨c, hc, more, hmore, rfl⟩ := h
      intro m hm
      rcases List.mem_cons.1 hm with rfl | hm
      · exact ⟨j, List.mem_cons_self, hc⟩
      · obtain ⟨k, hk, hkm⟩ := ih hmore m hm
        exact ⟨k, List.mem_cons_of_mem _ hk, hkm⟩

/-- A comparison has the name that its left operand is. -/
theorem of_atomic?_eq_some {name op value : Option Json} {c : Constraint}
    (h : atomic? name op value = some c) :
    ∃ text o v, c = .atomic text o v ∧ name = some (.str text) := by
  simp only [atomic?, Option.bind_eq_bind, Option.bind_eq_some_iff, Option.pure_def,
    Option.some.injEq] at h
  obtain ⟨j, hname, text, htext, _, -, o, -, v, -, rfl⟩ := h
  cases j with
  | str s =>
      obtain rfl : s = text := Option.some.inj htext
      exact ⟨s, o, v, rfl, hname⟩
  | null | bool _ | num _ | arr _ | obj _ => cases htext

/-- A document of a constraint is an object.  It names what a comparison compares, and what is no
comparison has its members in a list under one of its names. -/
theorem of_ofJson?_eq_some {j : Json} {c : Constraint} (h : ofJson? j = some c) :
    ∃ members, j = .obj members ∧
      match c with
      | .atomic name _ _ => Table.get? "leftOperand" members = some (.str name)
      | c => ∃ word js, Table.get? word members = some (.arr js) ∧ listOf js = some c.members := by
  cases j with
  | obj members =>
      refine ⟨members, rfl, ?_⟩
      simp only [ofJson?, Option.or_eq_some_iff, Option.map_eq_some_iff,
        groupUnder_eq_some_iff] at h
      rcases h with h | ⟨-, ⟨_, ⟨js, hget, hlist⟩, rfl⟩ | ⟨-, ⟨_, ⟨js, hget, hlist⟩, rfl⟩ |
        ⟨-, _, ⟨js, hget, hlist⟩, rfl⟩⟩⟩
      · obtain ⟨name, op, value, rfl, hget⟩ := of_atomic?_eq_some h
        exact hget
      · exact ⟨"and", js, hget, hlist⟩
      · exact ⟨"or", js, hget, hlist⟩
      · exact ⟨"xone", js, hget, hlist⟩
  | null | bool _ | num _ | str _ | arr _ => simp [ofJson?] at h

/-- The members of a constraint are read from documents in the document of it, so what these name
it names. -/
theorem namesOperand_of_mem_members {j : Json} {c m : Constraint} {name : String}
    (h : ofJson? j = some c) (hm : m ∈ c.members)
    (hmember : ∀ k, ofJson? k = some m → k.NamesOperand name) : j.NamesOperand name := by
  obtain ⟨members, rfl, hc⟩ := of_ofJson?_eq_some h
  cases c with
  | atomic _ _ _ => exact absurd hm List.not_mem_nil
  | all items | any items | one items =>
      obtain ⟨word, js, hget, hlist⟩ := hc
      obtain ⟨k, hk, hkm⟩ := exists_of_mem_listOf hlist m hm
      exact .member (Table.mem_of_get?_eq_some hget) (.item hk (hmember k hkm))

/-- What a part of a constraint compares, the document of the constraint names. -/
theorem namesOperand_of_within {name : String} {op : Operator} {value : Json} {c : Constraint}
    (hpart : (atomic name op value).Within c) {j : Json} (h : ofJson? j = some c) :
    j.NamesOperand name := by
  induction hpart generalizing j with
  | refl =>
      obtain ⟨members, rfl, hget⟩ := of_ofJson?_eq_some h
      exact .here (Table.mem_of_get?_eq_some hget)
  | inside _ hmem ih => exact namesOperand_of_mem_members h hmem fun _ hk => ih hk

/-- A constraint holds or not by the values of the attributes that its parts compare. -/
theorem holds_congr {x y : PolicyContext} {c : Constraint}
    (h : ∀ name op value, (atomic name op value).Within c → x.attribute? name = y.attribute? name) :
    c.holds x = c.holds y := by
  induction c using induction_members with
  | step c ih =>
      have hmembers : ∀ m ∈ c.members, m.holds x = m.holds y := fun m hm =>
        ih m hm fun name op value hpart => h name op value (.inside hpart hm)
      cases c with
      | atomic name op value => simp only [holds, h name op value .refl]
      | all items | any items | one items =>
          have hcount : countHolding x items = countHolding y items := by
            rw [countHolding_eq_countP, countHolding_eq_countP]
            exact List.countP_congr fun m hm => by rw [hmembers m hm]
          simp only [holds, hcount]

end Constraint

namespace Policy

/-- A constraint of one of the rules of a policy. -/
def HasConstraint (p : Policy) (c : Constraint) : Prop :=
  ∃ r ∈ p.permissions ++ p.prohibitions ++ p.obligations, c ∈ r.constraints

/-- What a constraint of a policy compares, the document of the policy names. -/
theorem namesOperand_of_decoder {aside : Bool} {document : Json} {p : Policy}
    (h : decoder aside document = .ok p) {c : Constraint} (hc : p.HasConstraint c) {name : String}
    {op : Operator} {value : Json} (hpart : (Constraint.atomic name op value).Within c) :
    document.NamesOperand name := by
  have hconstraint : ∀ j, Constraint.decoder aside j = .ok c → j.NamesOperand name := by
    intro j hj
    refine Constraint.namesOperand_of_within hpart ?_
    unfold Constraint.decoder at hj
    split at hj
    · rename_i d hd
      rw [hd, Except.ok.inj hj]
    · cases hj
  have hrule : ∀ r, c ∈ r.constraints → ∀ j, Rule.decoder aside j = .ok r → j.NamesOperand name :=
    fun r hmem j hj => .of_givesOr (Rule.decoder_eq_ok_iff.1 hj).2.2 hmem hconstraint
  obtain ⟨-, h₁, h₂, h₃⟩ := decoder_eq_ok_iff.1 h
  obtain ⟨r, hr, hmem⟩ := hc
  rcases List.mem_append.1 hr with hr | hr
  · rcases List.mem_append.1 hr with hr | hr
    · exact .of_givesOr h₁ hr (hrule r hmem)
    · exact .of_givesOr h₂ hr (hrule r hmem)
  · exact .of_givesOr h₃ hr (hrule r hmem)

/-- The verdict of a policy goes by the action and by which constraints hold. -/
theorem decide_congr {p : Policy} {x y : PolicyContext} (haction : x.action = y.action)
    (h : ∀ c, p.HasConstraint c → c.holds x = c.holds y) : p.decide x = p.decide y := by
  have hrules : ∀ r ∈ p.permissions ++ p.prohibitions ++ p.obligations, ∀ c ∈ r.constraints,
      c.holds x = c.holds y := fun r hr c hc => h c ⟨r, hr, hc⟩
  simp only [List.forall_mem_append] at hrules
  obtain ⟨⟨hpermissions, hprohibitions⟩, hobligations⟩ := hrules
  have hunmet : ∀ rules : List Rule, (∀ r ∈ rules, ∀ c ∈ r.constraints, c.holds x = c.holds y) →
      unmet rules x = unmet rules y := by
    intro rules hrules
    unfold unmet
    rw [haction]
    refine List.flatMap_congr fun r hr => List.filter_congr fun c hc => ?_
    rw [hrules r (List.mem_of_mem_filter hr) c hc]
  have htriggered : p.prohibitionReasons x = p.prohibitionReasons y := by
    unfold prohibitionReasons
    rw [haction]
    congr 1
    refine List.filter_congr fun r hr => ?_
    rw [Bool.eq_iff_iff, List.all_eq_true, List.all_eq_true]
    exact forall₂_congr fun c hc => by rw [hprohibitions r (List.mem_of_mem_filter hr) c hc]
  unfold decide permissionReasons obligationReasons
  rw [htriggered, hunmet _ hpermissions, hunmet _ hobligations, haction]

end Policy

namespace PolicyContext

/-- The names that stand for the transfer itself. -/
def ownNames : List String := ["agreementId", "requestingParty", "action"]

/-- What is looked up under a name is the same for the same transfer, if the attributes agree on
the name or it is one of the transfer's own. -/
theorem attribute?_congr {x y : PolicyContext} {name : String}
    (hagreement : x.agreementId = y.agreementId) (hparty : x.requestingParty = y.requestingParty)
    (haction : x.action = y.action)
    (h : name ∉ ownNames → Table.get? name x.attributes = Table.get? name y.attributes) :
    x.attribute? name = y.attribute? name := by
  unfold attribute?
  rw [hagreement, hparty, haction]
  by_cases h₁ : name = "agreementId"
  · simp [h₁]
  · by_cases h₂ : name = "requestingParty"
    · simp [h₂]
    · by_cases h₃ : name = "action"
      · simp [h₃]
      · simp [h₁, h₂, h₃, h (by simp [ownNames, h₁, h₂, h₃])]

end PolicyContext

namespace Policy

/-- **Attributes have no influence beyond what the document names.**  Transfers under one
agreement, for one party and one action, whose attributes agree on every name that stands in the
document as a left operand and is not one of the transfer's own, are judged the same, reasons
included.  Attributes under the transfer's own names change no verdict, whatever the document
names. -/
theorem judge_eq_of_agree (document : Json) :
    (∀ x y : PolicyContext, x.agreementId = y.agreementId →
      x.requestingParty = y.requestingParty → x.action = y.action →
      (∀ name, document.NamesOperand name → name ∉ PolicyContext.ownNames →
        Table.get? name x.attributes = Table.get? name y.attributes) →
      judge document x = judge document y) ∧
    ∀ (context : PolicyContext) (attributes : Table Json),
      (∀ name, name ∉ PolicyContext.ownNames →
        Table.get? name attributes = Table.get? name context.attributes) →
      judge document { context with attributes := attributes } = judge document context := by
  have hagree : ∀ x y : PolicyContext, x.agreementId = y.agreementId →
      x.requestingParty = y.requestingParty → x.action = y.action →
      (∀ name, document.NamesOperand name → name ∉ PolicyContext.ownNames →
        Table.get? name x.attributes = Table.get? name y.attributes) →
      judge document x = judge document y := by
    intro x y hagreement hparty haction hnamed
    unfold judge parse?
    cases hread : decoder.run document with
    | error e => rfl
    | ok p =>
        by_cases hp : p.isWellFormed = true
        · simp only [hp, if_true]
          refine decide_congr haction fun c hc => Constraint.holds_congr fun name op value hpart => ?_
          refine PolicyContext.attribute?_congr hagreement hparty haction fun hown => ?_
          exact hnamed name (namesOperand_of_decoder hread hc hpart) hown
        · simp [hp]
  refine ⟨hagree, fun context attributes hothers => ?_⟩
  exact hagree _ _ rfl rfl rfl fun name _ hown => hothers name hown

/-- A permission within a region goes neither by the site of a transfer nor by an attribute that is
called like the action. -/
theorem judge_of_other_attributes :
    let document := permitting [comparison "region" "eu"]
    let plain : PolicyContext := ⟨"a", "b", "transfer", [("region", .str "eu")]⟩
    let named : Table Json := [("action", .str "use"), ("region", .str "eu")]
    let sited : Table Json := named ++ [("site", .str "south")]
    judge document { plain with attributes := named } = judge document plain ∧
      judge document { plain with attributes := sited } = judge document plain ∧
      judge document plain = .allow := by
  intro document plain named sited
  obtain ⟨hagree, hown⟩ := judge_eq_of_agree document
  refine ⟨hown plain named fun name hname => ?_,
    hagree _ _ rfl rfl rfl fun name hname _ => ?_, by decide +kernel⟩
  · have hne : "action" ≠ name := fun h => hname (h ▸ by decide)
    simp [named, plain, Table.get?, hne]
  · obtain rfl : name = "region" := by
      simpa [document, permitting, comparison, Json.namesOperand_obj_iff,
        Json.namesOperand_arr_iff, Json.not_namesOperand_str] using hname
    rfl

end Policy
end Connector
