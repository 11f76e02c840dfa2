import Connector.Proofs.Json.Reading
import Connector.Proofs.Policy.Verdict

/-!
# Policies read back

The document of a constraint has no tag, so it is tried as a comparison first and then as each of
the combinations in turn.  A comparison is written with the three members of one and a combination
with just the one that it is known by: what is written as one kind is taken for no other
(`ofJson?_groupJson`).  Hence every constraint reads back, however deep it nests, and with it every
rule and every policy, in order or not.  Whether a policy parses back is a matter of its being in
order alone.  Statements:

* `Constraint.ofJson?_toJson` — a constraint reads back, whatever it is made of;
* `Rule.reads`, `Policy.reads` — so do rules and policies;
* `Policy.parses_back` — a policy parses back exactly if it is in order, and what a document stands
  for parses back from its own document, with the same verdicts.
-/

namespace Connector

theorem Operator.ofJson?_word (op : Operator) : ofJson? (.str op.word) = some op := by
  cases op <;> rfl

namespace Constraint

variable {items : List Constraint} {js : List Json}

theorem toJsonList_eq_map (cs : List Constraint) : toJsonList cs = cs.map toJson := by
  induction cs with
  | nil => rfl
  | cons c rest ih => rw [toJsonList, ih, List.map_cons]

/-- A list of constraints reads back if each of them does. -/
theorem listOf_toJsonList (h : ∀ c ∈ items, ofJson? c.toJson = some c) :
    listOf (toJsonList items) = some items := by
  induction items with
  | nil => rfl
  | cons c rest ih =>
      rw [List.forall_mem_cons] at h
      simp only [toJsonList, listOf, h.1, ih h.2]
      rfl

/-- The combination that a word stands for. -/
inductive Combines : String → (List Constraint → Constraint) → Prop where
  | all : Combines "and" .all
  | any : Combines "or" .any
  | one : Combines "xone" .one

/-- What is written as a combination is read as that one: it lacks the members of a comparison, and
those of the combinations that are tried before. -/
theorem ofJson?_groupJson {word : String} {combine : List Constraint → Constraint}
    (h : Combines word combine) : ofJson? (groupJson word js) = (listOf js).map combine := by
  have hmembers : groupJson word js = .obj [(word, .arr js)] := rfl
  have hgroup : ∀ other, groupUnder other [(word, .arr js)] =
      if word = other then listOf js else none := fun _ => rfl
  have hother : ∀ other, word ≠ other → Table.get? other [(word, Json.arr js)] = none := by
    intro other hne
    simp [Table.get?, hne]
  have hatomic : ∀ op value, atomic? none op value = none := fun _ _ => rfl
  rw [hmembers, ofJson?, hgroup, hgroup, hgroup]
  cases h with
  | all | any | one =>
      rw [hother "leftOperand" (by decide), hatomic, Option.none_or]
      cases listOf js <;> rfl

/-- A combination reads back if its members do. -/
theorem ofJson?_combination {word : String} {combine : List Constraint → Constraint}
    (h : Combines word combine) (hitems : ∀ c ∈ items, ofJson? c.toJson = some c) :
    ofJson? (groupJson word (toJsonList items)) = some (combine items) := by
  rw [ofJson?_groupJson h, listOf_toJsonList hitems]
  rfl

/-- A comparison reads back. -/
theorem ofJson?_comparison (name : String) (op : Operator) (value : Json) :
    ofJson? (toJson (.atomic name op value)) = some (.atomic name op value) := by
  have hget := Table.get?_ofEntries
    [("leftOperand", Json.str name), ("operator", .str op.word), ("rightOperand", value)] (by simp)
  simp only [List.forall_mem_cons] at hget
  obtain ⟨hleft, hop, hright, -⟩ := hget
  have hatomic : atomic? (some (.str name)) (some (.str op.word)) (some value) =
      some (.atomic name op value) := by
    simp only [atomic?, Option.bind_eq_bind, Option.bind_some, Operator.ofJson?_word]
    rfl
  rw [toJson, Json.object, ofJson?, hleft, hop, hright, hatomic, Option.some_or]

/-- Every constraint reads back from its document, at any depth. -/
theorem ofJson?_toJson (c : Constraint) : ofJson? c.toJson = some c := by
  induction c using induction_members with
  | step c ih =>
      cases c with
      | atomic name op value => exact ofJson?_comparison name op value
      | all items => exact ofJson?_combination .all ih
      | any items => exact ofJson?_combination .any ih
      | one items => exact ofJson?_combination .one ih

theorem reads (c : Constraint) : decoder.Reads c.toJson c := by
  intro aside
  simp only [decoder, ofJson?_toJson]

end Constraint

open Fields Decoder

theorem Rule.reads (r : Rule) : decoder.Reads r.toJson r := by
  have hwritten : r.toJson = .object
      [("action", .str r.action), ("constraints", .arr (r.constraints.map Constraint.toJson))] := by
    rw [toJson, Constraint.toJsonList_eq_map]
  have hget := Table.get?_ofEntries
    [("action", Json.str r.action), ("constraints", .arr (r.constraints.map Constraint.toJson))]
    (by simp)
  simp only [List.forall_mem_cons] at hget
  obtain ⟨haction, hconstraints, -⟩ := hget
  rw [hwritten]
  obtain ⟨_, _⟩ := r
  refine reads_record ?_
  refine reads_seq ?_ (reads_withDefault hconstraints (reads_list fun c _ => c.reads))
  exact reads_map _ (reads_required haction (reads_string _))

namespace Policy

/-- A policy reads back, in order or not. -/
theorem reads (p : Policy) : decoder.Reads p.toJson p := by
  have hget := Table.get?_ofEntries
    [("permissions", Json.arr (p.permissions.map Rule.toJson)),
      ("prohibitions", .arr (p.prohibitions.map Rule.toJson)),
      ("obligations", .arr (p.obligations.map Rule.toJson))] (by simp)
  simp only [List.forall_mem_cons] at hget
  obtain ⟨hpermissions, hprohibitions, hobligations, -⟩ := hget
  have hrules : ∀ rules : List Rule, (list Rule.decoder).Reads (.arr (rules.map Rule.toJson)) rules :=
    fun rules => reads_list fun r _ => r.reads
  obtain ⟨_, _, _⟩ := p
  refine reads_record ?_
  refine reads_seq ?_ (reads_withDefault hobligations (hrules _))
  refine reads_seq ?_ (reads_withDefault hprohibitions (hrules _))
  exact reads_map _ (reads_withDefault hpermissions (hrules _))

/-- Of the document of a policy nothing is parsed but the policy, and that if it is in order. -/
theorem parse?_toJson_eq_some_iff {p q : Policy} :
    parse? p.toJson = some q ↔ p = q ∧ p.IsInOrder := by
  rw [parse?_eq_some_iff, p.reads.run, Except.ok.injEq]
  apply and_congr_right
  intro hsame
  rw [hsame]

/-- **Policies parse back.**  Let a policy be written as a document, its constraints nested to any
depth and compared with any values.  The document parses as that very policy if every rule names an
action and every part of a constraint is sound, at any depth: a comparison names an attribute, a
combination combines something.  Otherwise it does not parse.  And whatever document a policy was
parsed from, the policy's own document parses as the policy again, and every transfer gets the same
verdict from both. -/
theorem parses_back (p : Policy) :
    (p.IsInOrder → parse? p.toJson = some p) ∧
    (¬ p.IsInOrder → parse? p.toJson = none) ∧
    ∀ document, parse? document = some p →
      parse? p.toJson = some p ∧ ∀ context, judge p.toJson context = judge document context := by
  have hback : p.IsInOrder → parse? p.toJson = some p := fun horder =>
    parse?_toJson_eq_some_iff.2 ⟨rfl, horder⟩
  refine ⟨hback, ?_, ?_⟩
  · intro hdisorder
    refine Option.eq_none_iff_forall_ne_some.2 fun q hq => ?_
    exact hdisorder (parse?_toJson_eq_some_iff.1 hq).2
  · intro document hdocument
    have hagain := hback (parse?_eq_some_iff.1 hdocument).2
    refine ⟨hagain, fun context => ?_⟩
    rw [judge, judge, hagain, hdocument]

/-- A policy whose constraint nests two combinations and compares with an object parses back; with
an empty combination inside it does not.  A document that lists a policy's fields by their places
stands for a policy as well, and its own document gives the same verdicts. -/
theorem parses_back_nested :
    let site := Constraint.atomic "site" .neq (.obj [("and", .arr [])])
    let nested : Policy := ⟨[⟨"use", [.all [site, .one [site, .any [site]]]]⟩], [], []⟩
    let hollow : Policy := ⟨[⟨"use", [.all [site, .one []]]⟩], [], []⟩
    let listed := Json.arr [.arr [.arr [.str "use"]]]
    let unconditional : Policy := ⟨[⟨"use", []⟩], [], []⟩
    (nested.IsInOrder ∧ parse? nested.toJson = some nested) ∧
      (¬ hollow.IsInOrder ∧ parse? hollow.toJson = none) ∧
      parse? listed = some unconditional ∧
      ∀ context, judge unconditional.toJson context = judge listed context := by
  intro site nested hollow listed unconditional
  have hnested : nested.IsInOrder := isWellFormed_iff.1 (by decide +kernel)
  have hhollow : ¬ hollow.IsInOrder := fun h => absurd (isWellFormed_iff.2 h) (by decide +kernel)
  have hlisted : parse? listed = some unconditional := rfl
  exact ⟨⟨hnested, (parses_back nested).1 hnested⟩, ⟨hhollow, (parses_back hollow).2.1 hhollow⟩,
    hlisted, ((parses_back unconditional).2.2 listed hlisted).2⟩

end Policy
end Connector
