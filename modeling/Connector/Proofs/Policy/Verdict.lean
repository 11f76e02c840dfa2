import Connector.Proofs.Policy.Documents
import Connector.Proofs.Policy.Meaning

/-!
# The verdict of a policy

The verdict is computed by collecting reasons: a transfer is allowed if no list of rules gives any.
Each list is read off here by itself, prohibitions the other way round from permissions and
obligations: a rule without constraints satisfies a permission and triggers a prohibition.
Together they say what a policy must hold to allow a transfer (`Policy.Grants`), and that is a
matter of which rules there are and not of their order.  Statements:

* `Policy.isWellFormed_iff` — a policy is well formed exactly if it is in order;
* `Policy.decide_eq_allow_iff` — a policy allows a transfer exactly if it grants it;
* `Policy.Grants.of_alike` — alike policies grant the same;
* `Policy.verdict_of_document` — the verdict of a document: allowed exactly if it is a policy in
  order that grants the transfer, denied with reasons otherwise, and the same for the document
  rearranged.
-/

namespace Connector

namespace Rule

/-- A rule is about an action: it names the action, or the one that covers every other. -/
def Covers (r : Rule) (action : String) : Prop := r.action = "use" ∨ r.action = action

theorem appliesTo_iff {r : Rule} {action : String} :
    r.appliesTo action = true ↔ r.Covers action := by
  simp [appliesTo, Covers, anyAction]

/-- The action is not blank, and every part of a constraint, at any depth, is sound. -/
def IsInOrder (r : Rule) : Prop :=
  Text.isBlankText r.action = false ∧
    ∀ c ∈ r.constraints, ∀ part : Constraint, part.Within c → part.IsSound

theorem isWellFormed_iff {r : Rule} : r.isWellFormed = true ↔ r.IsInOrder := by
  simp [isWellFormed, IsInOrder, Constraint.isWellFormed_iff]

namespace Alike

variable {r s : Rule}

theorem covers_iff (h : r.Alike s) {action : String} : r.Covers action ↔ s.Covers action := by
  rw [Covers, Covers, h.1]

theorem isInOrder (h : r.Alike s) (hr : r.IsInOrder) : s.IsInOrder :=
  ⟨h.1 ▸ hr.1, fun c hc => hr.2 c ((h.2 c).2 hc)⟩

end Alike
end Rule

namespace Policy

/-- Every rule is in order. -/
def IsInOrder (p : Policy) : Prop :=
  ∀ r ∈ p.permissions ++ p.prohibitions ++ p.obligations, r.IsInOrder

/-- What a policy must hold to allow a transfer. -/
structure Grants (p : Policy) (context : PolicyContext) : Prop where
  /-- A permission is about the action. -/
  permitted : ∃ r ∈ p.permissions, r.Covers context.action
  /-- Every constraint of every permission about the action is met. -/
  satisfied : ∀ r ∈ p.permissions, r.Covers context.action →
    ∀ c ∈ r.constraints, c.IsMet context
  /-- Every constraint of every obligation about the action is met. -/
  fulfilled : ∀ r ∈ p.obligations, r.Covers context.action →
    ∀ c ∈ r.constraints, c.IsMet context
  /-- No prohibition about the action has all its constraints met. -/
  unprohibited : ∀ r ∈ p.prohibitions, r.Covers context.action →
    ¬ ∀ c ∈ r.constraints, c.IsMet context

section Reasons

variable {p : Policy} {context : PolicyContext}

theorem isWellFormed_iff : p.isWellFormed = true ↔ p.IsInOrder := by
  simp only [isWellFormed, IsInOrder, List.all_eq_true, Rule.isWellFormed_iff]

/-- The prohibitions give no reason if each about the action has a constraint that is not met. -/
theorem prohibitionReasons_eq_nil_iff :
    p.prohibitionReasons context = [] ↔
      ∀ r ∈ p.prohibitions, r.Covers context.action → ¬ ∀ c ∈ r.constraints, c.IsMet context := by
  simp only [prohibitionReasons, List.map_eq_nil_iff, List.filter_eq_nil_iff, List.mem_filter,
    Rule.appliesTo_iff, List.all_eq_true, Constraint.holds_iff, and_imp]

/-- Nothing is unmet if every constraint of every rule about the action is met. -/
theorem unmet_eq_nil_iff {rules : List Rule} :
    unmet rules context = [] ↔
      ∀ r ∈ rules, r.Covers context.action → ∀ c ∈ r.constraints, c.IsMet context := by
  simp only [unmet, List.flatMap_eq_nil_iff, List.filter_eq_nil_iff, List.mem_filter,
    Rule.appliesTo_iff, Bool.not_eq_true', Bool.not_eq_false, Constraint.holds_iff, and_imp]

/-- The permissions give no reason if one is about the action and nothing of them is unmet. -/
theorem permissionReasons_eq_nil_iff :
    p.permissionReasons context = [] ↔
      (∃ r ∈ p.permissions, r.Covers context.action) ∧
      ∀ r ∈ p.permissions, r.Covers context.action → ∀ c ∈ r.constraints, c.IsMet context := by
  rw [permissionReasons, List.append_eq_nil_iff, List.map_eq_nil_iff, unmet_eq_nil_iff]
  simp only [← Rule.appliesTo_iff, ← List.any_eq_true]
  cases p.permissions.any fun r => r.appliesTo context.action <;> simp

/-- A policy allows a transfer exactly if it grants it. -/
theorem decide_eq_allow_iff : p.decide context = .allow ↔ p.Grants context := by
  have hnil : p.decide context = .allow ↔
      p.prohibitionReasons context ++ p.permissionReasons context
        ++ p.obligationReasons context = [] := by
    unfold decide
    split <;> simp_all
  rw [hnil, List.append_eq_nil_iff, List.append_eq_nil_iff, prohibitionReasons_eq_nil_iff,
    permissionReasons_eq_nil_iff, obligationReasons, List.map_eq_nil_iff, unmet_eq_nil_iff]
  constructor
  · rintro ⟨⟨hprohibitions, hpermitted, hsatisfied⟩, hfulfilled⟩
    exact ⟨hpermitted, hsatisfied, hfulfilled, hprohibitions⟩
  · rintro ⟨hpermitted, hsatisfied, hfulfilled, hprohibitions⟩
    exact ⟨⟨hprohibitions, hpermitted, hsatisfied⟩, hfulfilled⟩

/-- A transfer that is not allowed is denied with a reason. -/
theorem exists_reasons_of_decide_ne_allow (h : p.decide context ≠ .allow) :
    ∃ reasons, p.decide context = .deny reasons ∧ reasons ≠ [] := by
  unfold decide at h ⊢
  split at h
  · exact absurd rfl h
  · rename_i reasons hreasons
    exact ⟨_, rfl, hreasons⟩

end Reasons

section Order

variable {p q : Policy}

/-- What is in order stays in order when rules take the places of alike ones. -/
theorem IsInOrder.of_alike (h : p.Alike q) (hp : p.IsInOrder) : q.IsInOrder := by
  have hlist : ∀ {rs ss : List Rule}, Correspond Rule.Alike rs ss → (∀ r ∈ rs, r.IsInOrder) →
      ∀ s ∈ ss, s.IsInOrder := fun hrs hin s hs => by
    obtain ⟨r, hr, halike⟩ := hrs.2 s hs
    exact halike.isInOrder (hin r hr)
  simp only [IsInOrder, List.forall_mem_append] at hp ⊢
  obtain ⟨⟨h₁, h₂⟩, h₃⟩ := hp
  exact ⟨⟨hlist h.permissions h₁, hlist h.prohibitions h₂⟩, hlist h.obligations h₃⟩

/-- Alike policies grant the same. -/
theorem Grants.of_alike {context : PolicyContext} (h : p.Alike q) (hp : p.Grants context) :
    q.Grants context := by
  have hmet : ∀ {rs ss : List Rule}, Correspond Rule.Alike rs ss →
      (∀ r ∈ rs, r.Covers context.action → ∀ c ∈ r.constraints, c.IsMet context) →
      ∀ s ∈ ss, s.Covers context.action → ∀ c ∈ s.constraints, c.IsMet context :=
    fun hrs hin s hs hcovers c hc => by
      obtain ⟨r, hr, halike⟩ := hrs.2 s hs
      exact hin r hr (halike.covers_iff.2 hcovers) c ((halike.2 c).2 hc)
  constructor
  · obtain ⟨r, hr, hcovers⟩ := hp.permitted
    obtain ⟨s, hs, halike⟩ := h.permissions.1 r hr
    exact ⟨s, hs, halike.covers_iff.1 hcovers⟩
  · exact hmet h.permissions hp.satisfied
  · exact hmet h.obligations hp.fulfilled
  · intro s hs hcovers hall
    obtain ⟨r, hr, halike⟩ := h.prohibitions.2 s hs
    exact hp.unprohibited r hr (halike.covers_iff.2 hcovers) fun c hc => hall c ((halike.2 c).1 hc)

end Order

section Document

variable {document : Json} {context : PolicyContext}

theorem parse?_eq_some_iff {p : Policy} :
    parse? document = some p ↔ decoder.run document = .ok p ∧ p.IsInOrder := by
  rw [← isWellFormed_iff, parse?]
  cases decoder.run document with
  | error e => simp
  | ok q =>
      by_cases hq : q.isWellFormed = true
      · simp only [hq, if_true, Option.some.injEq, Except.ok.injEq]
        exact ⟨fun h => ⟨h, h ▸ hq⟩, And.left⟩
      · simp only [hq, if_false, Except.ok.injEq, reduceCtorEq, false_iff]
        rintro ⟨rfl, hp⟩
        exact hq hp

/-- A document allows a transfer exactly if it is a policy in order that grants it. -/
theorem judge_eq_allow_iff :
    judge document context = .allow ↔
      ∃ p, decoder.run document = .ok p ∧ p.IsInOrder ∧ p.Grants context := by
  have hparse : judge document context = .allow ↔
      ∃ p, parse? document = some p ∧ p.decide context = .allow := by
    unfold judge
    cases parse? document <;> simp
  rw [hparse]
  simp only [parse?_eq_some_iff, decide_eq_allow_iff, and_assoc]

/-- What a document allows, it allows rearranged. -/
theorem judge_of_rearranged {other : Json} (h : Rearranged document other)
    (hallow : judge document context = .allow) : judge other context = .allow := by
  obtain ⟨p, hp, horder, hgrants⟩ := judge_eq_allow_iff.1 hallow
  obtain ⟨q, hq, halike⟩ := decoder_of_rearranged h hp
  exact judge_eq_allow_iff.2 ⟨q, hq, horder.of_alike halike, hgrants.of_alike halike⟩

end Document

/-- **The verdict of a document.**  A transfer is allowed if and only if the document reads as a
policy in order that grants it.  In every other case it is denied with at least one reason, and
with the one reason that the policy is malformed where the document reads as none in order.
Rearranging the rules of the lists, or the constraints of the rules, leaves what is allowed. -/
theorem verdict_of_document (document : Json) (context : PolicyContext) :
    (judge document context = .allow ↔
      ∃ p, decoder.run document = .ok p ∧ p.IsInOrder ∧ p.Grants context) ∧
    (judge document context ≠ .allow →
      ∃ reasons, judge document context = .deny reasons ∧ reasons ≠ []) ∧
    ((¬ ∃ p, decoder.run document = .ok p ∧ p.IsInOrder) →
      judge document context = .deny ["malformed policy"]) ∧
    ∀ other, Rearranged document other →
      (judge document context = .allow ↔ judge other context = .allow) := by
  refine ⟨judge_eq_allow_iff, fun hne => ?_, fun hnone => ?_, fun other h => ?_⟩
  · cases hparse : parse? document with
    | none => exact ⟨[malformed], by simp [judge, hparse], by simp⟩
    | some p =>
        have hjudge : judge document context = p.decide context := by simp [judge, hparse]
        rw [hjudge] at hne ⊢
        exact exists_reasons_of_decide_ne_allow hne
  · have hparse : parse? document = none := by
      refine Option.eq_none_iff_forall_ne_some.2 fun p hp => hnone ⟨p, ?_⟩
      exact parse?_eq_some_iff.1 hp
    simp [judge, hparse, malformed]
  · exact ⟨judge_of_rearranged h, judge_of_rearranged h.symm⟩

/-- The constraints of a permission swapped: both documents allow a transfer within the region,
both deny it outside with reasons, and an empty combination makes a third document malformed. -/
theorem verdict_of_regional_permission :
    let region := comparison "region" "eu"
    let site := .obj [("xone", .arr [comparison "site" "north", comparison "site" "south"])]
    let within : PolicyContext :=
      ⟨"a", "b", "transfer", [("region", .str "eu"), ("site", .str "south")]⟩
    let outside : PolicyContext := ⟨"a", "b", "transfer", [("region", .str "us")]⟩
    judge (permitting [region, site]) within = .allow ∧
      judge (permitting [site, region]) within = .allow ∧
      (∃ reasons, judge (permitting [site, region]) outside = .deny reasons ∧ reasons ≠ []) ∧
      judge (permitting [.obj [("xone", .arr [])]]) within = .deny ["malformed policy"] := by
  intro region site within outside
  have hallow : judge (permitting [region, site]) within = .allow := by decide +kernel
  have hswap : Rearranged (permitting [region, site]) (permitting [site, region]) := by
    refine ⟨trivial, .moved (.refl _) (.cons (Or.inr ⟨trivial, rfl, ?_⟩) .nil), .same _, .same _⟩
    exact .moved (.swap site region []) (List.forall₂_refl _)
  obtain ⟨-, -, -, hrearranged⟩ := verdict_of_document (permitting [region, site]) within
  obtain ⟨-, hdeny, -, -⟩ := verdict_of_document (permitting [site, region]) outside
  obtain ⟨-, -, hmalformed, -⟩ :=
    verdict_of_document (permitting [.obj [("xone", .arr [])]]) within
  refine ⟨hallow, (hrearranged _ hswap).1 hallow, hdeny (by decide +kernel), hmalformed ?_⟩
  rintro ⟨p, hp⟩
  have hsome := parse?_eq_some_iff.2 hp
  have hnone : (parse? (permitting [.obj [("xone", .arr [])]])).isNone = true := by decide +kernel
  rw [hsome] at hnone
  cases hnone

end Policy
end Connector
