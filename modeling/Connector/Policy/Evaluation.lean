import Connector.Json.Writer
import Connector.Policy.Codec
import Connector.Text.Lowercase

/-!
# Judging a transfer by a policy

A transfer is allowed if a permission covers its action, every constraint of every such
permission and obligation holds, and no such prohibition has all its constraints holding.
Otherwise it is denied with the reasons: prohibitions first, then permissions, then obligations.
A document that is no well formed policy denies everything.

Two values are equal if both are numbers with the same nearest double, or else if they are the
same document.  Numbers and strings are ordered; nothing else is.  An attribute that is not there
satisfies no comparison.
-/

namespace Connector

/-- What a policy is judged against. -/
structure PolicyContext where
  agreementId : String
  requestingParty : String
  action : String
  attributes : Table Json
  deriving Inhabited

/-- The value of an attribute; three names stand for the transfer itself. -/
def PolicyContext.attribute? (c : PolicyContext) (name : String) : Option Json :=
  if name = "agreementId" then some (.str c.agreementId)
  else if name = "requestingParty" then some (.str c.requestingParty)
  else if name = "action" then some (.str c.action)
  else Table.get? name c.attributes

/-- Equality of values: of numbers as doubles, of others as documents. -/
def Json.equalValue (a b : Json) : Bool :=
  match a.binary64?, b.binary64? with
  | some x, some y => x.sameValue y
  | _, _ => a.same b

/-- The order of two numbers or two strings. -/
def Json.compareValue (a b : Json) : Option Ordering :=
  match a, b with
  | .num x, .num y => some (x.toBinary64.compare y.toBinary64)
  | .str x, .str y => some (compare x y)
  | _, _ => none

/-- Whether a comparison holds. -/
def Operator.holds (op : Operator) (left right : Json) : Bool :=
  match op with
  | .eq => left.equalValue right
  | .neq => !left.equalValue right
  | .gt => left.compareValue right == some .gt
  | .geq => (left.compareValue right).any (·.isGE)
  | .lt => left.compareValue right == some .lt
  | .leq => (left.compareValue right).any (·.isLE)
  | .isIn =>
      match right with
      | .arr items => items.any left.equalValue
      | _ => false

namespace Constraint

mutual

/-- Whether a constraint holds. -/
def holds (context : PolicyContext) : Constraint → Bool
  | .atomic name op value => (context.attribute? name).any fun left => op.holds left value
  | .all items => countHolding context items == items.length
  | .any items => countHolding context items != 0
  | .one items => countHolding context items == 1

/-- How many of some constraints hold. -/
def countHolding (context : PolicyContext) : List Constraint → Nat
  | [] => 0
  | c :: rest => (if c.holds context then 1 else 0) + countHolding context rest

end

/-- How a reason names a constraint. -/
def describe : Constraint → String
  | .atomic name op value => Text.lowercase (name ++ " " ++ op.word ++ " " ++ value.compact)
  | .all items => s!"and[{items.length}]"
  | .any items => s!"or[{items.length}]"
  | .one items => s!"xone[{items.length}]"

theorem countHolding_eq_countP (context : PolicyContext) (cs : List Constraint) :
    countHolding context cs = cs.countP (holds context) := by
  induction cs with
  | nil => simp [countHolding]
  | cons c rest ih => simp [countHolding, List.countP_cons, ih, Nat.add_comm]

end Constraint

/-- The verdict on a transfer. -/
inductive Decision where
  | allow
  | deny (reasons : List String)
  deriving DecidableEq, Repr, Inhabited

/-- The reasons in one line. -/
def Decision.reason? : Decision → Option String
  | allow => none
  | deny reasons => some ("; ".intercalate reasons)

namespace Policy

/-- The reasons that the prohibitions give. -/
def prohibitionReasons (p : Policy) (context : PolicyContext) : List String :=
  ((p.prohibitions.filter fun r => r.appliesTo context.action).filter fun r =>
    r.constraints.all fun c => c.holds context).map fun _ =>
      "action '" ++ context.action ++ "' is prohibited"

/-- The constraints of some rules on an action that do not hold. -/
def unmet (rules : List Rule) (context : PolicyContext) : List Constraint :=
  (rules.filter fun r => r.appliesTo context.action).flatMap fun r =>
    r.constraints.filter fun c => !c.holds context

/-- The reasons that the permissions give. -/
def permissionReasons (p : Policy) (context : PolicyContext) : List String :=
  (if p.permissions.any fun r => r.appliesTo context.action then []
    else ["no permission grants action '" ++ context.action ++ "'"])
  ++ (unmet p.permissions context).map fun c =>
      "permission constraint not satisfied: " ++ c.describe

/-- The reasons that the obligations give. -/
def obligationReasons (p : Policy) (context : PolicyContext) : List String :=
  (unmet p.obligations context).map fun c => "obligation not fulfilled: " ++ c.describe

/-- The verdict of a policy. -/
def decide (p : Policy) (context : PolicyContext) : Decision :=
  match p.prohibitionReasons context ++ p.permissionReasons context
      ++ p.obligationReasons context with
  | [] => .allow
  | reasons => .deny reasons

/-- The reason against every transfer where the document is no policy. -/
def malformed : String := "malformed policy"

/-- The verdict of a document. -/
def judge (document : Json) (context : PolicyContext) : Decision :=
  match parse? document with
  | some p => p.decide context
  | none => .deny [malformed]

end Policy
end Connector
