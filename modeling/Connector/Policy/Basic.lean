import Connector.Json.Value
import Connector.Text.Blank

/-!
# Usage policies

A policy lists permissions, prohibitions and obligations.  Each is a rule about an action under
constraints; a constraint compares an attribute with a value or combines other constraints.

A policy is well formed if no action and no attribute name is blank and no combination is empty,
at any depth.
-/

namespace Connector

/-- How an attribute is compared with a value. -/
inductive Operator where
  | eq
  | neq
  | gt
  | geq
  | lt
  | leq
  | isIn
  deriving DecidableEq, Repr, Inhabited

/-- The word for an operator. -/
def Operator.word : Operator → String
  | eq => "eq"
  | neq => "neq"
  | gt => "gt"
  | geq => "geq"
  | lt => "lt"
  | leq => "leq"
  | isIn => "in"

/-- A condition on the attributes of a transfer. -/
inductive Constraint where
  /-- The attribute of a name compares with a value. -/
  | atomic (name : String) (op : Operator) (value : Json)
  /-- All of some constraints. -/
  | all (items : List Constraint)
  /-- At least one of some constraints. -/
  | any (items : List Constraint)
  /-- Exactly one of some constraints. -/
  | one (items : List Constraint)
  deriving Inhabited

namespace Constraint

mutual

/-- No blank name and no empty combination, at any depth. -/
def isWellFormed : Constraint → Bool
  | .atomic name _ _ => !Text.isBlankText name
  | .all items | .any items | .one items => !items.isEmpty && areWellFormed items

/-- Every one of some constraints is well formed. -/
def areWellFormed : List Constraint → Bool
  | [] => true
  | c :: rest => c.isWellFormed && areWellFormed rest

end

theorem areWellFormed_eq_all (cs : List Constraint) :
    areWellFormed cs = cs.all isWellFormed := by
  induction cs with
  | nil => simp [areWellFormed]
  | cons c rest ih => simp [areWellFormed, ih]

end Constraint

/-- An action and the constraints on it. -/
structure Rule where
  action : String
  constraints : List Constraint
  deriving Inhabited

namespace Rule

/-- The action that covers every other. -/
def anyAction : String := "use"

/-- Whether a rule is about an action. -/
def appliesTo (r : Rule) (action : String) : Bool := r.action == anyAction || r.action == action

/-- No blank action, and well formed constraints. -/
def isWellFormed (r : Rule) : Bool :=
  !Text.isBlankText r.action && r.constraints.all Constraint.isWellFormed

end Rule

/-- A usage policy. -/
structure Policy where
  permissions : List Rule
  prohibitions : List Rule
  obligations : List Rule
  deriving Inhabited

/-- Every rule is well formed. -/
def Policy.isWellFormed (p : Policy) : Bool :=
  (p.permissions ++ p.prohibitions ++ p.obligations).all Rule.isWellFormed

/-- A policy document with the attributes to judge it by. -/
structure ResolvedPolicy where
  document : Json
  attributes : Table Json
  deriving Inhabited

end Connector
