import Connector.Json.Decode
import Connector.Policy.Basic

/-!
# Policy documents

A constraint has no tag: it is an atomic one if the document has the three members of one, else
the first combination whose member it has.
-/

namespace Connector

/-- The operators by their words. -/
def Operator.cases : List (String × Operator) :=
  [("eq", .eq), ("neq", .neq), ("gt", .gt), ("geq", .geq), ("lt", .lt), ("leq", .leq),
   ("in", .isIn)]

/-- The operator of a document.  It is read in place, where nothing but null stands for nothing. -/
def Operator.ofJson? (j : Json) : Option Operator := (Decoder.oneOf cases false j).toOption

namespace Constraint

/-- The atomic constraint of three members. -/
def atomic? (name op value : Option Json) : Option Constraint := do
  let name ← Json.text? (← name)
  let op ← Operator.ofJson? (← op)
  return .atomic name op (← value)

mutual

/-- The constraint that a document stands for. -/
def ofJson? : Json → Option Constraint
  | .obj members =>
      (atomic? (Table.get? "leftOperand" members) (Table.get? "operator" members)
          (Table.get? "rightOperand" members)).or
        (((groupUnder "and" members).map .all).or
          (((groupUnder "or" members).map .any).or ((groupUnder "xone" members).map .one)))
  | _ => none

/-- The constraints under a name. -/
def groupUnder (name : String) : List (String × Json) → Option (List Constraint)
  | [] => none
  | (k, v) :: rest => if k = name then groupOf v else groupUnder name rest

/-- The constraints of an array. -/
def groupOf : Json → Option (List Constraint)
  | .arr items => listOf items
  | _ => none

/-- Every constraint of some documents. -/
def listOf : List Json → Option (List Constraint)
  | [] => some []
  | j :: rest => do
      let c ← ofJson? j
      let more ← listOf rest
      return c :: more

end

/-- A combination as a document. -/
def groupJson (word : String) (items : List Json) : Json := .object [(word, .arr items)]

mutual

/-- A constraint as a document. -/
def toJson : Constraint → Json
  | .atomic name op value =>
      .object [("leftOperand", .str name), ("operator", .str op.word), ("rightOperand", value)]
  | .all items => groupJson "and" (toJsonList items)
  | .any items => groupJson "or" (toJsonList items)
  | .one items => groupJson "xone" (toJsonList items)

/-- Some constraints as documents. -/
def toJsonList : List Constraint → List Json
  | [] => []
  | c :: rest => c.toJson :: toJsonList rest

end

/-- A constraint of a document. -/
def decoder : Decoder Constraint := fun _ j =>
  match ofJson? j with
  | some c => .ok c
  | none => .error (.noCase "Constraint")

end Constraint

namespace Rule

/-- A rule of a document. -/
def decoder : Decoder Rule :=
  .record "Rule"
    (Rule.mk <$> .required "action" .string
      <*> .withDefault "constraints" [] (.list Constraint.decoder))

/-- A rule as a document. -/
def toJson (r : Rule) : Json :=
  .object [("action", .str r.action), ("constraints", .arr (Constraint.toJsonList r.constraints))]

end Rule

namespace Policy

/-- A policy of a document, well formed or not. -/
def decoder : Decoder Policy :=
  .record "Policy"
    (Policy.mk <$> .withDefault "permissions" [] (.list Rule.decoder)
      <*> .withDefault "prohibitions" [] (.list Rule.decoder)
      <*> .withDefault "obligations" [] (.list Rule.decoder))

/-- A policy as a document. -/
def toJson (p : Policy) : Json :=
  .object [("permissions", .arr (p.permissions.map Rule.toJson)),
    ("prohibitions", .arr (p.prohibitions.map Rule.toJson)),
    ("obligations", .arr (p.obligations.map Rule.toJson))]

/-- The well formed policy that a document stands for. -/
def parse? (document : Json) : Option Policy :=
  match decoder.run document with
  | .ok p => if p.isWellFormed then some p else none
  | .error _ => none

end Policy

namespace ResolvedPolicy

/-- A policy with its attributes, of a document. -/
def decoder : Decoder ResolvedPolicy :=
  .record "ResolvedPolicy"
    (ResolvedPolicy.mk <$> .required "policy" .document
      <*> .withDefault "attributes" [] (.table .document))

/-- A policy with its attributes, as a document. -/
def toJson (r : ResolvedPolicy) : Json :=
  .object [("policy", r.document), ("attributes", .obj r.attributes)]

end ResolvedPolicy
end Connector
