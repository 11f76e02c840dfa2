import Connector.Yaml.Scalar
import Connector.Yaml.Tag

/-!
# Nodes

A document is a tree of scalars, sequences and mappings.  The pairs of a mapping are kept in their
order, and a key may come twice.  Anywhere in the tree an alias may stand for a node that is written
elsewhere; it holds the number of that node.
-/

namespace Connector.Yaml

/-- A node of a document. -/
inductive Node where
  | scalar (tag : Option Tag) (style : Style) (text : String)
  | sequence (tag : Option Tag) (items : List Node)
  | mapping (tag : Option Tag) (pairs : List (Node × Node))
  | alias (number : Nat)
  deriving Repr, Inhabited

namespace Node

/-- A scalar that is not there. -/
def absent : Node := .scalar none .plain ""

mutual

/-- The number of parts that a tree is written with: one for a scalar or an alias, and for a
collection two besides its content. -/
def size : Node → Nat
  | .scalar .. => 1
  | .alias _ => 1
  | .sequence _ items => 2 + sizeOfItems items
  | .mapping _ pairs => 2 + sizeOfPairs pairs

/-- The number of parts of some nodes. -/
def sizeOfItems : List Node → Nat
  | [] => 0
  | item :: rest => item.size + sizeOfItems rest

/-- The number of parts of some pairs. -/
def sizeOfPairs : List (Node × Node) → Nat
  | [] => 0
  | (key, value) :: rest => key.size + value.size + sizeOfPairs rest

end

end Node
end Connector.Yaml
