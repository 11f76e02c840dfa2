import Connector.Table
import Connector.Yaml.Node

/-!
# Names of nodes

A node may be given a name, and an alias of that name stands for it.  Which node an alias stands for
shows only at the end of the document, so names are turned into numbers.  A name gets the number of
different names before it.  A name that is given again gets another number, and the next new name
gets that number too; of all nodes with a number, the one that begins last has it.  A node has its
number from its beginning on, so that an alias may stand within the node that it stands for.
-/

namespace Connector.Yaml

/-- A node that has a number, and how many named nodes began before it. -/
structure Holder where
  begun : Nat
  node : Node
  deriving Repr, Inhabited

/-- The place of a named node: its number, and how many named nodes began before it. -/
structure Place where
  number : Nat
  begun : Nat
  deriving DecidableEq, Repr, Inhabited

/-- The names of a document so far. -/
structure Names where
  /-- The number that each name was given last. -/
  numbers : Table Nat
  /-- By number, the node that has it. -/
  holders : Array Holder
  /-- How many named nodes began. -/
  begun : Nat
  deriving Repr, Inhabited

namespace Names

/-- No names. -/
def none : Names := ⟨[], #[], 0⟩

/-- The place of a node that begins with a name. -/
def place (n : Names) : Place := ⟨n.numbers.length, n.begun⟩

/-- The names once a node has begun with a name. -/
def enter (name : String) (n : Names) : Names :=
  let number := n.place.number
  let holder : Holder := ⟨n.begun, .absent⟩
  { numbers := n.numbers.put name number
    holders :=
      if number < n.holders.size then n.holders.setIfInBounds number holder
      else n.holders.push holder
    begun := n.begun + 1 }

/-- The names once the node of a place has ended. -/
def finish (p : Place) (node : Node) (n : Names) : Names :=
  match n.holders[p.number]? with
  | some h =>
      if h.begun = p.begun then
        { n with holders := n.holders.setIfInBounds p.number ⟨p.begun, node⟩ }
      else n
  | Option.none => n

/-- The node with a number. -/
def node? (n : Names) (number : Nat) : Option Node := n.holders[number]?.map (·.node)

end Names
end Connector.Yaml
