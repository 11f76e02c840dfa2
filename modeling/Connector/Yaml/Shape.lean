import Connector.Yaml.Document
import Connector.Yaml.Printer

/-!
# Documents of a shape

What a tree stands for depends on what is expected of it: a plain `5` is text where text is
expected, and a number where anything may stand.  A shape tells what is expected; a tree of that
shape stands for a JSON document.  Where a collection is expected, a scalar that is left out is an
empty one.  Fields that are not expected are left aside, but none that is may come twice.  A
document is written with the fields of its records in the order of the shape.

An alias is followed where its node is needed, and not in what is left aside.  A few aliases can
spell a tree far greater than the text, or one without end; so a document is refused when aliases
are followed more often than a hundred times for each part that it is written with.
-/

namespace Connector.Yaml

/-- What is expected of a tree. -/
inductive Shape where
  | any
  | text
  | count
  /-- One of some names, which may also be given as a tag. -/
  | name
  | orNull (s : Shape)
  | list (s : Shape)
  | table (s : Shape)
  | record (fields : List (String × Shape))
  deriving Repr, Inhabited

/-- The shape under the choice of leaving something out, and whether there is that choice. -/
def Shape.core : Shape → Bool × Shape
  | .orNull s => (true, s.core.2)
  | s => (false, s)

namespace Node

/-- Whether a scalar was left out. -/
def isAbsent : Node → Bool
  | .scalar _ .plain text => text == ""
  | _ => false

/-- Whether a node stands for nothing; none if its tag says so and its text does not. -/
def isNull? : Node → Option Bool
  | .scalar none .plain text => some (Plain.isNull text)
  | .scalar (some .null) .plain text => if Plain.isNullWord text then some true else none
  | _ => some false

/-- The document of a scalar that may be of any kind, by its style. -/
def styledJson? (style : Style) (text : String) : Option Json :=
  if style == .plain then (Plain.ofText text).toJson? else some (.str text)

/-- The document of a scalar of any kind; a kind of the document's own has none. -/
def scalarJson? (tag : Option Tag) (style : Style) (text : String) : Option Json :=
  match tag with
  | none => styledJson? style text
  | some .nameless => styledJson? style text
  | some .boolean => (Plain.boolean? text).map .bool
  | some .whole => ((Plain.whole? text.toList).bind Plain.ofWhole).bind Plain.toJson?
  | some .real =>
      match Plain.endless? text with
      | some p => p.toJson?
      | none => (Plain.real? text.toList).map fun x => .num (.real x)
  | some .null => if Plain.isNullWord text then some .null else none
  | some .other => some (.str text)
  | some (.own _) => none

/-- Whether a tag names a kind of the document's own. -/
def isOwn : Option Tag → Bool
  | some (.own _) => true
  | _ => false

/-- The text of a scalar. -/
def text? : Node → Option String
  | .scalar _ _ text => some text
  | _ => none

/-- The name that a scalar gives, as its text or as its tag. -/
def name? : Node → Option String
  | .scalar (some (.own name)) style text =>
      if style == .plain && Plain.isNull text then some name else none
  | .scalar _ _ text => some text
  | _ => none

/-- The greatest depth of collections in a tree. -/
def depthLimit : Nat := 128

/-- A step of following a document, from the names that it has: how many aliases may still be
followed is kept. -/
abbrev FollowM := ReaderT Names (StateT Nat Option)

/-- The document is refused. -/
def refuse {α : Type} : FollowM α := fun _ _ => none

/-- The node that a node stands for. -/
def follow : Node → FollowM Node
  | .alias number => do
      match ← get with
      | 0 => refuse
      | left + 1 =>
          set left
          (← read).node? number
  | node => return node

/-- The fields of a record that are expected; none of them may come twice. -/
def fieldsOf (fields : List (String × Shape)) :
    List (Node × Node) → FollowM (List (String × Shape × Node))
  | [] => return []
  | (key, value) :: rest => do
      let name ← (← key.follow).text?
      let more ← fieldsOf fields rest
      match fields.find? fun f => f.1 == name with
      | none => return more
      | some (_, shape) =>
          if more.any fun f => f.1 == name then refuse else return (name, shape, value) :: more

/-- The document of a tree of a shape, with so many collections inside each other at most. -/
def conform : Nat → Shape → Node → FollowM Json
  | depth, shape, node => do
      let (nullable, shape) := shape.core
      let node ← node.follow
      let isNull ← if nullable then node.isNull? else some false
      if isNull then return .null
      match shape, node with
      | .any, .scalar tag style text => scalarJson? tag style text
      | .text, node => node.text?.map .str
      | .count, .scalar tag style text =>
          if style == .plain || (style == .literal && tag == some .whole) then
            (Plain.count? text).map .nat
          else refuse
      | .name, node => node.name?.map .str
      | shape, node =>
          match depth with
          | 0 => refuse
          | depth + 1 =>
              match shape, node with
              | .any, .sequence tag items =>
                  if isOwn tag then refuse else return .arr (← items.mapM (conform depth .any))
              | .any, .mapping tag pairs =>
                  if isOwn tag then refuse
                  else
                    let members ← pairs.mapM fun (k, v) => do
                      return (← (← k.follow).text?, ← conform depth .any v)
                    return Json.object members
              | .list s, .sequence _ items => return .arr (← items.mapM (conform depth s))
              | .table s, .mapping _ pairs =>
                  let members ← pairs.mapM fun (k, v) => do
                    return (← (← k.follow).text?, ← conform depth s v)
                  return Json.object members
              | .record fields, .mapping _ pairs =>
                  let found ← fieldsOf fields pairs
                  let members ← found.mapM fun (k, s, v) => do return (k, ← conform depth s v)
                  return Json.object members
              | .list _, node => if node.isAbsent then return .arr [] else refuse
              | .table _, node => if node.isAbsent then return .obj [] else refuse
              | .record _, node => if node.isAbsent then return .obj [] else refuse
              | _, _ => refuse

end Node

namespace Document

/-- How many aliases may be followed in a document. -/
def followLimit (d : Document) : Nat := 100 * d.root.size

/-- What a document stands for as one of a shape. -/
def json? (shape : Shape) (d : Document) : Option Json :=
  ((Node.conform Node.depthLimit shape d.root).run d.names |>.run d.followLimit).map (·.1)

/-- What a text of a shape stands for. -/
def read? (shape : Shape) (text : String) : Option Json :=
  (parse? text).bind (json? shape)

/-- A document with the members of its records in the order of their shape. -/
def arrange : Nat → Shape → Json → Json
  | 0, _, j => j
  | depth + 1, shape, j =>
      match shape.core.2, j with
      | .list s, .arr items => .arr (items.map (arrange depth s))
      | .record fields, .obj members =>
          .obj <| fields.filterMap fun (name, s) =>
            (Table.get? name members).map fun v => (name, arrange depth s v)
      | _, j => j

/-- The text of a document of a shape. -/
def print (shape : Shape) (j : Json) : String := Block.write (arrange Node.depthLimit shape j)

end Document
end Connector.Yaml
