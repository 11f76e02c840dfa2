import Connector.Yaml.Names
import Connector.Yaml.Token

/-!
# Reading documents

A text holds at most one document: its tree, and the nodes that have names.  An empty text holds the
empty plain scalar.  An alias is read as the number that its name has there, and only a name that
was given before has one.
-/

namespace Connector.Yaml

/-- A tree, and the nodes that its aliases stand for. -/
structure Document where
  root : Node
  names : Names
  deriving Repr, Inhabited

/-- What is left to read: tokens, the names so far, and the meaning of tag handles. -/
structure Reading where
  tokens : List Token
  names : Names
  handles : List (String × List UInt8)
  deriving Inhabited

/-- A step of reading. -/
abbrev ReadM := StateT Reading Option

namespace ReadM

/-- The document is refused. -/
def refuse {α : Type} : ReadM α := fun _ => none

/-- The next token. -/
def peek : ReadM (Option Token) := return (← get).tokens.head?

/-- Goes past a token. -/
def skip : ReadM Unit := modify fun r => { r with tokens := r.tokens.tail }

/-- Goes past a token if it is the given one. -/
def accept (t : Token) : ReadM Bool := do
  if (← peek) == some t then
    skip
    return true
  else return false

/-- Whether the next token is one of some. -/
def isNext (ts : List Token) : ReadM Bool := return (← peek).any fun t => ts.contains t

/-- What the handle of a tag stands for. -/
def stemOf (handle : String) : ReadM (List UInt8) := do
  if handle == "" then return []
  match (← get).handles.find? fun h => h.1 == handle with
  | some h => return h.2
  | none =>
      if handle == "!" then return Tag.bytesOf "!"
      else if handle == "!!" then return Tag.bytesOf "tag:yaml.org,2002:"
      else refuse

/-- The name and the tag in front of a node. -/
def properties : Nat → Option String → Option Tag → ReadM (Option String × Option Tag)
  | 0, name, tag => return (name, tag)
  | n + 1, name, tag => do
      match ← peek with
      | some (.anchor a) =>
          if name.isSome then return (name, tag)
          else
            skip
            properties n (some a) tag
      | some (.tag handle suffix) =>
          if tag.isSome then return (name, tag)
          else
            skip
            properties n name (some (Tag.ofBytes ((← stemOf handle) ++ suffix)))
      | _ => return (name, tag)

/-- A node that begins with or without a name, by what reads it. -/
def named (name : Option String) (read : ReadM Node) : ReadM Node := do
  match name with
  | none => read
  | some name => do
      let place := (← get).names.place
      modify fun r => { r with names := r.names.enter name }
      let node ← read
      modify fun r => { r with names := r.names.finish place node }
      return node

/-- A scalar that is left out, where that is allowed. -/
def lacking (tag : Option Tag) (mayLack : Bool) : ReadM Node := do
  if mayLack then return .scalar tag .plain "" else refuse

mutual

/-- A node.  A block collection must be allowed, and so must a sequence that is not indented. -/
def node (inBlock unindented : Bool) : Nat → ReadM Node
  | 0 => refuse
  | n + 1 => do
      match ← peek with
      | some (.alias name) =>
          skip
          match (← get).names.numbers.get? name with
          | some number => return .alias number
          | none => refuse
      | _ =>
          let (name, tag) ← properties 2 none none
          named name <| content inBlock unindented (name.isSome || tag.isSome) tag n

/-- The content of a node with a tag; it may be left out where something was said about the node. -/
def content (inBlock unindented mayLack : Bool) (tag : Option Tag) : Nat → ReadM Node
  | 0 => refuse
  | n + 1 => do
      match ← peek with
      | some (.scalar style text) => do
          skip
          return .scalar tag style text
      | some .flowSequence => do
          skip
          return .sequence tag (← flowItems true n)
      | some .flowMapping => do
          skip
          return .mapping tag (← flowPairs true n)
      | some .blockEntry =>
          if unindented then return .sequence tag (← unindentedItems n) else lacking tag mayLack
      | some .blockSequence =>
          if inBlock then do
            skip
            return .sequence tag (← blockItems n)
          else lacking tag mayLack
      | some .blockMapping =>
          if inBlock then do
            skip
            return .mapping tag (← blockPairs n)
          else lacking tag mayLack
      | _ => lacking tag mayLack

/-- The items of a block sequence. -/
def blockItems : Nat → ReadM (List Node)
  | 0 => refuse
  | n + 1 => do
      if ← accept .blockEnd then return []
      else if ← accept .blockEntry then
        let item ← if ← isNext [.blockEntry, .blockEnd] then pure Node.absent else node true false n
        return item :: (← blockItems n)
      else refuse

/-- The items of a sequence that stands at the column of the mapping around it. -/
def unindentedItems : Nat → ReadM (List Node)
  | 0 => refuse
  | n + 1 => do
      if ← accept .blockEntry then
        let item ←
          if ← isNext [.blockEntry, .key, .value, .blockEnd] then pure Node.absent
          else node true false n
        return item :: (← unindentedItems n)
      else return []

/-- The pairs of a block mapping. -/
def blockPairs : Nat → ReadM (List (Node × Node))
  | 0 => refuse
  | n + 1 => do
      if ← accept .blockEnd then return []
      else
        let isValue ← isNext [.value]
        let isKey ← accept .key
        if !(isKey || isValue) then refuse
        let key ←
          if isValue || (← isNext [.key, .value, .blockEnd]) then pure Node.absent
          else node true true n
        let value ← if ← accept .value then
            if ← isNext [.key, .value, .blockEnd] then pure Node.absent else node true true n
          else pure Node.absent
        return (key, value) :: (← blockPairs n)

/-- The items of a sequence in brackets. -/
def flowItems (isFirst : Bool) : Nat → ReadM (List Node)
  | 0 => refuse
  | n + 1 => do
      if ← accept .flowSequenceEnd then return []
      else
        if !isFirst then
          if !(← accept .flowEntry) then refuse
        if ← accept .flowSequenceEnd then return []
        else
          let item ← if ← accept .key then do
              let key ←
                if ← isNext [.value, .flowEntry, .flowSequenceEnd] then pure Node.absent
                else node false false n
              let value ← if ← accept .value then
                  if ← isNext [.flowEntry, .flowSequenceEnd] then pure Node.absent
                  else node false false n
                else pure Node.absent
              pure (Node.mapping none [(key, value)])
            else node false false n
          return item :: (← flowItems false n)

/-- The pairs of a mapping in brackets. -/
def flowPairs (isFirst : Bool) : Nat → ReadM (List (Node × Node))
  | 0 => refuse
  | n + 1 => do
      if ← accept .flowMappingEnd then return []
      else
        if !isFirst then
          if !(← accept .flowEntry) then refuse
        if ← accept .flowMappingEnd then return []
        else
          let pair ← if ← accept .key then do
              let key ←
                if ← isNext [.value, .flowEntry, .flowMappingEnd] then pure Node.absent
                else node false false n
              let value ← if ← accept .value then
                  if ← isNext [.flowEntry, .flowMappingEnd] then pure Node.absent
                  else node false false n
                else pure Node.absent
              pure (key, value)
            else do pure (← node false false n, .absent)
          return pair :: (← flowPairs false n)

end

/-- What is said about a document in front of it; the flag tells that a version was given. -/
def directives (hasVersion : Bool) : Nat → ReadM Unit
  | 0 => refuse
  | n + 1 => do
      match ← peek with
      | some (.version major minor) =>
          if hasVersion || major != 1 || !(minor == 1 || minor == 2) then refuse
          skip
          directives true n
      | some (.tagHandle handle stem) =>
          if (← get).handles.any fun h => h.1 == handle then refuse
          skip
          modify fun r => { r with handles := (handle, stem) :: r.handles }
          directives hasVersion n
      | _ => pure ()

/-- Goes past the ends of a document. -/
def documentEnds : Nat → ReadM Unit
  | 0 => pure ()
  | n + 1 => do if ← accept .documentEnd then documentEnds n

/-- The only document. -/
def document (size : Nat) : ReadM Node := do
  let root ← match ← peek with
    | none => pure Node.absent
    | some _ => do
        let isMarked ← isNext [.documentStart]
        let before := (← get).tokens.length
        directives false (size + 1)
        let hasDirectives := (← get).tokens.length != before
        if isMarked || hasDirectives then
          if !(← accept .documentStart) then refuse
          if (← peek).isNone || (← isNext [.documentStart, .documentEnd]) then pure Node.absent
          else node true false (3 * size + 3)
        else node true false (3 * size + 3)
  documentEnds (size + 1)
  if (← peek).isSome then refuse
  return root

end ReadM

/-- The document that a text holds. -/
def Document.parse? (text : String) : Option Document := do
  let tokens ← Token.scan text
  let (root, r) ← (ReadM.document tokens.length).run ⟨tokens, .none, []⟩
  return ⟨root, r.names⟩

end Connector.Yaml
