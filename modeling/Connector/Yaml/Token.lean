import Connector.Yaml.Tag

/-!
# Tokens of a document

A text becomes tokens in which indentation is spelled out: a block collection has a token where it
begins and one where it ends.  That something is a key shows only at the colon after it, so the
places at which a key may have begun are kept, one for each level of brackets, and the tokens for
the key are put in there.  A key fits on one line and is at most 1024 characters long.
-/

namespace Connector.Yaml

/-- The parts a text is made of. -/
inductive Token where
  | version (major minor : Nat)
  | tagHandle (handle : String) (stem : List UInt8)
  | documentStart
  | documentEnd
  | blockSequence
  | blockMapping
  | blockEnd
  | flowSequence
  | flowSequenceEnd
  | flowMapping
  | flowMappingEnd
  | blockEntry
  | flowEntry
  | key
  | value
  | alias (name : String)
  | anchor (name : String)
  | tag (handle : String) (suffix : List UInt8)
  | scalar (style : Style) (text : String)
  deriving DecidableEq, Repr, Inhabited

/-- A place where a key may have begun. -/
structure PossibleKey where
  /-- Whether nothing but a key may stand there. -/
  isRequired : Bool
  /-- The number of tokens before it. -/
  position : Nat
  start : Cursor
  deriving Inhabited

/-- The state of a scan. -/
structure Scan where
  cursor : Cursor
  /-- The tokens so far, the last one first. -/
  tokens : List Token
  count : Nat
  /-- The column of the innermost block collection; -1 outside of any. -/
  indent : Int
  /-- The columns of those around it. -/
  indents : List Int
  /-- Where a key may have begun, for the innermost brackets first; the last is for no brackets. -/
  keys : List (Option PossibleKey)
  keyAllowed : Bool
  deriving Inhabited

/-- A step of a scan. -/
abbrev ScanM := StateT Scan Option

namespace ScanM

/-- The text is refused. -/
def refuse {α : Type} : ScanM α := fun _ => none

/-- Whether the scan is inside brackets. -/
def inFlow : ScanM Bool := return decide (1 < (← get).keys.length)

/-- Adds a token. -/
def emit (t : Token) : ScanM Unit :=
  modify fun s => { s with tokens := t :: s.tokens, count := s.count + 1 }

/-- Puts a token in after the first so many. -/
def insert (position : Nat) (t : Token) : ScanM Unit :=
  modify fun s =>
    let after := s.count - position
    { s with tokens := s.tokens.take after ++ t :: s.tokens.drop after, count := s.count + 1 }

/-- Moves on. -/
def moveTo (c : Cursor) : ScanM Unit := modify fun s => { s with cursor := c }

/-- Adds a token of some characters. -/
def emitMark (t : Token) (width : Nat) : ScanM Unit := do
  moveTo ((← get).cursor.advanceBy width)
  emit t

/-- Says whether a key may begin from here on. -/
def allowKey (b : Bool) : ScanM Unit := modify fun s => { s with keyAllowed := b }

/-- The place where a key of these brackets may have begun is given up. -/
def dropKey : ScanM Unit := do
  let s ← get
  match s.keys with
  | some k :: rest => if k.isRequired then refuse else set { s with keys := none :: rest }
  | _ => pure ()

/-- A key may begin here. -/
def saveKey : ScanM Unit := do
  if (← get).keyAllowed then
    dropKey
    let s ← get
    let required := !(← inFlow) && s.indent == (s.cursor.column : Int)
    set { s with keys := some ⟨required, s.count, s.cursor⟩ :: s.keys.tail }

/-- The places that are too far behind for a key, on an earlier line or more than 1024 characters
back, are given up. -/
def dropStaleKeys : ScanM Unit := do
  let s ← get
  let isStale (k : PossibleKey) : Bool :=
    decide (k.start.line < s.cursor.line) || decide (k.start.index + 1024 < s.cursor.index)
  if s.keys.any fun k => k.any fun k => isStale k && k.isRequired then refuse
  else set { s with keys := s.keys.map (Option.filter fun k => !isStale k) }

/-- A block collection begins at a column, if that is further in; its token goes to a position. -/
def rollIndent (column : Nat) (position : Nat) (t : Token) : ScanM Unit := do
  let s ← get
  if !(← inFlow) && decide (s.indent < column) then
    set { s with indent := column, indents := s.indent :: s.indents }
    insert position t

/-- The block collections further in than a column end. -/
def unrollTo (column : Int) : Nat → ScanM Unit
  | 0 => pure ()
  | n + 1 => do
      let s ← get
      if s.indent > column then
        emit .blockEnd
        modify fun s => { s with indent := s.indents.headD (-1), indents := s.indents.tail }
        unrollTo column n

/-- The block collections further in than a column end, outside of brackets. -/
def unroll (column : Int) : ScanM Unit := do
  if !(← inFlow) then unrollTo column ((← get).indents.length + 1)

/-- Goes past blanks, comments and the ends of lines. -/
def skipToToken : Nat → ScanM Unit
  | 0 => pure ()
  | n + 1 => do
      let s ← get
      let flow ← inFlow
      let c := s.cursor.skipSpaces (flow || !s.keyAllowed) (s.cursor.size + 1)
      let c := if c.peek == some '#' then c.toLineEnd (c.size + 1) else c
      moveTo c
      if c.atBreak then
        moveTo c.lineBreak.2
        if !flow then allowKey true
        skipToToken n

/-- Letters of names. -/
def isNameLetter (c : Char) : Bool := c.isAlphanum || c == '-' || c == '_'

/-- Ends all that a new document ends. -/
def closeBlocks : ScanM Unit := do
  unroll (-1)
  dropKey
  allowKey false

/-- Brackets open. -/
def openFlow (t : Token) : ScanM Unit := do
  saveKey
  modify fun s => { s with keys := none :: s.keys, keyAllowed := true }
  emitMark t 1

/-- Brackets close. -/
def closeFlow (t : Token) : ScanM Unit := do
  dropKey
  if ← inFlow then modify fun s => { s with keys := s.keys.tail }
  allowKey false
  emitMark t 1

/-- An item in brackets ends. -/
def flowEntry : ScanM Unit := do
  dropKey
  allowKey true
  emitMark .flowEntry 1

/-- An item of a block sequence begins. -/
def blockEntry : ScanM Unit := do
  let s ← get
  if !(← inFlow) then
    if !s.keyAllowed then refuse
    rollIndent s.cursor.column s.count .blockSequence
  dropKey
  allowKey true
  emitMark .blockEntry 1

/-- A key begins that is marked as one. -/
def markedKey : ScanM Unit := do
  let s ← get
  let flow ← inFlow
  if !flow then
    if !s.keyAllowed then refuse
    rollIndent s.cursor.column s.count .blockMapping
  dropKey
  allowKey (!flow)
  emitMark .key 1

/-- A value begins; what stands before it was the key. -/
def value : ScanM Unit := do
  let s ← get
  match s.keys with
  | some k :: rest =>
      insert k.position .key
      rollIndent k.start.column k.position .blockMapping
      modify fun s => { s with keys := none :: rest, keyAllowed := false }
  | _ =>
      let flow ← inFlow
      if !flow then
        if !s.keyAllowed then refuse
        rollIndent s.cursor.column s.count .blockMapping
      allowKey (!flow)
  emitMark .value 1

/-- The name behind the mark of an anchor or an alias. -/
def name : ScanM String := do
  let (letters, c) := (← get).cursor.advance.takeWhile isNameLetter
  let ends := c.atWordEnd || c.peek.any fun x => ['?', ':', ',', ']', '}', '%', '@', '`'].contains x
  if letters.isEmpty || !ends then refuse
  moveTo c
  return String.ofList letters

/-- Characters of tags; the flag tells one that is written out in full. -/
def isTagLetter (isFull : Bool) (c : Char) : Bool :=
  isNameLetter c || ";/?:@&=+$.!~*'()%".toList.contains c || (isFull && [',', '[', ']'].contains c)

/-- The bytes that letters and escapes of a tag spell. -/
def tagBytes (letters : List Char) : ScanM (List UInt8) := do
  match Tag.bytes? letters with
  | some bytes => return bytes
  | none => refuse

/-- The handle and the suffix of a tag. -/
def tagParts : ScanM (String × List UInt8) := do
  let c := (← get).cursor
  if c.peekAt 1 == some '<' then
    let (uri, c) := (c.advanceBy 2).takeWhile (isTagLetter true)
    if uri.isEmpty || c.peek != some '>' then refuse
    moveTo c.advance
    return ("", ← tagBytes uri)
  else
    let (letters, d) := c.advance.takeWhile isNameLetter
    if d.peek == some '!' then
      let (suffix, d) := d.advance.takeWhile (isTagLetter false)
      if suffix.isEmpty then refuse
      moveTo d
      return (String.ofList ('!' :: letters ++ ['!']), ← tagBytes suffix)
    else
      let (more, d) := d.takeWhile (isTagLetter false)
      moveTo d
      let suffix ← tagBytes (letters ++ more)
      return if suffix.isEmpty then ("", Tag.bytesOf "!") else ("!", suffix)

/-- A tag. -/
def tag : ScanM Unit := do
  let (handle, suffix) ← tagParts
  let c := (← get).cursor
  if !(c.atWordEnd || ((← inFlow) && c.peek == some ',')) then refuse
  emit (.tag handle suffix)

/-- A number of a version. -/
def versionNumber (c : Cursor) : ScanM (Nat × Cursor) := do
  let (digits, c) := c.takeWhile Char.isDigit
  if digits.isEmpty || decide (9 < digits.length) then refuse
  return (Json.Reader.digitsValue digits, c)

/-- A line that says something about the documents. -/
def directive : ScanM Unit := do
  closeBlocks
  let (letters, c) := (← get).cursor.advance.takeWhile isNameLetter
  if !c.atWordEnd then refuse
  let c := c.skipSpaces true (c.size + 1)
  let c ← match String.ofList letters with
    | "YAML" => do
        let (major, c) ← versionNumber c
        if c.peek != some '.' then refuse
        let (minor, c) ← versionNumber c.advance
        emit (.version major minor)
        pure c
    | "TAG" => do
        let (letters, d) := c.advance.takeWhile isNameLetter
        if c.peek != some '!' || (d.peek != some '!' && !letters.isEmpty) then refuse
        let handle := '!' :: letters ++ (if d.peek == some '!' then ['!'] else [])
        let d := if d.peek == some '!' then d.advance else d
        if !d.atGap then refuse
        let (stem, d) := (d.skipSpaces true (d.size + 1)).takeWhile (isTagLetter true)
        if stem.isEmpty || !d.atWordEnd then refuse
        emit (.tagHandle (String.ofList handle) (← tagBytes stem))
        pure d
    | _ => refuse
  let c := c.skipSpaces true (c.size + 1)
  let c := if c.peek == some '#' then c.toLineEnd (c.size + 1) else c
  if !(c.atBreak || c.peek.isNone) then refuse
  moveTo (if c.atBreak then c.lineBreak.2 else c)

/-- A quoted scalar. -/
def quoted (style : Style) : ScanM Unit := do
  saveKey
  allowKey false
  let c := (← get).cursor.advance
  match quotedText (style == .single) (c.size + 1) [] c with
  | some (text, c) =>
      moveTo c
      emit (.scalar style (String.ofList text.reverse))
  | none => refuse

/-- A plain scalar. -/
def plain : ScanM Unit := do
  saveKey
  allowKey false
  let s ← get
  match plainText (← inFlow) (s.indent + 1).toNat (s.cursor.size + 1) [] .none s.cursor with
  | some (text, isBroken, c) =>
      moveTo c
      if isBroken then allowKey true
      emit (.scalar .plain (String.ofList text.reverse))
  | none => refuse

/-- A block of lines. -/
def block (style : Style) : ScanM Unit := do
  dropKey
  allowKey true
  let s ← get
  match blockText (style == .literal) s.indent s.cursor.advance with
  | some (text, c) =>
      moveTo c
      emit (.scalar style (String.ofList text))
  | none => refuse

/-- Marks that begin no plain scalar. -/
def isIndicator (c : Char) : Bool := "-?:,[]{}#&*!|>'\"%@`".toList.contains c

/-- Whether a plain scalar begins here. -/
def atPlain (flow : Bool) (c : Cursor) : Bool :=
  match c.peek with
  | none => false
  | some x =>
      !(isGap x || isBreak x || isIndicator x)
        || (x == '-' && !(c.peekAt 1).any isGap)
        || (!flow && (x == '?' || x == ':') && !endsWord (c.peekAt 1))

/-- The next token, which begins with a character. -/
def tokenAt (x : Char) : ScanM Unit := do
  let c := (← get).cursor
  let flow ← inFlow
  let ends := endsWord (c.peekAt 1)
  if c.column == 0 && x == '%' then directive
  else if c.atDocumentMark then do
    closeBlocks
    emitMark (if x == '-' then .documentStart else .documentEnd) 3
  else if x == '[' then openFlow .flowSequence
  else if x == '{' then openFlow .flowMapping
  else if x == ']' then closeFlow .flowSequenceEnd
  else if x == '}' then closeFlow .flowMappingEnd
  else if x == ',' then flowEntry
  else if x == '-' && ends then blockEntry
  else if x == '?' && (flow || ends) then markedKey
  else if x == ':' && (flow || ends) then value
  else if x == '*' || x == '&' then do
    saveKey
    allowKey false
    let name ← name
    emit (if x == '*' then .alias name else .anchor name)
  else if x == '!' then do
    saveKey
    allowKey false
    tag
  else if x == '|' && !flow then block .literal
  else if x == '>' && !flow then block .folded
  else if x == '\'' then quoted .single
  else if x == '"' then quoted .double
  else if atPlain flow c then plain
  else refuse

/-- All tokens from here on. -/
def tokens : Nat → ScanM Unit
  | 0 => pure ()
  | n + 1 => do
      let c := (← get).cursor
      skipToToken (c.size + 1)
      dropStaleKeys
      let c := (← get).cursor
      unroll c.column
      match c.peek with
      | none => do
          moveTo ⟨[], c.index, if c.column == 0 then c.line else c.line + 1, 0, c.size⟩
          closeBlocks
      | some x => do
          tokenAt x
          tokens n

end ScanM

/-- The start of a text, behind the mark that may tell its byte order; the mark takes a column. -/
def startOf (text : List Char) : Cursor :=
  let c := Cursor.start text
  if c.peek == some '\uFEFF' then c.advance else c

/-- The tokens of a text, unless it is malformed. -/
def Token.scan (text : String) : Option (List Token) :=
  let cs := text.toList
  if cs.all isAllowed then
    (ScanM.tokens (cs.length + 1) ⟨startOf cs, [], 0, -1, [], [none], true⟩).map
      fun r => r.2.tokens.reverse
  else none

end Connector.Yaml
