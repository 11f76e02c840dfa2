import Connector.Json.Reader
import Connector.Yaml.Cursor

/-!
# Reading scalars

A scalar is written plain, in one of two kinds of quotes, or as a block of lines.  In plain and
quoted scalars a single line break is a space, and one less of several is kept; in a block the
lines are kept or folded, and the last line breaks are kept, clipped to one, or dropped.
-/

namespace Connector.Yaml

/-- How a scalar is written. -/
inductive Style where
  | plain
  | single
  | double
  | literal
  | folded
  deriving DecidableEq, Repr, Inhabited

/-- What stands between two words of a plain or quoted scalar. -/
structure Gap where
  /-- The blanks, as long as no line has ended. -/
  blanks : List Char
  /-- Whether a line has ended. -/
  isBroken : Bool
  /-- The first end of a line. -/
  first : List Char
  /-- The later ones. -/
  later : List Char
  deriving Inhabited

namespace Gap

/-- Nothing between two words. -/
def none : Gap := ⟨[], false, [], []⟩

/-- The text a gap stands for. -/
def text (g : Gap) : List Char :=
  if !g.isBroken then g.blanks
  else if g.first == ['\n'] then (if g.later.isEmpty then [' '] else g.later)
  else g.first ++ g.later

/-- Reads a gap.  In a plain scalar no tab may stand before the column at which it goes on. -/
def read (column : Nat) : Nat → Gap → Cursor → Option (Gap × Cursor)
  | 0, g, c => some (g, c)
  | n + 1, g, c =>
      match c.peek with
      | Option.none => some (g, c)
      | some x =>
          if isGap x then
            if g.isBroken && decide (c.column < column) && x == '\t' then Option.none
            else
              let g := if g.isBroken then g else { g with blanks := g.blanks ++ [x] }
              read column n g c.advance
          else if isBreak x then
            let (b, c) := c.lineBreak
            if g.isBroken then read column n { g with later := g.later ++ b } c
            else read column n ⟨[], true, b, []⟩ c
          else some (g, c)

end Gap

/-- Whether a character ends a plain scalar inside brackets. -/
def isFlowMark (c : Char) : Bool := [',', '[', ']', '{', '}'].contains c

/-- The characters of a plain scalar up to the next gap or the end of it. -/
def plainWord (inFlow : Bool) : Nat → List Char → Cursor → Option (List Char × Cursor)
  | 0, acc, c => some (acc.reverse, c)
  | n + 1, acc, c =>
      match c.peek with
      | none => some (acc.reverse, c)
      | some x =>
          if isGap x || isBreak x then some (acc.reverse, c)
          else if x == ':' && inFlow && (c.peekAt 1).any (fun y => isFlowMark y || y == '?') then
            none
          else if (x == ':' && endsWord (c.peekAt 1)) || (inFlow && isFlowMark x) then
            some (acc.reverse, c)
          else plainWord inFlow n (x :: acc) c.advance

/-- A plain scalar that goes on at a column: its characters, the last one first, whether a line
ended after it, and the cursor after it. -/
def plainText (inFlow : Bool) (column : Nat) :
    Nat → List Char → Gap → Cursor → Option (List Char × Bool × Cursor)
  | 0, text, g, c => some (text, g.isBroken, c)
  | n + 1, text, g, c => do
      if c.atDocumentMark || c.peek == some '#' then return (text, g.isBroken, c)
      let (word, c) ← plainWord inFlow (c.size + 1) [] c
      if word.isEmpty then return (text, g.isBroken, c)
      let text := (g.text ++ word).reverseAux text
      if !(c.atGap || c.atBreak) then return (text, false, c)
      let (g, c) ← Gap.read column (c.size + 1) .none c
      if !inFlow && decide (c.column < column) then return (text, g.isBroken, c)
      plainText inFlow column n text g c

/-- The character of an escape of one letter. -/
def escaped? : Char → Option Char
  | '0' => some (Char.ofNat 0)
  | 'a' => some (Char.ofNat 7)
  | 'b' => some (Char.ofNat 8)
  | 't' => some '\t'
  | '\t' => some '\t'
  | 'n' => some '\n'
  | 'v' => some (Char.ofNat 11)
  | 'f' => some (Char.ofNat 12)
  | 'r' => some '\r'
  | 'e' => some (Char.ofNat 27)
  | ' ' => some ' '
  | '"' => some '"'
  | '/' => some '/'
  | '\\' => some '\\'
  | 'N' => some '\u0085'
  | '_' => some (Char.ofNat 0xA0)
  | 'L' => some '\u2028'
  | 'P' => some '\u2029'
  | _ => none

/-- The number of digits of an escape by code. -/
def codeWidth? : Char → Option Nat
  | 'x' => some 2
  | 'u' => some 4
  | 'U' => some 8
  | _ => none

/-- The value of some hexadecimal digits. -/
def hexNumber (ds : List Char) : Option Nat :=
  ds.foldlM (fun n d => (Json.Reader.hexValue? d).map fun v => n * 16 + v) 0

/-- The character of a code. -/
def charOf? (n : Nat) : Option Char :=
  if (0xD800 ≤ n ∧ n ≤ 0xDFFF) ∨ 0x10FFFF < n then none else some (Char.ofNat n)

/-- The escape behind a backslash. -/
def escape (c : Cursor) : Option (Char × Cursor) := do
  let x ← c.peek
  match escaped? x with
  | some y => return (y, c.advance)
  | none =>
      let width ← codeWidth? x
      let digits := c.advance.rest.take width
      if digits.length < width then none
      else return (← charOf? (← hexNumber digits), c.advanceBy (width + 1))

/-- The characters of a quoted scalar up to the next gap or its closing quote; the flag tells that
an escaped end of a line was gone past. -/
def quotedWord (isSingle : Bool) :
    Nat → List Char → Cursor → Option (List Char × Bool × Cursor)
  | 0, _, _ => none
  | n + 1, acc, c =>
      match c.peek with
      | none => some (acc.reverse, false, c)
      | some x =>
          if isGap x || isBreak x then some (acc.reverse, false, c)
          else if isSingle then
            if x == '\'' then
              if c.peekAt 1 == some '\'' then quotedWord isSingle n ('\'' :: acc) (c.advanceBy 2)
              else some (acc.reverse, false, c)
            else quotedWord isSingle n (x :: acc) c.advance
          else if x == '"' then some (acc.reverse, false, c)
          else if x == '\\' then
            if (c.peekAt 1).any isBreak then some (acc.reverse, true, c.advance.lineBreak.2)
            else
              match escape c.advance with
              | some (y, c) => quotedWord isSingle n (y :: acc) c
              | none => none
          else quotedWord isSingle n (x :: acc) c.advance

/-- A quoted scalar from its first character on, the last character first, and the cursor after its
closing quote. -/
def quotedText (isSingle : Bool) : Nat → List Char → Cursor → Option (List Char × Cursor)
  | 0, _, _ => none
  | n + 1, text, c => do
      if c.atDocumentMark || c.peek.isNone then none
      else
        let (word, escapedBreak, c) ← quotedWord isSingle (c.size + 1) [] c
        let text := word.reverseAux text
        if c.peek == some (if isSingle then '\'' else '"') then return (text, c.advance)
        else
          let g : Gap := if escapedBreak then ⟨[], true, ['\n'], []⟩ else .none
          let (g, c) ← Gap.read 0 (c.size + 1) g c
          -- An escaped end of a line stands for nothing; only later ones count.
          let gapText := if escapedBreak then g.later else g.text
          quotedText isSingle n (gapText.reverseAux text) c

/-- What becomes of the line breaks at the end of a block. -/
inductive Chomping where
  | strip
  | clip
  | keep
  deriving DecidableEq, Repr, Inhabited

/-- The chomping of an indicator. -/
def Chomping.ofMark? : Char → Option Chomping
  | '+' => some .keep
  | '-' => some .strip
  | _ => none

/-- The indentation of an indicator; zero is none. -/
def indentOf? (c : Char) : Option Nat := if c.isDigit then some (c.toNat - 48) else none

/-- What the first line of a block says: chomping, the indentation if it is given, and the cursor
after it. -/
def blockHeader (c : Cursor) : Option (Chomping × Option Nat × Cursor) := do
  let (chomping, c) := match c.peek.bind Chomping.ofMark? with
    | some k => (some k, c.advance)
    | none => (none, c)
  let (indent, c) ← match c.peek.bind indentOf? with
    | some 0 => none
    | some n => some (some n, c.advance)
    | none => some (none, c)
  let (chomping, c) := match chomping, indent, c.peek.bind Chomping.ofMark? with
    | none, some _, some k => (some k, c.advance)
    | k, _, _ => (k, c)
  let c := c.skipSpaces true (c.size + 1)
  let c := if c.peek == some '#' then c.toLineEnd (c.size + 1) else c
  if c.atBreak then return (chomping.getD .clip, indent, c.lineBreak.2)
  else if c.peek.isNone then return (chomping.getD .clip, indent, c)
  else none

/-- The empty lines before a line of a block that is indented by so much, or by an amount not
known yet; gives the line breaks, the greatest indentation seen and the cursor. -/
def blockBreaks (indent : Option Nat) :
    Nat → Nat → List Char → Cursor → Option (List Char × Nat × Cursor)
  | 0, most, breaks, c => some (breaks, most, c)
  | n + 1, most, breaks, c =>
      match c.peek with
      | none => some (breaks, max most c.column, c)
      | some x =>
          let before := indent.all fun i => decide (c.column < i)
          if before && x == ' ' then blockBreaks indent n most breaks c.advance
          else if before && x == '\t' then none
          else if isBreak x then
            let most := max most c.column
            let (b, c) := c.lineBreak
            blockBreaks indent n most (breaks ++ b) c
          else some (breaks, max most c.column, c)

/-- The lines of a block that is indented by so much, the last character first.  `last` is the end
of the line before, and `breaks` are the empty lines after it. -/
def blockLines (isLiteral : Bool) (indent : Nat) : Nat → List Char → List Char → List Char → Bool →
    Cursor → Option (List Char × List Char × List Char × Cursor)
  | 0, text, last, breaks, _, c => some (text, last, breaks, c)
  | n + 1, text, last, breaks, leading, c => do
      if c.column != indent || c.peek.isNone then return (text, last, breaks, c)
      let trailing := c.atGap
      let text :=
        if !isLiteral && last == ['\n'] && !leading && !trailing then
          (if breaks.isEmpty then [' '] else breaks).reverseAux text
        else (last ++ breaks).reverseAux text
      let (line, c) := c.takeWhile fun x => !isBreak x
      let (last, c) := c.lineBreak
      let (breaks, _, c) ← blockBreaks (some indent) (c.size + 1) 0 [] c
      blockLines isLiteral indent n (line.reverseAux text) last breaks trailing c

/-- A block of lines from its header on, inside a collection at a column, and the cursor after
it. -/
def blockText (isLiteral : Bool) (parent : Int) (c : Cursor) : Option (List Char × Cursor) := do
  let (chomping, given, c) ← blockHeader c
  let known := given.map fun n => if parent ≥ 0 then parent.toNat + n else n
  let (breaks, most, c) ← blockBreaks known (c.size + 1) 0 [] c
  let indent := known.getD (max (max most (parent + 1).toNat) 1)
  let (text, last, breaks, c) ← blockLines isLiteral indent (c.size + 1) [] [] breaks false c
  let ending := match chomping with
    | .strip => []
    | .clip => last
    | .keep => last ++ breaks
  return (text.reverse ++ ending, c)

end Connector.Yaml
