import Connector.Text.Blank

/-!
# Places in a text of lines

The rest of a text together with the place it begins at: the index of its first character, its
line and its column.  A line ends with a line feed, a carriage return, both of them, a next-line
mark, or one of the two Unicode separators.
-/

namespace Connector.Yaml

/-- Whether a character separates words. -/
def isGap (c : Char) : Bool := c == ' ' || c == '\t'

/-- Whether a character ends a line. -/
def isBreak (c : Char) : Bool :=
  c == '\n' || c == '\r' || c == '\u0085' || c == '\u2028' || c == '\u2029'

/-- Whether a character, or the end of the text, ends a word. -/
def endsWord : Option Char → Bool
  | none => true
  | some c => isGap c || isBreak c

/-- Whether a text may hold a character at all. -/
def isAllowed (c : Char) : Bool :=
  let n := c.toNat
  n == 9 || n == 10 || n == 13 || (decide (32 ≤ n) && decide (n ≤ 126)) || n == 0x85
    || (decide (0xA0 ≤ n) && decide (n ≤ 0xFFFD)) || decide (0x10000 ≤ n)

/-- The rest of a text and where it begins. -/
structure Cursor where
  rest : List Char
  index : Nat
  line : Nat
  column : Nat
  /-- The number of characters of the whole text, which bounds every loop over them. -/
  size : Nat
  deriving Repr, Inhabited

namespace Cursor

/-- The start of a text. -/
def start (text : List Char) : Cursor := ⟨text, 0, 0, 0, text.length⟩

/-- The next character. -/
def peek (c : Cursor) : Option Char := c.rest.head?

/-- The character after so many. -/
def peekAt (c : Cursor) (n : Nat) : Option Char := c.rest[n]?

/-- The cursor after one character within a line. -/
def advance (c : Cursor) : Cursor :=
  match c.rest with
  | [] => c
  | _ :: rest => ⟨rest, c.index + 1, c.line, c.column + 1, c.size⟩

/-- The cursor after some characters within a line. -/
def advanceBy : Nat → Cursor → Cursor
  | 0, c => c
  | n + 1, c => advanceBy n c.advance

/-- The end of a line as it counts in a scalar, and the cursor after it; nothing where no line
ends. -/
def lineBreak (c : Cursor) : List Char × Cursor :=
  match c.rest with
  | '\r' :: '\n' :: rest => (['\n'], ⟨rest, c.index + 2, c.line + 1, 0, c.size⟩)
  | x :: rest =>
      if isBreak x then
        (if x == '\u2028' || x == '\u2029' then [x] else ['\n'],
          ⟨rest, c.index + 1, c.line + 1, 0, c.size⟩)
      else ([], c)
  | [] => ([], c)

/-- Whether a line ends here. -/
def atBreak (c : Cursor) : Bool := c.peek.any isBreak

/-- Whether a gap begins here. -/
def atGap (c : Cursor) : Bool := c.peek.any isGap

/-- Whether a word has ended here. -/
def atWordEnd (c : Cursor) : Bool := endsWord c.peek

/-- The cursor after the spaces, and the tabs if they count too. -/
def skipSpaces (tabs : Bool) : Nat → Cursor → Cursor
  | 0, c => c
  | n + 1, c =>
      match c.peek with
      | some ' ' => skipSpaces tabs n c.advance
      | some '\t' => if tabs then skipSpaces tabs n c.advance else c
      | _ => c

/-- The cursor at the end of the line. -/
def toLineEnd : Nat → Cursor → Cursor
  | 0, c => c
  | n + 1, c =>
      match c.peek with
      | none => c
      | some x => if isBreak x then c else toLineEnd n c.advance

/-- The characters from here on while a condition holds, and the cursor after them. -/
def takeWhile (p : Char → Bool) (c : Cursor) : List Char × Cursor :=
  let taken := c.rest.takeWhile p
  (taken, c.advanceBy taken.length)

/-- Whether a line begins here with one of the marks between documents. -/
def atDocumentMark (c : Cursor) : Bool :=
  c.column == 0 && (["---".toList, "...".toList].any fun m => m.isPrefixOf c.rest)
    && endsWord (c.peekAt 3)

end Cursor
end Connector.Yaml
