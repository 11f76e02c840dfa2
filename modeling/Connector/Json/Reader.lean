import Connector.Json.Value

/-!
# Reading JSON text

A document is read by descent.  The budget of steps is the number of characters: every step
takes at least one, so it never runs out on a text of that length.

A literal without fraction and exponent is a whole number if it fits 64 bits, signed or not;
every other number is the nearest double, and one out of range is refused.  Of two members of
one name the later counts.
-/

namespace Connector.Json.Reader

/-- The characters after leading JSON white space. -/
def skipSpace (cs : List Char) : List Char :=
  cs.dropWhile fun c => c == ' ' || c == '\n' || c == '\r' || c == '\t'

/-- The value of a hexadecimal digit. -/
def hexValue? (c : Char) : Option Nat :=
  if c.isDigit then some (c.toNat - 48)
  else if decide ('a' ≤ c) && decide (c ≤ 'f') then some (c.toNat - 87)
  else if decide ('A' ≤ c) && decide (c ≤ 'F') then some (c.toNat - 55)
  else none

/-- Four hexadecimal digits and the rest. -/
def hex4 : List Char → Option (Nat × List Char)
  | a :: b :: c :: d :: rest => do
      let a ← hexValue? a
      let b ← hexValue? b
      let c ← hexValue? c
      let d ← hexValue? d
      return (((a * 16 + b) * 16 + c) * 16 + d, rest)
  | _ => none

/-- One escape after its backslash; a pair of surrogates makes one character. -/
def escape : List Char → Option (Char × List Char)
  | '"' :: rest => some ('"', rest)
  | '\\' :: rest => some ('\\', rest)
  | '/' :: rest => some ('/', rest)
  | 'b' :: rest => some (Char.ofNat 8, rest)
  | 'f' :: rest => some (Char.ofNat 12, rest)
  | 'n' :: rest => some ('\n', rest)
  | 'r' :: rest => some ('\r', rest)
  | 't' :: rest => some ('\t', rest)
  | 'u' :: rest => do
      let (hi, rest) ← hex4 rest
      if 0xD800 ≤ hi ∧ hi < 0xDC00 then
        match rest with
        | '\\' :: 'u' :: rest =>
            let (lo, rest) ← hex4 rest
            if 0xDC00 ≤ lo ∧ lo < 0xE000 then
              some (Char.ofNat (0x10000 + (hi - 0xD800) * 0x400 + (lo - 0xDC00)), rest)
            else none
        | _ => none
      else if 0xDC00 ≤ hi ∧ hi < 0xE000 then none
      else some (Char.ofNat hi, rest)
  | _ => none

/-- The characters of a string up to its closing quote, collected in reverse. -/
def stringTail : Nat → List Char → List Char → Option (String × List Char)
  | 0, _, _ => none
  | _ + 1, _, [] => none
  | _ + 1, acc, '"' :: rest => some (String.ofList acc.reverse, rest)
  | fuel + 1, acc, '\\' :: rest =>
      match escape rest with
      | some (c, rest) => stringTail fuel (c :: acc) rest
      | none => none
  | fuel + 1, acc, c :: rest => if c.toNat < 32 then none else stringTail fuel (c :: acc) rest

/-- The number a run of decimal digits stands for. -/
def digitsValue (ds : List Char) : Nat := ds.foldl (fun n c => n * 10 + (c.toNat - 48)) 0

/-- The value of a number from its parts. -/
def numberValue (negative : Bool) (whole fraction : List Char) (exponent : Option Int) :
    Option JsonNumber :=
  let n := digitsValue whole
  let signed : Int := if negative then -(n : Int) else n
  if fraction.isEmpty && exponent.isNone && !(negative && n == 0)
      && decide (-9223372036854775808 ≤ signed) && decide (signed ≤ 18446744073709551615) then
    some (.whole signed)
  else
    (Binary64.ofDecimal negative (digitsValue (whole ++ fraction))
      (exponent.getD 0 - fraction.length)).map .real

/-- A number and the rest. -/
def number (cs : List Char) : Option (JsonNumber × List Char) := do
  let (negative, cs) := match cs with
    | '-' :: cs => (true, cs)
    | cs => (false, cs)
  let whole := cs.takeWhile Char.isDigit
  let cs := cs.dropWhile Char.isDigit
  if whole.isEmpty || (decide (whole.length > 1) && whole.head? == some '0') then none
  else
    let (fraction, cs) ← match cs with
      | '.' :: rest =>
          let ds := rest.takeWhile Char.isDigit
          if ds.isEmpty then none else some (ds, rest.dropWhile Char.isDigit)
      | cs => some ([], cs)
    let (exponent, cs) ← match cs with
      | c :: rest =>
          if c == 'e' || c == 'E' then
            let (minus, rest) := match rest with
              | '-' :: rest => (true, rest)
              | '+' :: rest => (false, rest)
              | rest => (false, rest)
            let ds := rest.takeWhile Char.isDigit
            if ds.isEmpty then none
            else
              let e : Int := digitsValue ds
              some (some (if minus then -e else e), rest.dropWhile Char.isDigit)
          else some (none, c :: rest)
      | [] => some (none, [])
    return (← numberValue negative whole fraction exponent, cs)

/-- The rest after a fixed word. -/
def word (w : List Char) (cs : List Char) : Option (List Char) :=
  if w.isPrefixOf cs then some (cs.drop w.length) else none

mutual

/-- One document and the rest. -/
def value : Nat → List Char → Option (Json × List Char)
  | 0, _ => none
  | fuel + 1, cs =>
      match skipSpace cs with
      | [] => none
      | '"' :: rest => (stringTail (rest.length + 1) [] rest).map fun r => (.str r.1, r.2)
      | '[' :: rest =>
          match skipSpace rest with
          | ']' :: rest => some (.arr [], rest)
          | rest => (elements fuel rest).map fun r => (.arr r.1, r.2)
      | '{' :: rest =>
          match skipSpace rest with
          | '}' :: rest => some (.obj [], rest)
          | rest => (members fuel rest).map fun r => (.obj (Table.ofEntries r.1), r.2)
      | 'n' :: rest => (word ['u', 'l', 'l'] rest).map fun r => (.null, r)
      | 't' :: rest => (word ['r', 'u', 'e'] rest).map fun r => (.bool true, r)
      | 'f' :: rest => (word ['a', 'l', 's', 'e'] rest).map fun r => (.bool false, r)
      | cs => (number cs).map fun r => (.num r.1, r.2)

/-- The members of an array after its bracket. -/
def elements : Nat → List Char → Option (List Json × List Char)
  | 0, _ => none
  | fuel + 1, cs => do
      let (v, rest) ← value fuel cs
      match skipSpace rest with
      | ',' :: rest =>
          let (vs, rest) ← elements fuel rest
          return (v :: vs, rest)
      | ']' :: rest => return ([v], rest)
      | _ => none

/-- The members of an object after its brace. -/
def members : Nat → List Char → Option (List (String × Json) × List Char)
  | 0, _ => none
  | fuel + 1, cs => do
      match skipSpace cs with
      | '"' :: rest =>
          let (name, rest) ← stringTail (rest.length + 1) [] rest
          match skipSpace rest with
          | ':' :: rest =>
              let (v, rest) ← value fuel rest
              match skipSpace rest with
              | ',' :: rest =>
                  let (es, rest) ← members fuel rest
                  return ((name, v) :: es, rest)
              | '}' :: rest => return ([(name, v)], rest)
              | _ => none
          | _ => none
      | _ => none

end

end Connector.Json.Reader

namespace Connector.Json

/-- The document a text holds, if it holds exactly one. -/
def parse? (text : String) : Option Json :=
  let cs := text.toList
  match Reader.value (cs.length + 1) cs with
  | some (v, rest) => if (Reader.skipSpace rest).isEmpty then some v else none
  | none => none

end Connector.Json
