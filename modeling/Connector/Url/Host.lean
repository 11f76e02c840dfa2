import Connector.Url.Encoding
import Connector.Url.Punycode

/-!
# Hosts

The host of an address is a name, an address of four bytes, or one of eight pairs of bytes.  Where
the scheme is a special one, a name is brought to lower-case ASCII, and one that ends in a number
must be an address; elsewhere a name is kept as it is.
-/

namespace Connector.Url

/-- Why a text is no address. -/
inductive Fault where
  | emptyHost
  | invalidName
  | invalidPort
  | invalidIPv4
  | invalidIPv6
  | invalidCharacter
  /-- There is no scheme in front. -/
  | relative
  deriving DecidableEq, Repr

/-- The wording of a fault. -/
def Fault.message : Fault → String
  | emptyHost => "empty host"
  | invalidName => "invalid international domain name"
  | invalidPort => "invalid port number"
  | invalidIPv4 => "invalid IPv4 address"
  | invalidIPv6 => "invalid IPv6 address"
  | invalidCharacter => "invalid domain character"
  | relative => "relative URL without a base"

/-- A host. -/
inductive Host where
  | name (s : String)
  | ipv4 (n : Nat)
  | ipv6 (pieces : List Nat)
  deriving DecidableEq, Repr, Inhabited

namespace Host

/-- The pieces of a text between some mark. -/
def splitOn (mark : Char) (cs : List Char) : List (List Char) :=
  cs.foldr (fun c acc => if c == mark then [] :: acc
    else match acc with
      | [] => [[c]]
      | p :: ps => (c :: p) :: ps) [[]]

/-- The number of a part of an address of four bytes: decimal, or octal or hexadecimal after a
mark. -/
def number? (cs : List Char) : Option Nat :=
  let read (base : Nat) (ds : List Char) : Option Nat :=
    ds.foldlM (fun n d => do
      let v ← hexValue? d
      if v < base then some (n * base + v) else none) 0
  match cs with
  | [] => none
  | '0' :: 'x' :: ds => read 16 ds
  | '0' :: 'X' :: ds => read 16 ds
  | '0' :: d :: ds => read 8 (d :: ds)
  | ds => read 10 ds

/-- The parts of a name, without the empty one behind a final point. -/
def labels (cs : List Char) : List (List Char) :=
  let ls := splitOn '.' cs
  if ls.length > 1 && ls.getLast? == some [] then ls.dropLast else ls

/-- Whether the last part of a name is a number. -/
def endsInNumber (cs : List Char) : Bool :=
  match (labels cs).getLast? with
  | none => false
  | some last => (!last.isEmpty && last.all Char.isDigit)
      || ((['0', 'x'].isPrefixOf last || ['0', 'X'].isPrefixOf last) && (number? last).isSome)

/-- An address of four bytes. -/
def parseIPv4 (cs : List Char) : Except Fault Host :=
  let parts := labels cs
  match parts.mapM number? with
  | none => .error .invalidIPv4
  | some ns =>
      let last := ns.getLastD 0
      if parts.length > 4 || ns.dropLast.any (fun n => decide (n > 255))
          || decide (last ≥ Nat.pow 256 (5 - ns.length)) then .error .invalidIPv4
      else
        let front := ns.dropLast.zipIdx.foldl (fun acc p => acc + p.1 * Nat.pow 256 (3 - p.2)) 0
        .ok (.ipv4 (front + last))

/-- A piece of two bytes. -/
def piece? (cs : List Char) : Option Nat :=
  if cs.isEmpty || cs.length > 4 then none
  else cs.foldlM (fun n d => (hexValue? d).map fun v => n * 16 + v) 0

/-- A byte in decimal without a leading zero. -/
def byte? (cs : List Char) : Option Nat :=
  if cs.isEmpty || !cs.all Char.isDigit || (cs.length > 1 && cs.head? == some '0')
      || cs.length > 3 then none
  else (some (cs.foldl (fun n d => n * 10 + (d.toNat - 48)) 0)).filter fun n => decide (n ≤ 255)

/-- The pieces of a part of an address; the last may be four bytes in decimal. -/
def pieces? : List (List Char) → Option (List Nat)
  | [] => some []
  | [last] =>
      if last.contains '.' then do
        let [a, b, c, d] ← (splitOn '.' last).mapM byte? | none
        return [a * 256 + b, c * 256 + d]
      else (piece? last).map fun p => [p]
  | p :: rest => do return (← piece? p) :: (← pieces? rest)

/-- The parts before and behind the first double colon. -/
def splitGap : List Char → Option (List Char × List Char)
  | ':' :: ':' :: rest => some ([], rest)
  | c :: rest => (splitGap rest).map fun p => (c :: p.1, p.2)
  | [] => none

/-- The pieces of some text between colons; no text has none. -/
def piecesOf? (cs : List Char) : Option (List Nat) :=
  if cs.isEmpty then some [] else pieces? (splitOn ':' cs)

/-- An address of eight pieces; a double colon stands for pieces of zero. -/
def parseIPv6 (cs : List Char) : Except Fault Host :=
  let found := match splitGap cs with
    | none => (piecesOf? cs).filter fun ps => ps.length == 8
    | some (front, back) => do
        if front.contains '.' then none
        else
          let front ← piecesOf? front
          let back ← piecesOf? back
          if front.length + back.length > 7 then none
          else some (front ++ List.replicate (8 - front.length - back.length) 0 ++ back)
  match found with
  | some ps => .ok (.ipv6 ps)
  | none => .error .invalidIPv6

/-- Characters that no name of a machine has. -/
def isForbidden (c : Char) : Bool :=
  decide (c.toNat ≤ 32) || c.toNat == 127 || "%#/:<>?@[\\]^|".toList.contains c

/-- A character as it counts in names: wide forms of ASCII are ASCII, and the points of other
scripts are points. -/
def narrowed (c : Char) : Char :=
  let n := c.toNat
  if 0xFF01 ≤ n ∧ n ≤ 0xFF5E then Char.ofNat (n - 0xFEE0)
  else if n == 0x3002 || n == 0xFF61 then '.'
  else c

/-- Characters that count for nothing in names. -/
def isIgnored (c : Char) : Bool := [0xAD, 0x200B, 0x2060, 0xFEFF].contains c.toNat

/-- A name in lower-case ASCII.  This stands in for the mapping of international names (IDNA) and
leaves its tables out: of the characters that it maps, only letters that have a small form and those
of another width are mapped, and of those that it ignores, four are ignored.  No text is composed
anew, and no label is refused that the tables disallow. -/
def asciiName (s : String) : List Char :=
  let narrow := (s.toList.map narrowed).filter fun c => !isIgnored c
  let lower := (Text.lowercase (String.ofList narrow)).toList
  let label (l : List Char) : List Char :=
    if l.all fun c => decide (c.toNat < 128) then l else "xn--".toList ++ Punycode.encode l
  ['.'].intercalate ((splitOn '.' lower).map label)

/-- The text between brackets. -/
def bracketed (cs : List Char) : Except Fault Host :=
  match cs.reverse with
  | ']' :: inner => parseIPv6 inner.reverse
  | _ => .error .invalidIPv6

/-- The host of an address with a special scheme. -/
def parse (cs : List Char) : Except Fault Host :=
  match cs with
  | '[' :: rest => bracketed rest
  | cs =>
      match decodeText? cs with
      | none => .error .invalidName
      | some s =>
          let name := asciiName s
          if name.any isForbidden then .error .invalidName
          else if name.isEmpty then .error .emptyHost
          else if endsInNumber name then parseIPv4 name
          else .ok (.name (String.ofList name))

/-- Characters that no name has where it is kept as it is. -/
def isForbiddenAnywhere (c : Char) : Bool :=
  c.toNat == 0 || "\t\n\r #/:<>?@[\\]^|".toList.contains c

/-- The host of an address with another scheme. -/
def parseOpaque (cs : List Char) : Except Fault Host :=
  match cs with
  | '[' :: rest => bracketed rest
  | cs =>
      if cs.any isForbiddenAnywhere then .error .invalidCharacter
      else .ok (.name (String.ofList (encode .opaquePath cs)))

/-- How long the run of zeros is that a list begins with. -/
def zeroRun (ps : List Nat) : Nat := (ps.takeWhile (· == 0)).length

/-- Where the first of the longest runs of at least two zeros begins, and its length. -/
def longestRun (ps : List Nat) : Option (Nat × Nat) :=
  let runs := (List.range ps.length).map fun i => (i, zeroRun (ps.drop i))
  runs.foldl (fun best r =>
    if r.2 ≥ 2 && decide ((best.map (·.2)).getD 0 < r.2) then some r else best) none

/-- Pieces between colons. -/
def piecesText (ps : List Nat) : String :=
  ":".intercalate (ps.map fun p => String.ofList (Nat.toDigits 16 p))

/-- The text of a host. -/
def text : Host → String
  | name s => s
  | ipv4 n =>
      ".".intercalate ([n / 16777216, n / 65536 % 256, n / 256 % 256, n % 256].map toString)
  | ipv6 ps =>
      match longestRun ps with
      | none => "[" ++ piecesText ps ++ "]"
      | some (start, length) =>
          "[" ++ piecesText (ps.take start) ++ "::" ++ piecesText (ps.drop (start + length)) ++ "]"

end Host
end Connector.Url
