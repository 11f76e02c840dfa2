/-!
# Percent encoding

A part of an address holds some characters as they are; every other one stands there as the bytes
of its UTF-8 form, each in hexadecimal after a percent sign.  Which characters are kept depends on
the part.  Statements:

* `encode_of_kept` — a text of kept characters is its own encoding;
* `decode_cons_of_ne` — a byte that is no percent sign stands for itself.
-/

namespace Connector.Url

/-- The characters that no part of an address keeps. -/
def isControl (c : Char) : Bool := decide (c.toNat < 32) || decide (126 < c.toNat)

/-- The characters that a kind of part gives up, besides controls. -/
structure Part where
  escaped : List Char

namespace Part

/-- A part that only gives up controls. -/
def opaquePath : Part := ⟨[]⟩

/-- The fragment of an address. -/
def fragment : Part := ⟨[' ', '"', '<', '>', '\u0060']⟩

/-- The query of an address. -/
def query : Part := ⟨[' ', '"', '#', '<', '>']⟩

/-- The query of an address whose scheme is a special one. -/
def specialQuery : Part := ⟨'\'' :: query.escaped⟩

/-- A path that was written with its slashes. -/
def path : Part := ⟨fragment.escaped ++ ['#', '?', '{', '}']⟩

/-- A single segment of a path. -/
def segment : Part := ⟨path.escaped ++ ['/', '%']⟩

/-- A single segment of a path of an address whose scheme is a special one. -/
def specialSegment : Part := ⟨segment.escaped ++ ['\\']⟩

/-- A name or a password. -/
def userInfo : Part := ⟨path.escaped ++ ['/', ':', ';', '=', '@', '[', '\\', ']', '^', '|']⟩

/-- Whether a part keeps a character. -/
def keeps (p : Part) (c : Char) : Bool := !(isControl c || p.escaped.contains c)

end Part

/-- A hexadecimal digit, in capitals. -/
def hexDigit (n : Nat) : Char := ((Nat.toDigits 16 (n % 16)).headD '0').toUpper

/-- A byte after its percent sign. -/
def escapeByte (b : UInt8) : List Char := ['%', hexDigit (b.toNat / 16), hexDigit b.toNat]

/-- A character in a part. -/
def encodeChar (p : Part) (c : Char) : List Char :=
  if p.keeps c then [c] else (String.singleton c).toUTF8.toList.flatMap escapeByte

/-- Some characters in a part. -/
def encode (p : Part) (cs : List Char) : List Char := cs.flatMap (encodeChar p)

/-- The value of a hexadecimal digit. -/
def hexValue? (c : Char) : Option Nat :=
  if c.isDigit then some (c.toNat - 48)
  else if decide ('a' ≤ c) && decide (c ≤ 'f') then some (c.toNat - 87)
  else if decide ('A' ≤ c) && decide (c ≤ 'F') then some (c.toNat - 55)
  else none

/-- The byte of two hexadecimal digits. -/
def byteOf? (a b : Char) : Option UInt8 := do
  return ((← hexValue? a) * 16 + (← hexValue? b)).toUInt8

/-- The bytes that some characters stand for; a percent sign without two digits is itself. -/
def decode : List Char → List UInt8
  | '%' :: a :: b :: rest =>
      match byteOf? a b with
      | some x => x :: decode rest
      | none => '%'.toUInt8 :: decode (a :: b :: rest)
  | c :: rest => (String.singleton c).toUTF8.toList ++ decode rest
  | [] => []

/-- The text that some characters stand for, if its bytes are UTF-8. -/
def decodeText? (cs : List Char) : Option String := String.fromUTF8? ⟨(decode cs).toArray⟩

theorem encode_of_kept {p : Part} {cs : List Char} (h : ∀ c ∈ cs, p.keeps c = true) :
    encode p cs = cs := by
  induction cs with
  | nil => rfl
  | cons c cs ih =>
      have hc : p.keeps c = true := h c (by simp)
      have ht : encode p cs = cs := ih fun d hd => h d (by simp [hd])
      show encodeChar p c ++ encode p cs = c :: cs
      rw [ht]
      simp [encodeChar, hc]

theorem decode_cons_of_ne {c : Char} (h : c ≠ '%') (cs : List Char) :
    decode (c :: cs) = (String.singleton c).toUTF8.toList ++ decode cs := by
  rw [decode]
  intro a b rest hc
  exact absurd hc h

end Connector.Url
