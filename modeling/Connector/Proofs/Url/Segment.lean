import Connector.Url.Basic

/-!
# A segment of a path

A text in a part of an address can be read back if the part escapes percent signs, as a segment of a
path does.  So only dots are written as dots, and a text that is pushed behind a segment is one more
segment, unless it is dots.  Those are left out; and a text that comes down to dots when its tabs
and line ends are left out moves in the path.  Statements:

* `decode_encode`, `decodeText?_encode` — what is written can be read back;
* `not_mem_encode` — a mark that a part gives up does not stand in it;
* `isSingleDot_encode_iff`, `isDoubleDot_encode_iff` — only dots are written as dots;
* `pushSegment_eq_landing` — what a push does;
* `isPlain_iff_exists_segment`, `isSegment_encode` — which texts become one more segment.
-/

namespace Connector.Url

/-! ## Bytes -/

theorem toList_loop_eq (bytes : ByteArray) (i : Nat) (acc : List UInt8) :
    ByteArray.toList.loop bytes i acc = acc.reverse ++ bytes.data.toList.drop i := by
  fun_induction ByteArray.toList.loop bytes i acc with
  | case1 i acc hlt ih =>
      have hlt' : i < bytes.data.toList.length := by simpa using hlt
      rw [ih, List.drop_eq_getElem_cons hlt']
      simp [ByteArray.get!, hlt]
  | case2 i acc hge =>
      rw [List.drop_eq_nil_of_le (by simpa using Nat.le_of_not_lt hge), List.append_nil]

/-- The bytes of one character. -/
theorem toList_toUTF8_singleton (c : Char) :
    (String.singleton c).toUTF8.toList = String.utf8EncodeChar c := by
  have hbytes : (String.singleton c).toUTF8 = (String.utf8EncodeChar c).toByteArray := by
    show (String.singleton c).toByteArray = _
    rw [String.singleton_eq_ofList, String.toByteArray_ofList, List.utf8Encode,
      List.flatMap_singleton]
  rw [hbytes, ByteArray.toList, toList_loop_eq, List.data_toByteArray]
  rfl

/-- The bytes of a text are a text. -/
theorem fromUTF8?_flatMap (cs : List Char) :
    String.fromUTF8? ⟨(cs.flatMap String.utf8EncodeChar).toArray⟩ = some (String.ofList cs) := by
  have hbytes : (⟨(cs.flatMap String.utf8EncodeChar).toArray⟩ : ByteArray) =
      (String.ofList cs).toByteArray := by
    rw [String.toByteArray_ofList, List.utf8Encode]
    exact ByteArray.ext List.data_toByteArray.symm
  rw [hbytes]
  exact dif_pos (String.ofList cs).isValidUTF8

/-! ## Escapes -/

theorem hexDigit_mod (n : Nat) : hexDigit n = hexDigit (n % 16) := by
  unfold hexDigit
  rw [Nat.mod_mod]

theorem hexValue?_hexDigit (n : Nat) : hexValue? (hexDigit n) = some (n % 16) := by
  rw [hexDigit_mod]
  have hdigits : ∀ m < 16, hexValue? (hexDigit m) = some m := by decide
  exact hdigits _ (Nat.mod_lt n (by decide))

theorem isAlphanum_hexDigit (n : Nat) : (hexDigit n).isAlphanum = true := by
  rw [hexDigit_mod]
  have hdigits : ∀ m < 16, (hexDigit m).isAlphanum = true := by decide
  exact hdigits _ (Nat.mod_lt n (by decide))

/-- An escape stands for its byte. -/
theorem decode_escapeByte (b : UInt8) (rest : List Char) :
    decode (escapeByte b ++ rest) = b :: decode rest := by
  have hlt : b.toNat < 256 := b.toNat_lt
  have hvalue : b.toNat / 16 % 16 * 16 + b.toNat % 16 = b.toNat := by omega
  have hbyte : byteOf? (hexDigit (b.toNat / 16)) (hexDigit b.toNat) = some b := by
    unfold byteOf?
    rw [hexValue?_hexDigit, hexValue?_hexDigit]
    show some (b.toNat / 16 % 16 * 16 + b.toNat % 16).toUInt8 = some b
    rw [hvalue, Nat.toUInt8_eq, UInt8.ofNat_toNat]
  show decode ('%' :: hexDigit (b.toNat / 16) :: hexDigit b.toNat :: rest) = _
  rw [decode, hbyte]

theorem decode_escapeBytes (bytes : List UInt8) (rest : List Char) :
    decode (bytes.flatMap escapeByte ++ rest) = bytes ++ decode rest := by
  induction bytes with
  | nil => rfl
  | cons b bytes ih =>
      rw [List.flatMap_cons, List.append_assoc, decode_escapeByte, ih, List.cons_append]

section Escaping
variable {p : Part} (escapes : p.keeps '%' = false)
include escapes

/-- A character in a part that escapes percent signs stands for its bytes. -/
theorem decode_encodeChar (c : Char) (rest : List Char) :
    decode (encodeChar p c ++ rest) = String.utf8EncodeChar c ++ decode rest := by
  unfold encodeChar
  by_cases hkept : p.keeps c = true
  · have hne : c ≠ '%' := by
      rintro rfl
      rw [escapes] at hkept
      exact Bool.false_ne_true hkept
    rw [if_pos hkept, List.singleton_append, decode_cons_of_ne hne, toList_toUTF8_singleton]
  · rw [if_neg hkept, decode_escapeBytes, toList_toUTF8_singleton]

/-- Some characters in a part that escapes percent signs stand for their bytes. -/
theorem decode_encode (cs : List Char) :
    decode (encode p cs) = cs.flatMap String.utf8EncodeChar := by
  induction cs with
  | nil => rfl
  | cons c cs ih =>
      show decode (encodeChar p c ++ encode p cs) = _
      rw [decode_encodeChar escapes, ih, List.flatMap_cons]

/-- **Reading back.**  A text in a part that escapes percent signs can be read. -/
theorem decodeText?_encode (cs : List Char) :
    decodeText? (encode p cs) = some (String.ofList cs) := by
  unfold decodeText?
  rw [decode_encode escapes, fromUTF8?_flatMap]

end Escaping

/-- A mark that a part gives up, and that no escape is made of, does not stand in it. -/
theorem not_mem_encode {p : Part} {d : Char} (given_up : p.keeps d = false)
    (mark : d.isAlphanum = false) (hd : d ≠ '%') (cs : List Char) : d ∉ encode p cs := by
  intro hmem
  obtain ⟨c, -, hc⟩ := List.mem_flatMap.1 hmem
  unfold encodeChar at hc
  by_cases hkept : p.keeps c = true
  · rw [if_pos hkept] at hc
    obtain rfl := List.mem_singleton.1 hc
    rw [given_up] at hkept
    exact Bool.false_ne_true hkept
  · rw [if_neg hkept] at hc
    obtain ⟨b, -, hb⟩ := List.mem_flatMap.1 hc
    unfold escapeByte at hb
    rcases List.mem_cons.1 hb with rfl | hb
    · exact hd rfl
    · -- The two digits.
      have halphanum : d.isAlphanum = true := by
        rcases List.mem_cons.1 hb with rfl | hb
        · exact isAlphanum_hexDigit _
        · rw [List.mem_singleton.1 hb]
          exact isAlphanum_hexDigit _
      rw [mark] at halphanum
      exact Bool.false_ne_true halphanum

/-! ## Dots -/

/-- What becomes a character in lower case is that character or its capital. -/
theorem eq_or_eq_toUpper_of_toLower {c d : Char} (h : c.toLower = d) : c = d ∨ c = d.toUpper := by
  unfold Char.toLower at h
  split at h
  case isTrue hcapital =>
    right
    subst h
    have hsmall : c.val + ('a'.val - 'A'.val) ≥ 'a'.val ∧
        c.val + ('a'.val - 'A'.val) ≤ 'z'.val := by grind
    unfold Char.toUpper
    rw [dif_pos hsmall]
    apply Char.ext
    show c.val = c.val + ('a'.val - 'A'.val) + ('A'.val - 'a'.val)
    grind
  case isFalse => exact Or.inl h

/-- A dot, or an escape for it. -/
def IsDot (cs : List Char) : Prop :=
  cs.map Char.toLower = ['.'] ∨ cs.map Char.toLower = ['%', '2', 'e']

/-- A dot stands for a dot, however it is written. -/
theorem IsDot.decode {cs : List Char} (h : IsDot cs) (rest : List Char) :
    Url.decode (cs ++ rest) = 46 :: Url.decode rest := by
  rcases h with h | h
  · obtain ⟨a, rfl, ha⟩ := List.map_eq_singleton_iff.1 h
    obtain rfl : a = '.' := by simpa using eq_or_eq_toUpper_of_toLower ha
    rw [List.singleton_append, decode_cons_of_ne (by decide), toList_toUTF8_singleton]
    rfl
  · obtain ⟨a, _, rfl, ha, h⟩ := List.map_eq_cons_iff.1 h
    obtain ⟨b, _, rfl, hb, h⟩ := List.map_eq_cons_iff.1 h
    obtain ⟨c, rfl, hc⟩ := List.map_eq_singleton_iff.1 h
    obtain rfl : a = '%' := by simpa using eq_or_eq_toUpper_of_toLower ha
    obtain rfl : b = '2' := by simpa using eq_or_eq_toUpper_of_toLower hb
    have hbyte : byteOf? '2' c = some 46 := by
      rcases eq_or_eq_toUpper_of_toLower hc with rfl | rfl <;> rfl
    show Url.decode ('%' :: '2' :: c :: rest) = _
    rw [Url.decode, hbyte]

theorem isDot_of_isSingleDot {cs : List Char} (h : isSingleDot cs = true) : IsDot cs := by
  unfold isSingleDot at h
  rcases (Bool.or_eq_true _ _).mp h with h | h
  · exact Or.inl (by rw [eq_of_beq h]; rfl)
  · exact Or.inr (eq_of_beq h)

theorem exists_isDot_of_isDoubleDot {cs : List Char} (h : isDoubleDot cs = true) :
    ∃ ds es, cs = ds ++ es ∧ IsDot ds ∧ IsDot es := by
  -- Each of the four spellings is two of one dot.
  have hspelled : ∃ us vs : List Char, cs.map Char.toLower = us ++ vs ∧
      (us = ['.'] ∨ us = ['%', '2', 'e']) ∧ (vs = ['.'] ∨ vs = ['%', '2', 'e']) := by
    have hlist {w : String} (hw : String.ofList (cs.map Char.toLower) = w) :
        cs.map Char.toLower = w.toList := by
      rw [← hw, String.toList_ofList]
    unfold isDoubleDot at h
    simp only [List.contains_iff_mem, List.mem_cons, List.not_mem_nil, or_false] at h
    rcases h with h | h | h | h
    · exact ⟨['.'], ['.'], hlist h, Or.inl rfl, Or.inl rfl⟩
    · exact ⟨['%', '2', 'e'], ['%', '2', 'e'], hlist h, Or.inr rfl, Or.inr rfl⟩
    · exact ⟨['%', '2', 'e'], ['.'], hlist h, Or.inr rfl, Or.inl rfl⟩
    · exact ⟨['.'], ['%', '2', 'e'], hlist h, Or.inl rfl, Or.inr rfl⟩
  obtain ⟨us, vs, heq, hus, hvs⟩ := hspelled
  obtain ⟨ds, es, rfl, rfl, rfl⟩ := List.map_eq_append_iff.1 heq
  exact ⟨ds, es, rfl, hus, hvs⟩

section Dots
variable {p : Part} (escapes : p.keeps '%' = false) {cs : List Char}
include escapes

/-- What stands for the bytes of a text is that text. -/
theorem eq_of_decode_encode {ds : List Char}
    (h : decode (encode p cs) = ds.flatMap String.utf8EncodeChar) : cs = ds := by
  rw [decode_encode escapes] at h
  have htext := fromUTF8?_flatMap cs
  rw [h, fromUTF8?_flatMap] at htext
  exact (String.ofList_injective (Option.some.inj htext)).symm

/-- Different texts are written differently. -/
theorem eq_of_encode_eq {ds : List Char} (h : encode p cs = encode p ds) : cs = ds :=
  eq_of_decode_encode escapes ((congrArg decode h).trans (decode_encode escapes ds))

variable (cs) (keeps_dot : p.keeps '.' = true)
include keeps_dot

/-- Only a dot is written as a dot. -/
theorem isSingleDot_encode_iff : isSingleDot (encode p cs) = true ↔ cs = ['.'] := by
  constructor
  · intro h
    have hdecode := (isDot_of_isSingleDot h).decode []
    rw [List.append_nil] at hdecode
    exact eq_of_decode_encode escapes hdecode
  · rintro rfl
    rw [encode_of_kept (List.forall_mem_singleton.2 keeps_dot)]
    rfl

/-- Only two dots are written as two dots. -/
theorem isDoubleDot_encode_iff : isDoubleDot (encode p cs) = true ↔ cs = ['.', '.'] := by
  constructor
  · intro h
    obtain ⟨ds, es, heq, hds, hes⟩ := exists_isDot_of_isDoubleDot h
    have hrest := hes.decode []
    have hdecode := hds.decode es
    rw [List.append_nil] at hrest
    rw [← heq, hrest] at hdecode
    exact eq_of_decode_encode escapes hdecode
  · rintro rfl
    rw [encode_of_kept (by simpa using keeps_dot)]
    rfl

end Dots

/-! ## Pushing -/

/-- A text without tabs and line ends. -/
def bare (s : String) : String := String.ofList (s.toList.filter fun c => !isSkipped c)

theorem toList_bare (s : String) : (bare s).toList = s.toList.filter fun c => !isSkipped c :=
  String.toList_ofList

/-- A text is left as it is if it has no tabs and line ends. -/
theorem bare_eq_self_iff {s : String} : bare s = s ↔ s.toList.any isSkipped = false := by
  rw [← String.toList_inj, toList_bare, List.filter_eq_self, List.any_eq_false]
  simp only [Bool.not_eq_eq_eq_not, Bool.not_true, Bool.not_eq_true]

/-- The segments that others are pushed behind: those of a path without an empty one at the end, and
none if only an empty one is left. -/
def trunk (path : List String) : List String :=
  if popEmpty path = [""] then [] else popEmpty path

/-- The path after a text was pushed behind a segment.  Dots are left out.  A text that comes down
to dots without its tabs and line ends ends the path behind the segment, or in place of it.  Any
other is one more segment. -/
def landing (p : Part) (front : List String) (name text : String) : List String :=
  if text = "." ∨ text = ".." then front ++ [name]
  else if bare text = "." then front ++ [name, ""]
  else if bare text = ".." then front ++ [""]
  else front ++ [name, String.ofList (encode p (bare text).toList)]

/-- Anything but dots is written, and ends the path. -/
theorem pushSegment_eq_addSegment (p : Part) (path : List String) {text : String}
    (h : ¬(text = "." ∨ text = "..")) :
    pushSegment p path text =
      addSegment (if path = [""] then [] else path) true (encode p (bare text).toList) := by
  unfold pushSegment
  rw [if_neg (by simpa using h), toList_bare]
  simp only [beq_iff_eq]

/-- A name that is written as it is, and is no dots, is one more segment behind the trunk. -/
theorem pushSegment_trunk {p : Part} {name : String} (path : List String)
    (bare_eq : bare name = name) (kept : encode p name.toList = name.toList)
    (not_single : isSingleDot name.toList = false) (not_double : isDoubleDot name.toList = false) :
    pushSegment p (popEmpty path) name = trunk path ++ [name] := by
  have hdots : ¬(name = "." ∨ name = "..") := by
    rintro (rfl | rfl)
    · exact absurd not_single (by decide)
    · exact absurd not_double (by decide)
  rw [pushSegment_eq_addSegment p _ hdots, bare_eq, kept, addSegment, not_single, not_double,
    String.ofList_toList]
  rfl

/-- **A push.**  Behind a segment a text lands as told. -/
theorem pushSegment_eq_landing {p : Part} (escapes : p.keeps '%' = false)
    (keeps_dot : p.keeps '.' = true) (front : List String) {name : String} (hname : name ≠ "")
    (text : String) : pushSegment p (front ++ [name]) text = landing p front name text := by
  unfold landing
  by_cases hdots : text = "." ∨ text = ".."
  · rw [if_pos hdots]
    unfold pushSegment
    rw [if_pos (by simpa using hdots)]
  have hpath : front ++ [name] ≠ [""] := by
    intro h
    exact hname (by simpa using congrArg List.getLast? h)
  have hsingle := isSingleDot_encode_iff escapes (bare text).toList keeps_dot
  have hdouble := isDoubleDot_encode_iff escapes (bare text).toList keeps_dot
  rw [if_neg hdots, pushSegment_eq_addSegment p _ hdots, if_neg hpath, addSegment]
  by_cases hdot : bare text = "."
  · have hlist : (bare text).toList = ['.'] := congrArg String.toList hdot
    rw [if_pos hdot, if_neg (mt hdouble.1 (by rw [hlist]; decide)), if_pos (hsingle.2 hlist),
      if_pos rfl, List.append_assoc, List.singleton_append]
  rw [if_neg hdot]
  by_cases htwo : bare text = ".."
  · have hlist : (bare text).toList = ['.', '.'] := congrArg String.toList htwo
    rw [if_pos htwo, if_pos (hdouble.2 hlist), if_pos rfl, List.dropLast_concat]
  · rw [if_neg htwo, if_neg (mt hdouble.1 fun h => htwo (String.toList_inj.1 h)),
      if_neg (mt hsingle.1 fun h => hdot (String.toList_inj.1 h)), List.append_assoc,
      List.singleton_append]

/-- A text that is no dots and has no tabs and line ends. -/
def IsPlain (text : String) : Prop :=
  text ≠ "." ∧ text ≠ ".." ∧ text.toList.any isSkipped = false

instance : DecidablePred IsPlain := fun _ => inferInstanceAs (Decidable (_ ∧ _ ∧ _))

theorem landing_of_isPlain {text : String} (h : IsPlain text) (p : Part) (front : List String)
    (name : String) :
    landing p front name text = front ++ [name, String.ofList (encode p text.toList)] := by
  obtain ⟨hdot, htwo, hskipped⟩ := h
  unfold landing
  rw [if_neg (not_or.2 ⟨hdot, htwo⟩), bare_eq_self_iff.2 hskipped, if_neg hdot, if_neg htwo]

/-- **Plain texts.**  A text is one more segment from which it can be read if and only if it is
plain. -/
theorem isPlain_iff_exists_segment {p : Part} (escapes : p.keeps '%' = false)
    (front : List String) (name text : String) :
    IsPlain text ↔
      ∃ s, landing p front name text = front ++ [name, s] ∧
        decodeText? s.toList = some text := by
  constructor
  · intro h
    refine ⟨_, landing_of_isPlain h p front name, ?_⟩
    rw [String.toList_ofList, decodeText?_encode escapes, String.ofList_toList]
  · rintro ⟨s, hlanding, hread⟩
    unfold landing at hlanding
    by_cases hdots : text = "." ∨ text = ".."
    · rw [if_pos hdots] at hlanding
      simp at hlanding
    rw [if_neg hdots] at hlanding
    by_cases hdot : bare text = "."
    · -- The segment is empty, and so would be the text.
      rw [if_pos hdot] at hlanding
      obtain rfl : "" = s := by simpa using hlanding
      obtain rfl : "" = text := Option.some.inj hread
      exact absurd hdot (by decide)
    rw [if_neg hdot] at hlanding
    by_cases htwo : bare text = ".."
    · rw [if_pos htwo] at hlanding
      simp at hlanding
    · rw [if_neg htwo] at hlanding
      obtain rfl : String.ofList (encode p (bare text).toList) = s := by simpa using hlanding
      rw [String.toList_ofList, decodeText?_encode escapes, String.ofList_toList] at hread
      have hbare := bare_eq_self_iff.1 (Option.some.inj hread)
      exact ⟨fun h => hdots (Or.inl h), fun h => hdots (Or.inr h), hbare⟩

theorem Part.specialSegment_escapes : Part.specialSegment.keeps '%' = false := by decide

theorem Part.specialSegment_keeps_dot : Part.specialSegment.keeps '.' = true := by decide

/-- A text that stands for one segment wherever it is written in a path: it has no mark that ends a
segment, and is no dots. -/
structure IsSegment (s : String) : Prop where
  marks : ∀ c ∈ ['/', '\\', '?', '#'], c ∉ s.toList
  not_single : isSingleDot s.toList = false
  not_double : isDoubleDot s.toList = false

/-- What is written of a plain text is one segment. -/
theorem isSegment_encode {text : String} (h : IsPlain text) :
    IsSegment (String.ofList (encode .specialSegment text.toList)) := by
  have hsingle := isSingleDot_encode_iff Part.specialSegment_escapes text.toList
    Part.specialSegment_keeps_dot
  have hdouble := isDoubleDot_encode_iff Part.specialSegment_escapes text.toList
    Part.specialSegment_keeps_dot
  constructor
  · intro c hc
    rw [String.toList_ofList]
    simp only [List.mem_cons, List.not_mem_nil, or_false] at hc
    rcases hc with rfl | rfl | rfl | rfl <;>
      exact not_mem_encode (by decide) (by decide) (by decide) text.toList
  · rw [String.toList_ofList, Bool.eq_false_iff]
    exact fun hdot => h.1 (String.toList_inj.1 (hsingle.1 hdot))
  · rw [String.toList_ofList, Bool.eq_false_iff]
    exact fun htwo => h.2.1 (String.toList_inj.1 (hdouble.1 htwo))

end Connector.Url
