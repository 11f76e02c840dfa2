import Connector.Json.Writer
import Connector.Text.Quoted
import Connector.Time.Instant

/-!
# Reading values out of documents

A decoder gives the value that a document stands for, or the first fault in it.  A record is an
object of its fields or an array of them in order.  In an object the fields that are there are
read in the order of their names, and only then is an absent one reported, in the order of the
declaration.  A case of a tagged value is read after the rest of the document was set aside to
find its tag; a part set aside is read a little more freely, which is what the flag of a decoder
says.  Statements:

* `Fields.ofMembers_pure`, `Fields.ofMembers_seq_ok` — fields that all read give the record;
* `Decoder.string_str`, `Decoder.natural_nat` — the plain values read back.
-/

namespace Connector

/-- Why a document does not stand for a value. -/
inductive DecodeFault where
  /-- A value of another kind. -/
  | wrongKind (found : Json) (expected : String)
  /-- A value of the right kind that is not allowed. -/
  | wrongValue (found : Json) (expected : String)
  /-- An array of another length. -/
  | wrongLength (length : Nat) (expected : String)
  /-- A field that must be there is absent. -/
  | missing (field : String)
  /-- A name that is none of the cases. -/
  | unknownCase (name : String) (known : List String)
  /-- A time stamp that does not read. -/
  | malformedTime (cause : Instant.Malformed)
  /-- A value that fits no case of a type whose cases have no names. -/
  | noCase (type : String)

namespace DecodeFault

/-- How a message names a value that was found. -/
def nameOf : Json → String
  | .null => "null"
  | .bool b => s!"boolean `{b}`"
  | .num (.whole n) => s!"integer `{n}`"
  | .num (.real x) => "floating point `" ++ Decimal.write x ++ "`"
  | .str s => "string " ++ Text.quoted s
  | .arr _ => "sequence"
  | .obj _ => "map"

/-- How a message lists the names of cases. -/
def listOf : List String → String
  | [] => "there are no variants"
  | [a] => s!"`{a}`"
  | [a, b] => s!"`{a}` or `{b}`"
  | names => "one of " ++ ", ".intercalate (names.map fun a => s!"`{a}`")

/-- The wording of a fault. -/
def message : DecodeFault → String
  | .wrongKind found expected => s!"invalid type: " ++ nameOf found ++ ", expected " ++ expected
  | .wrongValue found expected => s!"invalid value: " ++ nameOf found ++ ", expected " ++ expected
  | .wrongLength length expected => s!"invalid length {length}, expected {expected}"
  | .missing field => s!"missing field `{field}`"
  | .unknownCase name known =>
      s!"unknown variant `{name}`, expected " ++ listOf known
  | .malformedTime cause => cause.message
  | .noCase type => s!"data did not match any variant of untagged enum {type}"

end DecodeFault

/-- Reads a value out of a document; the flag tells a part that was set aside. -/
abbrev Decoder (α : Type) := Bool → Json → Except DecodeFault α

/-- A fault and the field it stands in; none for a field that is absent. -/
structure FieldFault where
  field : Option String
  fault : DecodeFault

/-- Of two faults the one that is reported: the field first in the order of names, and a fault
inside a field before an absent one. -/
def FieldFault.first (a b : FieldFault) : FieldFault :=
  match a.field, b.field with
  | some x, some y => if y < x then b else a
  | none, some _ => b
  | _, none => a

/-- Reads some fields of a record, out of the members of an object or the items of an array. -/
structure Fields (α : Type) where
  /-- The number of fields. -/
  width : Nat
  ofMembers : Bool → List (String × Json) → Except FieldFault α
  /-- Reads from the item at an index on; the text names the whole record. -/
  ofItems : Bool → String → Nat → List Json → Except DecodeFault α

namespace Fields

variable {α β : Type}

/-- Both of two readings, or the fault that is reported. -/
def both (f : Except FieldFault (α → β)) (x : Except FieldFault α) : Except FieldFault β :=
  match f, x with
  | .ok f, .ok x => .ok (f x)
  | .error a, .ok _ => .error a
  | .ok _, .error b => .error b
  | .error a, .error b => .error (a.first b)

instance : Applicative Fields where
  pure a := ⟨0, fun _ _ => .ok a, fun _ _ _ _ => .ok a⟩
  seq f x :=
    ⟨f.width + (x ()).width,
     fun aside members => both (f.ofMembers aside members) ((x ()).ofMembers aside members),
     fun aside record start items => do
       let g ← f.ofItems aside record start items
       let a ← (x ()).ofItems aside record (start + f.width) items
       .ok (g a)⟩

/-- The reading of a member, with its fault under its name. -/
def within (name : String) (r : Except DecodeFault α) : Except FieldFault α :=
  r.mapError fun e => ⟨some name, e⟩

/-- A field that must be there. -/
def required (name : String) (d : Decoder α) : Fields α where
  width := 1
  ofMembers aside members :=
    match Table.get? name members with
    | some v => within name (d aside v)
    | none => .error ⟨none, .missing name⟩
  ofItems aside record start items :=
    match items[start]? with
    | some v => d aside v
    | none => .error (.wrongLength start record)

/-- A value or nothing; nothing is written as null. -/
def orNull (d : Decoder α) : Decoder (Option α) := fun aside j =>
  match j with
  | .null => .ok none
  | j => (d aside j).map some

/-- A field that may be absent from an object. -/
def optional (name : String) (d : Decoder α) : Fields (Option α) where
  width := 1
  ofMembers aside members :=
    match Table.get? name members with
    | some v => within name (orNull d aside v)
    | none => .ok none
  ofItems aside record start items :=
    match items[start]? with
    | some v => orNull d aside v
    | none => .error (.wrongLength start record)

/-- A field with a value of its own where it is absent. -/
def withDefault (name : String) (value : α) (d : Decoder α) : Fields α where
  width := 1
  ofMembers aside members :=
    match Table.get? name members with
    | some v => within name (d aside v)
    | none => .ok value
  ofItems aside _ start items :=
    match items[start]? with
    | some v => d aside v
    | none => .ok value

/-- A count of elements. -/
def countText (n : Nat) : String := if n == 1 then "1 element" else s!"{n} elements"

/-- The record of some fields, named in messages, out of an object or an array. -/
def read (record : String) (fields : Fields α) : Decoder α := fun aside j =>
  match j with
  | .obj members => (fields.ofMembers aside members).mapError (·.fault)
  | .arr items => do
      let n := countText fields.width
      let a ← fields.ofItems aside s!"{record} with {n}" 0 items
      if fields.width < items.length then
        .error (.wrongLength items.length
          (if aside then s!"{n} in sequence" else "fewer elements in array"))
      else .ok a
  | j => .error (.wrongKind j record)

@[simp] theorem ofMembers_pure (a : α) (aside : Bool) (m : List (String × Json)) :
    (pure a : Fields α).ofMembers aside m = .ok a := rfl

theorem ofMembers_seq_ok {f : Fields (α → β)} {x : Fields α} {aside : Bool}
    {m : List (String × Json)} {g : α → β} {a : α} (hf : f.ofMembers aside m = .ok g)
    (hx : x.ofMembers aside m = .ok a) : (f <*> x).ofMembers aside m = .ok (g a) := by
  show both _ _ = _
  rw [hf, hx]
  rfl

end Fields

namespace Decoder

variable {α : Type}

/-- Any document. -/
def document : Decoder Json := fun _ j => .ok j

/-- A string. -/
def string : Decoder String := fun _ j =>
  match j with
  | .str s => .ok s
  | j => .error (.wrongKind j "a string")

/-- A truth value. -/
def boolean : Decoder Bool := fun _ j =>
  match j with
  | .bool b => .ok b
  | j => .error (.wrongKind j "a boolean")

/-- A whole number between bounds, under the name of its type. -/
def whole (type : String) (low high : Int) : Decoder Int := fun _ j =>
  match j with
  | .num (.whole n) =>
      if low ≤ n ∧ n ≤ high then .ok n else .error (.wrongValue j type)
  | j => .error (.wrongKind j type)

/-- A natural number below a bound, under the name of its type. -/
def natural (type : String) (bound : Nat) : Decoder Nat := fun aside j =>
  (whole type 0 (bound - 1) aside j).map Int.toNat

/-- A natural number of 32 bits. -/
def nat32 : Decoder Nat := natural "u32" 4294967296

/-- A natural number of 64 bits. -/
def nat64 : Decoder Nat := natural "u64" 18446744073709551616

/-- A natural number that counts things. -/
def count : Decoder Nat := natural "usize" 18446744073709551616

/-- A signed number of 64 bits. -/
def int64 : Decoder Int := whole "i64" (-9223372036854775808) 9223372036854775807

/-- Every item of a list. -/
def items (d : Decoder α) (aside : Bool) : List Json → Except DecodeFault (List α)
  | [] => .ok []
  | j :: rest => do
      let a ← d aside j
      let more ← items d aside rest
      .ok (a :: more)

/-- A list. -/
def list (d : Decoder α) : Decoder (List α) := fun aside j =>
  match j with
  | .arr xs => items d aside xs
  | j => .error (.wrongKind j "a sequence")

/-- Every value of some entries. -/
def entries (d : Decoder α) (aside : Bool) :
    List (String × Json) → Except DecodeFault (List (String × α))
  | [] => .ok []
  | (k, j) :: rest => do
      let a ← d aside j
      let more ← entries d aside rest
      .ok ((k, a) :: more)

/-- Values under names. -/
def table (d : Decoder α) : Decoder (Table α) := fun aside j =>
  match j with
  | .obj members => entries d aside members
  | j => .error (.wrongKind j "a map")

/-- A value or nothing. -/
def optional (d : Decoder α) : Decoder (Option α) := Fields.orNull d

/-- A time stamp. -/
def instant : Decoder Instant := fun _ j =>
  match j with
  | .str s => (Instant.parse s).mapError .malformedTime
  | j => .error (.wrongKind j "an RFC 3339 formatted date and time string")

/-- A span of time in words. -/
def span : Decoder Span := fun _ j =>
  match j with
  | .str s =>
      match Span.parse? s with
      | some d => .ok d
      | none => .error (.wrongValue j "a duration")
  | j => .error (.wrongKind j "a duration")

/-- The case of a name. -/
def named (cases : List (String × α)) (name : String) : Except DecodeFault α :=
  match cases.find? fun c => c.1 == name with
  | some c => .ok c.2
  | none => .error (.unknownCase name (cases.map (·.1)))

/-- One of some names, or an object of that name alone with nothing in it. -/
def oneOf (cases : List (String × α)) : Decoder α := fun aside j =>
  match j with
  | .str s => named cases s
  | .obj [(s, v)] => do
      let a ← named cases s
      match v with
      | .null => .ok a
      | .obj [] => if aside then .ok a else .error (.wrongKind v "unit")
      | v => .error (.wrongKind v "unit")
  | .obj _ => .error (.wrongValue j "map with a single key")
  | j => .error (.wrongKind j "string or map")

/-- A record. -/
def record (name : String) (fields : Fields α) : Decoder α := fields.read s!"struct {name}"

/-- A case of a tagged value: nothing more, fields of its own, or a value of another type. -/
inductive Case (α : Type) where
  | plain (a : α)
  | record (fields : Fields α)
  | inner (d : Decoder α)

/-- The name of a case out of a tag; in a part set aside its position counts too. -/
def caseOf {β : Type} (cases : List (String × β)) (aside : Bool) (tag : Json) :
    Except DecodeFault (String × β) :=
  match tag with
  | .str s => (named cases s).map fun c => (s, c)
  | .num (.whole n) =>
      if aside ∧ 0 ≤ n then
        match cases[n.toNat]? with
        | some c => .ok c
        | none => .error (.wrongValue tag s!"variant index 0 <= i < {cases.length}")
      else .error (.wrongKind tag "variant identifier")
  | tag => .error (.wrongKind tag "variant identifier")

/-- The value of a case out of what stands beside the tag. -/
def Case.read (type name : String) (c : Case α) (content : Json) : Except DecodeFault α :=
  match c with
  | .plain a => .ok a
  | .record fields => fields.read s!"struct variant {type}::{name}" true content
  | .inner d => d true content

/-- A value whose case is told by a member beside its fields, or by the first item. -/
def tagged (type tag : String) (cases : List (String × Case α)) : Decoder α := fun aside j =>
  match j with
  | .obj members =>
      match Table.get? tag members with
      | none => .error (.missing tag)
      | some t => do
          let (name, c) ← caseOf cases aside t
          c.read type name (.obj (Table.remove tag members))
  | .arr [] => .error (.missing tag)
  | .arr (t :: rest) => do
      let (name, c) ← caseOf cases aside t
      c.read type name (.arr rest)
  | j => .error (.wrongKind j s!"internally tagged enum {type}")

/-- A value that is an object of one member, named for its case, with the fields in it. -/
def keyed (type : String) (cases : List (String × Fields α)) : Decoder α := fun aside j =>
  match j with
  | .obj [(name, v)] => do
      let fields ← named cases name
      match v with
      | .obj _ | .arr _ => fields.read s!"struct variant {type}::{name}" aside v
      | v => .error (.wrongKind v "struct variant")
  | .obj _ => .error (.wrongValue j "map with a single key")
  | j => .error (.wrongKind j "string or map")

/-- A document read from its start. -/
def run (d : Decoder α) (j : Json) : Except DecodeFault α := d false j

@[simp] theorem string_str (aside : Bool) (s : String) : string aside (.str s) = .ok s := rfl

@[simp] theorem document_eq (aside : Bool) (j : Json) : document aside j = .ok j := rfl

theorem natural_nat {type : String} {bound n : Nat} (aside : Bool) (h : n < bound) :
    natural type bound aside (.nat n) = .ok n := by
  have hn : (n : Int) ≤ (bound : Int) - 1 := by omega
  simp [natural, whole, Json.nat, hn, Except.map]

end Decoder
end Connector
