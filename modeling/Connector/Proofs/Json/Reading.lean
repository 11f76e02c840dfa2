import Connector.Json.Decode
import Connector.Proofs.Time.SpanText

/-!
# Documents read back

A decoder reads a document as a value if it gives that value, whether the document was set aside
before or not.  Fields read one by one make a record that reads.  Statements:

* `get?_ofEntries` — where every name stands once, each is found with its value;
* `reads_instant`, `reads_span` — time stamps and spans read back;
* `reads_list`, `reads_entries`, `reads_table` — lists and tables read back if what they hold does;
* `reads_record`, `reads_seq`, `reads_required`, `reads_optional` — a record reads back if its
  fields do;
* `reads_maybe`, `reads_absent` — so it does where fields are left out.
-/

namespace Connector
namespace Table

variable {α : Type u} {entries : List (String × α)}

/-- What is put under other names does not matter. -/
theorem get?_foldl_put_of_notMem {name : String} (h : name ∉ entries.map Prod.fst)
    (t : Table α) :
    get? name (entries.foldl (fun t e => put e.1 e.2 t) t) = get? name t := by
  induction entries generalizing t with
  | nil => rfl
  | cons e rest ih =>
      rw [List.map_cons, List.mem_cons, not_or] at h
      rw [List.foldl_cons, ih h.2, get?_put_of_ne h.1]

/-- Where every name stands once, each is found with its value. -/
theorem get?_ofEntries (entries : List (String × α)) (distinct : (entries.map Prod.fst).Nodup) :
    ∀ e ∈ entries, get? e.1 (ofEntries entries) = some e.2 := by
  unfold ofEntries
  generalize ([] : Table α) = t
  induction entries generalizing t with
  | nil => exact fun _ he => absurd he List.not_mem_nil
  | cons d rest ih =>
      rw [List.map_cons, List.nodup_cons] at distinct
      refine List.forall_mem_cons.2 ⟨?_, fun e he => ?_⟩
      · rw [List.foldl_cons, get?_foldl_put_of_notMem distinct.1, get?_put_self]
      · rw [List.foldl_cons, ih distinct.2 _ e he]

/-- Under a name that stands nowhere, nothing is found. -/
theorem get?_ofEntries_of_notMem {name : String} (h : name ∉ entries.map Prod.fst) :
    get? name (ofEntries entries) = none :=
  get?_foldl_put_of_notMem h []

end Table

namespace Json

theorem str_ne_null (s : String) : str s ≠ null := by
  intro h
  cases h

theorem obj_ne_null (members : List (String × Json)) : obj members ≠ null := by
  intro h
  cases h

end Json

namespace Fields

variable {α β : Type}

/-- The fields stand for a value in an object, set aside or not. -/
def Reads (fields : Fields α) (members : List (String × Json)) (a : α) : Prop :=
  ∀ aside, fields.ofMembers aside members = .ok a

end Fields

namespace Decoder

variable {α β : Type}

/-- The document stands for a value, set aside or not. -/
def Reads (d : Decoder α) (j : Json) (a : α) : Prop := ∀ aside, d aside j = .ok a

theorem Reads.run {d : Decoder α} {j : Json} {a : α} (h : d.Reads j a) : d.run j = .ok a := h false

theorem reads_string (s : String) : string.Reads (.str s) s := fun _ => rfl

theorem reads_nat32 {n : Nat} (h : n < 4294967296) : nat32.Reads (.nat n) n :=
  fun aside => natural_nat aside h

theorem reads_nat64 {n : Nat} (h : n < 18446744073709551616) : nat64.Reads (.nat n) n :=
  fun aside => natural_nat aside h

/-- A time stamp reads back. -/
theorem reads_instant {t : Instant} (h : t.inRange = true) : instant.Reads (.str t.format) t := by
  intro aside
  simp only [instant, Instant.parse_format h]
  rfl

theorem reads_count {n : Nat} (h : n < 18446744073709551616) : count.Reads (.nat n) n :=
  fun aside => natural_nat aside h

/-- A span reads back. -/
theorem reads_span {s : Span} (h : s.nanos ≤ Span.longest.nanos) :
    span.Reads (.str s.format) s := by
  intro aside
  simp only [span, Span.parse?_format h]

/-- A list reads back if every item does. -/
theorem reads_list {d : Decoder α} {write : α → Json} {as : List α}
    (h : ∀ a ∈ as, d.Reads (write a) a) : (list d).Reads (.arr (as.map write)) as := by
  intro aside
  show items d aside (as.map write) = .ok as
  induction as with
  | nil => rfl
  | cons a rest ih =>
      rw [List.forall_mem_cons] at h
      rw [List.map_cons]
      simp only [items, h.1 aside, ok_bind, ih h.2]

/-- A table reads back, in its order, if every value does. -/
theorem reads_entries {d : Decoder α} {write : α → Json} {t : Table α}
    (h : ∀ e ∈ t, d.Reads (write e.2) e.2) : (table d).Reads (.obj (t.mapValues write)) t := by
  intro aside
  show entries d aside (t.mapValues write) = .ok t
  induction t with
  | nil => rfl
  | cons e rest ih =>
      rw [List.forall_mem_cons] at h
      have hrest : entries d aside (Table.mapValues write rest) = .ok rest := ih h.2
      show entries d aside ((e.1, write e.2) :: Table.mapValues write rest) = .ok (e :: rest)
      simp only [entries, h.1 aside, ok_bind, hrest]

/-- A table of strings reads back. -/
theorem reads_table (t : Table String) : (table string).Reads (.obj (t.mapValues .str)) t :=
  reads_entries fun e _ => reads_string e.2

/-- A value or nothing reads back, as long as no value is written as nothing. -/
theorem reads_orNull {d : Decoder α} {write : α → Json} {o : Option α}
    (h : ∀ a, o = some a → write a ≠ .null ∧ d.Reads (write a) a) :
    (optional d).Reads (Json.orNull write o) o := by
  intro aside
  cases o with
  | none => rfl
  | some a =>
      obtain ⟨hthere, hread⟩ := h a rfl
      show Fields.orNull d aside (write a) = .ok (some a)
      unfold Fields.orNull
      split
      · exact absurd ‹_› hthere
      · rw [hread aside]
        rfl

/-- A record reads back if its fields do. -/
theorem reads_record {name : String} {fields : Fields α} {members : List (String × Json)} {a : α}
    (h : fields.Reads members a) : (record name fields).Reads (.obj members) a := by
  intro aside
  simp only [record, Fields.read, h aside]
  rfl

/-- A tagged value reads back if the fields of its case do. -/
theorem reads_tagged {type tag name : String} {cases : List (String × Case α)}
    {fields : Fields α} {members : List (String × Json)} {a : α}
    (htag : Table.get? tag members = some (.str name))
    (hcase : named cases name = .ok (.record fields))
    (h : fields.Reads (Table.remove tag members) a) :
    (tagged type tag cases).Reads (.obj members) a := by
  intro aside
  simp only [tagged, htag, caseOf, hcase, Except.map, ok_bind, Case.read, Fields.read, h true]
  rfl

end Decoder

namespace Fields

variable {α β : Type} {members : List (String × Json)} {name : String}

theorem reads_map {x : Fields α} {a : α} (f : α → β) (hx : x.Reads members a) :
    (f <$> x).Reads members (f a) :=
  fun aside => ofMembers_seq_ok (ofMembers_pure f aside members) (hx aside)

theorem reads_seq {f : Fields (α → β)} {x : Fields α} {g : α → β} {a : α}
    (hf : f.Reads members g) (hx : x.Reads members a) : (f <*> x).Reads members (g a) :=
  fun aside => ofMembers_seq_ok (hf aside) (hx aside)

theorem reads_required {d : Decoder α} {j : Json} {a : α}
    (hget : Table.get? name members = some j) (h : d.Reads j a) :
    (required name d).Reads members a := by
  intro aside
  simp only [required, hget, within, h aside]
  rfl

theorem reads_withDefault {d : Decoder α} {j : Json} {a value : α}
    (hget : Table.get? name members = some j) (h : d.Reads j a) :
    (withDefault name value d).Reads members a := by
  intro aside
  simp only [withDefault, hget, within, h aside]
  rfl

/-- What may be absent reads back, as long as nothing that is there is written as nothing. -/
theorem reads_optional {d : Decoder α} {write : α → Json} {o : Option α}
    (hget : Table.get? name members = some (Json.orNull write o))
    (h : ∀ a, o = some a → write a ≠ .null ∧ d.Reads (write a) a) :
    (optional name d).Reads members o := by
  intro aside
  have hvalue : orNull d aside (Json.orNull write o) = .ok o := Decoder.reads_orNull h aside
  simp only [optional, hget, within, hvalue]
  rfl

/-- What is left out where it is absent reads back too. -/
theorem reads_maybe {d : Decoder α} {write : α → Json} {o : Option α}
    (hget : Table.get? name members = o.map write)
    (h : ∀ a, o = some a → write a ≠ .null ∧ d.Reads (write a) a) :
    (optional name d).Reads members o := by
  cases o with
  | none =>
      intro aside
      simp only [optional, hget, Option.map_none]
  | some a => exact reads_optional (o := some a) hget h

/-- A field that is left out has its own value. -/
theorem reads_absent {d : Decoder α} {value : α} (hget : Table.get? name members = none) :
    (withDefault name value d).Reads members value := by
  intro aside
  simp only [withDefault, hget]

end Fields
end Connector
