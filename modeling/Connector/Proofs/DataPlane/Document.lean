import Connector.DataPlane.Codec
import Connector.Proofs.Json.Reading

/-!
# Data planes read back

A data plane is written as an object of its fields, and its load as null if none was reported.
Whatever fits its type is read again as it was.  Statements:

* `Capability.reads` — a capability reads back;
* `DataPlane.reads` — a data plane reads back, if its load fits its word and its instants the
  clock.
-/

namespace Connector

open Fields Decoder

theorem Capability.reads (c : Capability) : decoder.Reads c.toJson c := by
  have hget := Table.get?_ofEntries
    [("source_type", Json.str c.source), ("destination_type", .str c.destination)] (by simp)
  simp only [List.forall_mem_cons] at hget
  obtain ⟨hsource, hdestination, -⟩ := hget
  exact reads_record (reads_seq (reads_map _ (reads_required hsource (reads_string _)))
    (reads_required hdestination (reads_string _)))

namespace DataPlane

/-- The fields of a data plane with what is written of each. -/
def fields (p : DataPlane) : List (String × Json) :=
  [("id", .str p.id), ("url", .str p.url),
    ("capabilities", .arr (p.capabilities.map Capability.toJson)),
    ("properties", .obj (p.properties.mapValues .str)),
    ("registered_at", .instant p.registeredAt), ("last_seen", .instant p.lastSeen),
    ("load", Json.orNull .nat p.load)]

/-- The members of the document of a data plane. -/
def members (p : DataPlane) : Table Json := Table.ofEntries p.fields

theorem toJson_eq (p : DataPlane) : p.toJson = .obj p.members := rfl

/-- Every field is found among the members. -/
theorem get?_members (p : DataPlane) : ∀ e ∈ p.fields, Table.get? e.1 p.members = some e.2 :=
  Table.get?_ofEntries p.fields (by simp [fields])

/-- A load fits its word, if there is one. -/
def LoadFits (load : Option Nat) : Prop := ∀ n, load = some n → n < 4294967296

/-- The data plane fits its type: its load the word, its instants the clock. -/
structure IsTyped (p : DataPlane) : Prop where
  load : LoadFits p.load
  registeredAt : p.registeredAt.inRange = true
  lastSeen : p.lastSeen.inRange = true

/-- **A data plane reads back** from its document. -/
theorem reads {p : DataPlane} (typed : p.IsTyped) : decoder.Reads p.toJson p := by
  have hget := p.get?_members
  simp only [fields, List.forall_mem_cons] at hget
  obtain ⟨hid, hurl, hcapabilities, hproperties, hregistered, hseen, hload, -⟩ := hget
  obtain ⟨id, url, capabilities, properties, registeredAt, lastSeen, load⟩ := p
  -- The fields are taken off from the last one to the first.
  refine reads_record ?_
  refine reads_seq ?_ (reads_withDefault hload (reads_orNull fun n hn =>
    ⟨nofun, reads_nat32 (typed.load n hn)⟩))
  refine reads_seq ?_ (reads_required hseen (reads_instant typed.lastSeen))
  refine reads_seq ?_ (reads_required hregistered (reads_instant typed.registeredAt))
  refine reads_seq ?_ (reads_withDefault hproperties (reads_table _))
  refine reads_seq ?_ (reads_required hcapabilities (reads_list fun c _ => c.reads))
  refine reads_seq ?_ (reads_required hurl (reads_string _))
  exact reads_map _ (reads_required hid (reads_string _))

end DataPlane
end Connector
