import Connector.Proofs.Json.Reading
import Connector.Transfer.Codec

/-!
# Records read back

A record is written as an object of its fields.  What is absent is written as null, and nothing
that is there is.  Whatever fits its type is read again as it was.  Statements:

* `DataRequest.reads`, `Outcome.reads`, `Assignment.reads`, `Lease.reads` — the parts of a record
  read back;
* `Transfer.reads` — a record reads back, if its counters fit their words and its instants the
  clock.
-/

namespace Connector

open Fields Decoder

theorem DataAddress.reads (a : DataAddress) : decoder.Reads a.toJson a := by
  have hget := Table.get?_ofEntries
    [("type", Json.str a.type), ("properties", .obj (a.properties.mapValues .str))] (by simp)
  simp only [List.forall_mem_cons] at hget
  obtain ⟨htype, hproperties, -⟩ := hget
  exact reads_record (reads_seq (reads_map _ (reads_required htype (reads_string _)))
    (reads_withDefault hproperties (reads_table _)))

theorem DataRequest.reads (r : DataRequest) : decoder.Reads r.toJson r := by
  have hget := Table.get?_ofEntries
    [("id", .str r.id), ("agreement_id", .str r.agreementId), ("asset_id", .str r.assetId),
      ("connector_id", .str r.connectorId), ("connector_address", .str r.connectorAddress),
      ("protocol", .str r.protocol), ("source", r.source.toJson),
      ("destination", r.destination.toJson),
      ("data_plane_properties", Json.obj (r.dataPlaneProperties.mapValues .str))] (by simp)
  simp only [List.forall_mem_cons] at hget
  obtain ⟨hid, hagreement, hasset, hconnector, haddress, hprotocol, hsource, hdestination,
    hproperties, -⟩ := hget
  obtain ⟨id, _, _, _, _, _, source, destination, _⟩ := r
  refine reads_record ?_
  refine reads_seq ?_ (reads_withDefault hproperties (reads_table _))
  refine reads_seq ?_ (reads_required hdestination destination.reads)
  refine reads_seq ?_ (reads_required hsource source.reads)
  refine reads_seq ?_ (reads_withDefault hprotocol (reads_string _))
  refine reads_seq ?_ (reads_required haddress (reads_string _))
  refine reads_seq ?_ (reads_required hconnector (reads_string _))
  refine reads_seq ?_ (reads_required hasset (reads_string _))
  refine reads_seq ?_ (reads_required hagreement (reads_string _))
  exact reads_map _ (reads_required hid (reads_string _))

theorem Outcome.reads (o : Outcome) : decoder.Reads o.toJson o := by
  cases o with
  | succeeded =>
      intro aside
      rfl
  | failed detail =>
      have hget := Table.get?_ofEntries
        [("status", Json.str "failed"), ("detail", .str detail)] (by simp)
      simp only [List.forall_mem_cons] at hget
      obtain ⟨hstatus, hdetail, -⟩ := hget
      rw [← Table.get?_remove_of_ne (show "detail" ≠ "status" by decide)] at hdetail
      exact reads_tagged hstatus rfl (reads_map _ (reads_required hdetail (reads_string _)))

theorem Outcome.toJson_ne_null (o : Outcome) : o.toJson ≠ .null := by
  cases o with
  | succeeded | failed => exact Json.obj_ne_null _

theorem Assignment.reads {a : Assignment} (h : a.startedAt.inRange = true) :
    decoder.Reads a.toJson a := by
  have hget := Table.get?_ofEntries
    [("instance_id", Json.str a.dataPlaneId), ("handle", .str a.handle),
      ("started_at", .instant a.startedAt)] (by simp)
  simp only [List.forall_mem_cons] at hget
  obtain ⟨hplane, hhandle, hstarted, -⟩ := hget
  exact reads_record (reads_seq (reads_seq (reads_map _ (reads_required hplane (reads_string _)))
    (reads_required hhandle (reads_string _))) (reads_required hstarted (reads_instant h)))

theorem Lease.reads {l : Lease} (h : l.expiresAt.inRange = true) : decoder.Reads l.toJson l := by
  have hget := Table.get?_ofEntries
    [("holder", Json.str l.holder), ("expires_at", .instant l.expiresAt)] (by simp)
  simp only [List.forall_mem_cons] at hget
  obtain ⟨hholder, hexpires, -⟩ := hget
  exact reads_record (reads_seq (reads_map _ (reads_required hholder (reads_string _)))
    (reads_required hexpires (reads_instant h)))

namespace Transfer

theorem Role.reads (r : Role) : Role.decoder.Reads r.toJson r := by
  intro aside
  cases r <;> rfl

theorem State.reads (s : State) : State.decoder.Reads s.toJson s := by
  intro aside
  cases s <;> rfl

theorem Command.reads (c : Command) : Command.decoder.Reads c.toJson c := by
  intro aside
  cases c <;> rfl

theorem Command.toJson_ne_null (c : Command) : c.toJson ≠ .null := by
  cases c with
  | cancel | suspend | resume => exact Json.str_ne_null _

/-- The instants that a record tells of. -/
def instants (p : Transfer) : List Instant :=
  [p.stateTimestamp, p.createdAt] ++ (p.dataFlow.map (·.startedAt)).toList ++ p.retryAt.toList
    ++ (p.lease.map (·.expiresAt)).toList

/-- The record fits its types: its counters their words, its instants the clock. -/
structure IsTyped (p : Transfer) : Prop where
  fitsWords : p.fitsWords = true
  inRange : ∀ t ∈ p.instants, t.inRange = true

/-- **A record reads back** from its document. -/
theorem reads {p : Transfer} (typed : p.IsTyped) : decoder.Reads p.toJson p := by
  obtain ⟨hwords, hinstants⟩ := typed
  simp only [instants, List.cons_append, List.nil_append, List.append_assoc, List.forall_mem_cons,
    List.forall_mem_append] at hinstants
  obtain ⟨hentered, hcreated, hflow, hretry, hlease⟩ := hinstants
  have hget := Table.get?_ofEntries
    (p.livingMembers ++ [("type", p.role.toJson), ("created_at", .instant p.createdAt),
      ("data_request", p.request.toJson)]) (by simp [livingMembers])
  simp only [livingMembers, List.cons_append, List.nil_append, List.forall_mem_cons] at hget
  obtain ⟨hid, hstate, hcount, htimestamp, hdetail, hsuspended, hcommand, hdataFlow, hcompletion,
    hretryAt, hleased, hversion, htype, hcreatedAt, hrequest, -⟩ := hget
  obtain ⟨hcountFits, hversionFits⟩ : p.stateCount < 4294967296 ∧
      p.version < 18446744073709551616 := by
    simpa [fitsWords] using hwords
  -- The fields are taken off from the last one to the first.
  obtain ⟨id, role, state, _, _, _, request, _, _, _, _, _, _, _, _⟩ := p
  refine reads_record ?_
  refine reads_seq ?_ (reads_required hversion (reads_nat64 hversionFits))
  refine reads_seq ?_ (reads_optional hleased fun l hl =>
    ⟨Json.obj_ne_null _, Lease.reads (hlease _ ?_)⟩)
  refine reads_seq ?_ (reads_optional hretryAt fun t ht =>
    ⟨Json.str_ne_null _, reads_instant (hretry _ ?_)⟩)
  refine reads_seq ?_ (reads_optional hcompletion fun o _ => ⟨o.toJson_ne_null, o.reads⟩)
  refine reads_seq ?_ (reads_optional hdataFlow fun a ha =>
    ⟨Json.obj_ne_null _, Assignment.reads (hflow _ ?_)⟩)
  refine reads_seq ?_ (reads_optional hcommand fun c _ => ⟨c.toJson_ne_null, c.reads⟩)
  refine reads_seq ?_ (reads_optional hsuspended fun s _ => ⟨Json.str_ne_null _, s.reads⟩)
  refine reads_seq ?_ (reads_optional hdetail fun s _ => ⟨Json.str_ne_null _, reads_string s⟩)
  refine reads_seq ?_ (reads_required hrequest request.reads)
  refine reads_seq ?_ (reads_required hcreatedAt (reads_instant hcreated))
  refine reads_seq ?_ (reads_required htimestamp (reads_instant hentered))
  refine reads_seq ?_ (reads_required hcount (reads_nat32 hcountFits))
  refine reads_seq ?_ (reads_required hstate state.reads)
  refine reads_seq ?_ (reads_required htype role.reads)
  · exact reads_map _ (reads_required hid (reads_string id))
  · simp [ha]
  · simp [ht]
  · simp [hl]

end Transfer
end Connector
