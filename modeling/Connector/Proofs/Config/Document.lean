import Connector.Config.Codec
import Connector.Config.Validation
import Connector.Proofs.Json.Reading

/-!
# Configurations read back

A configuration is written with all its fields but four: labels, the callback address and the
connection string are left out where there are none, and the policies where the list of them is
empty.  For each of the four an absent field is read as just that.  The liveness timeout is not
among them: left out it would be read as five minutes, so none at all is written as null.  A part
that reads back hands that on to the record around it.  Statements:

* `Orchestration.reads`, `Registry.reads`, `PolicyBinding.reads`, `Storage.reads`, … — the parts of
  a configuration read back;
* `Manifest.reads` — a configuration reads back, if its counts fit their words and its spans are
  no longer than spans can be;
* `Manifest.run_toJson` — so what is read is in order exactly when what was written was.
-/

namespace Connector

open Fields Decoder

namespace RetryPolicy

/-- The spans of a retry policy. -/
def spans (r : RetryPolicy) : List Span := [r.baseDelay, r.maxDelay]

theorem reads {r : RetryPolicy} (hcount : r.maxAttempts < 4294967296)
    (hspans : ∀ s ∈ r.spans, s.nanos ≤ Span.longest.nanos) : decoder.Reads r.toJson r := by
  have hget := Table.get?_ofEntries
    [("max_attempts", Json.nat r.maxAttempts), ("base_delay", .str r.baseDelay.format),
      ("max_delay", .str r.maxDelay.format)] (by simp)
  simp only [List.forall_mem_cons] at hget
  simp only [spans, List.forall_mem_cons] at hspans
  obtain ⟨hattempts, hbase, hmax, -⟩ := hget
  obtain ⟨hbaseFits, hmaxFits, -⟩ := hspans
  obtain ⟨_, _, _⟩ := r
  refine reads_record ?_
  refine reads_seq ?_ (reads_withDefault hmax (reads_span hmaxFits))
  refine reads_seq ?_ (reads_withDefault hbase (reads_span hbaseFits))
  exact reads_map _ (reads_withDefault hattempts (reads_nat32 hcount))

end RetryPolicy

namespace Config

/-- The members of an object of which one may be left out are found where they stand, and that one
only if it is there. -/
theorem get?_unlessNone {α : Type} (members : List (String × Json)) (name : String)
    (write : α → Json) (o : Option α) (distinct : (members.map Prod.fst).Nodup)
    (hname : name ∉ members.map Prod.fst) :
    Table.get? name (Table.ofEntries (members ++ unlessNone name write o)) = o.map write ∧
      ∀ e ∈ members, Table.get? e.1 (Table.ofEntries (members ++ unlessNone name write o)) =
        some e.2 := by
  cases o with
  | none =>
      rw [unlessNone, List.append_nil]
      exact ⟨Table.get?_ofEntries_of_notMem hname, Table.get?_ofEntries members distinct⟩
  | some a =>
      have hdistinct : ((members ++ [(name, write a)]).map Prod.fst).Nodup := by
        rw [List.map_append]
        refine List.nodup_append.2 ⟨distinct, by simp, fun x hx y hy hxy => hname ?_⟩
        have hyname : y = name := List.mem_singleton.1 hy
        rwa [← hyname, ← hxy]
      have hget := Table.get?_ofEntries (members ++ [(name, write a)]) hdistinct
      exact ⟨hget (name, write a) (List.mem_append_right _ List.mem_cons_self),
        fun e he => hget e (List.mem_append_left _ he)⟩

theorem Identity.reads (i : Identity) : decoder.Reads i.toJson i := by
  obtain ⟨hcallback, hget⟩ := get?_unlessNone [("id", Json.str i.id)] "callback_address"
    Json.str i.callbackAddress (by simp) (by simp)
  simp only [List.forall_mem_cons] at hget
  obtain ⟨_, _⟩ := i
  refine reads_record ?_
  refine reads_seq ?_ (reads_maybe hcallback fun s _ => ⟨Json.str_ne_null s, reads_string s⟩)
  exact reads_map _ (reads_required hget.1 (reads_string _))

namespace Orchestration

/-- The spans of the workers' behaviour. -/
def spans (o : Orchestration) : List Span :=
  [o.pollInterval, o.leaseDuration, o.dispatchTimeout, o.statusPollInterval, o.transferTimeout]
    ++ o.retry.spans

theorem reads {o : Orchestration}
    (hcounts : ∀ n ∈ [o.workers, o.batchSize], n < 18446744073709551616)
    (hattempts : o.retry.maxAttempts < 4294967296)
    (hspans : ∀ s ∈ o.spans, s.nanos ≤ Span.longest.nanos) : decoder.Reads o.toJson o := by
  have hget := Table.get?_ofEntries
    [("workers", Json.nat o.workers), ("batch_size", .nat o.batchSize),
      ("poll_interval", .str o.pollInterval.format),
      ("lease_duration", .str o.leaseDuration.format),
      ("dispatch_timeout", .str o.dispatchTimeout.format), ("retry", o.retry.toJson),
      ("status_poll_interval", .str o.statusPollInterval.format),
      ("transfer_timeout", .str o.transferTimeout.format)] (by simp)
  simp only [List.forall_mem_cons] at hget hcounts
  simp only [spans, List.forall_mem_append, List.forall_mem_cons] at hspans
  obtain ⟨hworkers, hbatch, hpoll, hlease, hdispatch, hretry, hstatus, htransfer, -⟩ := hget
  obtain ⟨hworkersFit, hbatchFits, -⟩ := hcounts
  obtain ⟨⟨hpollFits, hleaseFits, hdispatchFits, hstatusFits, htransferFits, -⟩, hretryFits⟩ :=
    hspans
  obtain ⟨_, _, _, _, _, _, _, _⟩ := o
  refine reads_record ?_
  refine reads_seq ?_ (reads_withDefault htransfer (reads_span htransferFits))
  refine reads_seq ?_ (reads_withDefault hstatus (reads_span hstatusFits))
  refine reads_seq ?_ (reads_withDefault hretry (RetryPolicy.reads hattempts hretryFits))
  refine reads_seq ?_ (reads_withDefault hdispatch (reads_span hdispatchFits))
  refine reads_seq ?_ (reads_withDefault hlease (reads_span hleaseFits))
  refine reads_seq ?_ (reads_withDefault hpoll (reads_span hpollFits))
  refine reads_seq ?_ (reads_withDefault hbatch (reads_count hbatchFits))
  exact reads_map _ (reads_withDefault hworkers (reads_count hworkersFit))

end Orchestration

theorem StaticDataPlane.reads (d : StaticDataPlane) : decoder.Reads d.toJson d := by
  have hget := Table.get?_ofEntries
    [("id", Json.str d.id), ("url", .str d.url), ("transfer_types", .strings d.transferTypes),
      ("properties", propertiesJson d.properties)] (by simp)
  simp only [List.forall_mem_cons] at hget
  obtain ⟨hid, hurl, htypes, hproperties, -⟩ := hget
  obtain ⟨_, _, _, _⟩ := d
  refine reads_record ?_
  refine reads_seq ?_ (reads_withDefault hproperties (reads_table _))
  refine reads_seq ?_ (reads_required htypes (reads_list fun s _ => reads_string s))
  refine reads_seq ?_ (reads_required hurl (reads_string _))
  exact reads_map _ (reads_required hid (reads_string _))

namespace Registry

/-- The spans of a registry. -/
def spans (r : Registry) : List Span := r.sweepInterval :: r.livenessTimeout.toList

theorem reads {r : Registry} (hspans : ∀ s ∈ r.spans, s.nanos ≤ Span.longest.nanos) :
    decoder.Reads r.toJson r := by
  have hget := Table.get?_ofEntries
    [("liveness_timeout", Json.orNull (fun s => .str s.format) r.livenessTimeout),
      ("sweep_interval", .str r.sweepInterval.format),
      ("instances", .arr (r.dataPlanes.map StaticDataPlane.toJson))] (by simp)
  simp only [List.forall_mem_cons] at hget
  simp only [spans, List.forall_mem_cons] at hspans
  obtain ⟨hliveness, hsweep, hinstances, -⟩ := hget
  obtain ⟨hsweepFits, hlivenessFits⟩ := hspans
  have htimeout : (Decoder.optional span).Reads
      (Json.orNull (fun s => .str s.format) r.livenessTimeout) r.livenessTimeout :=
    reads_orNull fun s hs => ⟨Json.str_ne_null _,
      reads_span (hlivenessFits s (by rw [hs]; exact List.mem_singleton_self s))⟩
  obtain ⟨_, _, _⟩ := r
  refine reads_record ?_
  refine reads_seq ?_ (reads_withDefault hinstances (reads_list fun d _ => d.reads))
  refine reads_seq ?_ (reads_withDefault hsweep (reads_span hsweepFits))
  exact reads_map _ (reads_withDefault hliveness htimeout)

end Registry

theorem PolicyBinding.reads (b : PolicyBinding) : decoder.Reads b.toJson b := by
  have hget := Table.get?_ofEntries
    [("agreement_id", Json.str b.agreementId), ("policy", b.policy),
      ("attributes", .obj b.attributes)] (by simp)
  simp only [List.forall_mem_cons] at hget
  obtain ⟨hagreement, hpolicy, hattributes, -⟩ := hget
  have htable : (table document).Reads (.obj b.attributes) b.attributes := by
    have hsame : b.attributes.mapValues (fun j => j) = b.attributes := List.map_id _
    have hread : (table document).Reads (.obj (b.attributes.mapValues fun j => j)) b.attributes :=
      reads_entries fun _ _ _ => rfl
    rwa [hsame] at hread
  obtain ⟨_, _, _⟩ := b
  refine reads_record ?_
  refine reads_seq ?_ (reads_withDefault hattributes htable)
  refine reads_seq ?_ (reads_required hpolicy fun _ => rfl)
  exact reads_map _ (reads_required hagreement (reads_string _))

theorem BackendKind.reads (k : BackendKind) : (oneOf BackendKind.cases).Reads (.str k.name) k := by
  intro aside
  cases k <;> rfl

theorem Storage.reads {s : Storage} (hcount : s.maxConnections < 4294967296) :
    decoder.Reads s.toJson s := by
  obtain ⟨hconnection, hget⟩ := get?_unlessNone
    [("backend", Json.str s.backend.name), ("max_connections", .nat s.maxConnections)]
    "connection_string" Json.str s.connectionString (by simp) (by simp)
  simp only [List.forall_mem_cons] at hget
  obtain ⟨hbackend, hmost, -⟩ := hget
  obtain ⟨_, _, _⟩ := s
  refine reads_record ?_
  refine reads_seq ?_ (reads_withDefault hmost (reads_nat32 hcount))
  refine reads_seq ?_ (reads_maybe hconnection fun c _ => ⟨Json.str_ne_null c, reads_string c⟩)
  exact reads_map _ (reads_withDefault hbackend (BackendKind.reads _))

theorem Metadata.reads (m : Metadata) : decoder.Reads m.toJson m := by
  obtain ⟨hlabels, hget⟩ := get?_unlessNone [("name", Json.str m.name)] "labels" propertiesJson
    m.labels (by simp) (by simp)
  simp only [List.forall_mem_cons] at hget
  obtain ⟨_, _⟩ := m
  refine reads_record ?_
  refine reads_seq ?_ (reads_maybe hlabels fun t _ => ⟨Json.obj_ne_null _, reads_table t⟩)
  exact reads_map _ (reads_required hget.1 (reads_string _))

namespace Spec

/-- The specification fits its types: its counts their words, its spans the longest one. -/
structure IsTyped (s : Spec) : Prop where
  counts : ∀ n ∈ [s.orchestrator.workers, s.orchestrator.batchSize], n < 18446744073709551616
  shortCounts : ∀ n ∈ [s.orchestrator.retry.maxAttempts, s.storage.maxConnections], n < 4294967296
  spans : ∀ d ∈ s.orchestrator.spans ++ s.dataPlanes.spans, d.nanos ≤ Span.longest.nanos

/-- The policies read back from the member they are written in, or from its absence. -/
theorem reads_policies {members : List (String × Json)} {bindings : List PolicyBinding}
    (hget : Table.get? "policies" members =
      if bindings.isEmpty then none else some (.arr (bindings.map PolicyBinding.toJson))) :
    (withDefault "policies" [] (list PolicyBinding.decoder)).Reads members bindings := by
  cases bindings with
  | nil => exact reads_absent hget
  | cons b rest => exact reads_withDefault hget (reads_list fun c _ => c.reads)

theorem reads {s : Spec} (typed : s.IsTyped) : decoder.Reads s.toJson s := by
  obtain ⟨hcounts, hshort, hspans⟩ := typed
  simp only [List.forall_mem_append] at hspans
  simp only [List.forall_mem_cons] at hshort
  obtain ⟨hattempts, hconnections, -⟩ := hshort
  have hmember : (if s.policies.isEmpty then []
      else [("policies", Json.arr (s.policies.map PolicyBinding.toJson))]) =
      unlessNone "policies" (fun j => j)
        (if s.policies.isEmpty then none
          else some (Json.arr (s.policies.map PolicyBinding.toJson))) := by
    split <;> rfl
  obtain ⟨hpolicies, hget⟩ := get?_unlessNone
    [("connector", s.connector.toJson), ("orchestrator", s.orchestrator.toJson),
      ("data_planes", s.dataPlanes.toJson), ("storage", s.storage.toJson)]
    "policies" (fun j => j)
    (if s.policies.isEmpty then none else some (Json.arr (s.policies.map PolicyBinding.toJson)))
    (by simp) (by simp)
  rw [← hmember, Option.map_id'] at hpolicies
  rw [← hmember] at hget
  simp only [List.forall_mem_cons] at hget
  obtain ⟨hconnector, horchestrator, hplanes, hstorage, -⟩ := hget
  obtain ⟨_, _, _, _, _⟩ := s
  refine reads_record ?_
  refine reads_seq ?_ (reads_withDefault hstorage (Storage.reads hconnections))
  refine reads_seq ?_ (reads_policies hpolicies)
  refine reads_seq ?_ (reads_withDefault hplanes (Registry.reads hspans.2))
  refine reads_seq ?_ (reads_withDefault horchestrator
    (Orchestration.reads hcounts hattempts hspans.1))
  exact reads_map _ (reads_required hconnector (Identity.reads _))

end Spec

namespace Manifest

theorem reads {m : Manifest} (typed : m.spec.IsTyped) : decoder.Reads m.toJson m := by
  have hget := Table.get?_ofEntries
    [("apiVersion", Json.str m.apiVersion), ("kind", .str m.kind),
      ("metadata", m.metadata.toJson), ("spec", m.spec.toJson)] (by simp)
  simp only [List.forall_mem_cons] at hget
  obtain ⟨hversion, hkind, hmetadata, hspec, -⟩ := hget
  obtain ⟨_, _, _, _⟩ := m
  refine reads_record ?_
  refine reads_seq ?_ (reads_required hspec (Spec.reads typed))
  refine reads_seq ?_ (reads_required hmetadata (Metadata.reads _))
  refine reads_seq ?_ (reads_required hkind (reads_string _))
  exact reads_map _ (reads_required hversion (reads_string _))

/-- **A configuration survives being written and read**: what is read from its document is the
configuration, and its check comes out the same. -/
theorem run_toJson {m : Manifest} (typed : m.spec.IsTyped) :
    decoder.run m.toJson = .ok m ∧
      (decoder.run m.toJson).map validate = .ok m.validate := by
  have hread : decoder.run m.toJson = .ok m := (reads typed).run
  rw [hread]
  exact ⟨rfl, rfl⟩

/-- The manifest to start from, with labels, without a liveness timeout, its leases a nanosecond
longer than a minute. -/
def laboratory : Manifest :=
  let m := Manifest.sample "laboratory" true
  { m with
    metadata := ⟨m.metadata.name, some [("stage", "trial")]⟩
    spec := { m.spec with
      orchestrator := { m.spec.orchestrator with leaseDuration := ⟨60000000001⟩ }
      dataPlanes := { m.spec.dataPlanes with livenessTimeout := none } } }

theorem run_toJson_laboratory :
    laboratory.spec.IsTyped ∧ decoder.run laboratory.toJson = .ok laboratory ∧
      (decoder.run laboratory.toJson).map validate = .ok laboratory.validate := by
  have typed : laboratory.spec.IsTyped :=
    ⟨by decide +kernel, by decide +kernel, by decide +kernel⟩
  exact ⟨typed, run_toJson typed⟩

end Manifest
end Config
end Connector
