import Connector.Proofs.Sql.Row
import Connector.Proofs.Transfer.Document
import Connector.Proofs.Transfer.Signal
import Connector.Sql.TransferTable

/-!
# Rows that record transfers

A row is read in parts: the document, and in columns of their own the holder of the lease, its end
and the version, which count more than the document does.  What a statement writes is read again as
the record it was written for, and the columns beside the document say what the document says,
although no statement but the first writes all of them.  Statements:

* `ofRow_eq_ok_iff` — when a row reads, and as which record;
* `ofRow_of_document` — a row with the document of a record reads as the record, whatever lease and
  version were written into the document;
* `records_inserted`, `Records.claimed`, `Records.written`, `Records.released`,
  `Records.signalled` — the record of a row that a statement has added or changed;
* `mirrors_inserted`, `Mirrors.claimed`, `Mirrors.written`, `Mirrors.released`,
  `Mirrors.signalled` — the columns beside the document agree with it afterwards.
-/

namespace Connector

theorem bind_eq_ok_iff {ε α β : Type} {x : Except ε α} {f : α → Except ε β} {b : β} :
    (x >>= f) = .ok b ↔ ∃ a, x = .ok a ∧ f a = .ok b := by
  cases x with
  | error e => simp [bind, Except.bind]
  | ok a => simp [ok_bind]

theorem mapError_eq_ok_iff {ε ε' α : Type} {x : Except ε α} {f : ε → ε'} {a : α} :
    x.mapError f = .ok a ↔ x = .ok a := by
  cases x with
  | error e => simp [Except.mapError]
  | ok b => simp [Except.mapError]

namespace Sql

/-- An instant that may be absent, as a column holds it. -/
def Value.ofTime : Option Instant → Value
  | some t => instant t
  | none => null

namespace Row

variable {r : Row} {c : String}

theorem document_eq_ok_iff {j : Json} : r.document c = .ok j ↔ r.value c = .document j := by
  unfold document
  split <;> simp_all

theorem text?_eq_ok_iff {o : Option String} : r.text? c = .ok o ↔ r.value c = .ofText o := by
  unfold text?
  cases o <;> split <;> simp_all [Value.ofText]

theorem instant?_eq_ok_iff {o : Option Instant} :
    r.instant? c = .ok o ↔ r.value c = .ofTime o := by
  unfold instant?
  cases o <;> split <;> simp_all [Value.ofTime]

theorem number_eq_ok_iff {n : Int} : r.number c = .ok n ↔ r.value c = .number n := by
  unfold number numberNamed
  split <;> simp_all

end Row

namespace TransferTable

/-- What the columns of a row hold that a record is read from. -/
structure Parts where
  document : Json
  record : Transfer
  holder : Option String
  expiresAt : Option Instant
  version : Int

/-- The record of some parts: lease and version are not those of the document. -/
def Parts.transfer (x : Parts) : Transfer :=
  { x.record with lease := leaseOf x.holder x.expiresAt, version := toUnsigned x.version }

/-- A row holds the parts of a record. -/
structure Holds (r : Row) (x : Parts) : Prop where
  document_eq : r.value "payload" = .document x.document
  read_eq : Transfer.decoder.run x.document = .ok x.record
  holder_eq : r.value "lease_holder" = .ofText x.holder
  expiresAt_eq : r.value "lease_expires_at" = .ofTime x.expiresAt
  version_eq : r.value "version" = .number x.version

theorem ofRow_eq_ok_iff {r : Row} {p : Transfer} :
    ofRow r = .ok p ↔ ∃ x, Holds r x ∧ x.transfer = p := by
  simp only [ofRow, bind_eq_ok_iff, mapError_eq_ok_iff, Row.document_eq_ok_iff,
    Row.text?_eq_ok_iff, Row.instant?_eq_ok_iff, Row.number_eq_ok_iff]
  constructor
  · rintro ⟨j, hj, q, hq, holder, hholder, expiresAt, hexpires, version, hversion, hp⟩
    exact ⟨⟨j, q, holder, expiresAt, version⟩, ⟨hj, hq, hholder, hexpires, hversion⟩,
      Except.ok.inj hp⟩
  · rintro ⟨x, h, rfl⟩
    exact ⟨_, h.document_eq, _, h.read_eq, _, h.holder_eq, _, h.expiresAt_eq, _, h.version_eq,
      rfl⟩

/-- There is a lease where both of its columns hold something. -/
theorem leaseOf_eq (holder : Option String) (expiresAt : Option Instant) :
    leaseOf holder expiresAt = holder.bind fun h => expiresAt.map fun t => ⟨h, t⟩ := by
  cases holder <;> cases expiresAt <;> rfl

/-- **A row reads as what was written.**  Let the document of a row be that of a record, whatever
lease and version the record had when the document was written.  Then the row reads as the record,
field by field; but its version is the one of the column, and it is on lease exactly if both columns
of the lease hold something, with what they hold. -/
theorem ofRow_of_document (p : Transfer) (stale : Option Lease) (n : Nat)
    (typed : Transfer.IsTyped { p with lease := stale, version := n })
    (holder : Option String) (expiresAt : Option Instant) (version : Nat)
    (version_lt : version < 18446744073709551616) (r : Row)
    (document_eq : r.value "payload" =
      .document (Transfer.toJson { p with lease := stale, version := n }))
    (holder_eq : r.value "lease_holder" = .ofText holder)
    (expiresAt_eq : r.value "lease_expires_at" = .ofTime expiresAt)
    (version_eq : r.value "version" = .ofNat version) :
    ofRow r = .ok { p with
      lease := holder.bind fun h => expiresAt.map fun t => ⟨h, t⟩
      version := version } := by
  have hread := (Transfer.reads typed).run
  refine ofRow_eq_ok_iff.2 ⟨⟨_, _, holder, expiresAt, toSigned version⟩,
    ⟨document_eq, hread, holder_eq, expiresAt_eq, version_eq⟩, ?_⟩
  simp only [Parts.transfer, leaseOf_eq, toUnsigned_toSigned version_lt]

/-- Two rows with an outdated document: one says who has the lease and for how long, the other one
does not say how long. -/
theorem ofRow_of_document_outdated :
    let request : DataRequest :=
      ⟨"r", "a", "s", "c", "http://c", "p", ⟨"blob", [("k", "v")]⟩, ⟨"http", []⟩, []⟩
    let p : Transfer := { Transfer.create "t" .consumer request ⟨5⟩ with
      state := .started
      dataFlow := some ⟨"d", "h", ⟨1500000000⟩⟩
      completion := some (.failed "f") }
    let document : Json :=
      Transfer.toJson { p with lease := some ⟨"v", ⟨60000000000⟩⟩, version := 3 }
    let r : Row := [("lease_expires_at", .instant ⟨90000000000⟩), ("lease_holder", .text "w"),
      ("payload", .document document), ("version", .ofNat 18446744073709551615)]
    let r' : Row := [("lease_holder", .text "w"), ("payload", .document document),
      ("version", .ofNat 4)]
    Transfer.IsTyped { p with lease := some ⟨"v", ⟨60000000000⟩⟩, version := 3 } ∧
      ofRow r = .ok { p with
        lease := some ⟨"w", ⟨90000000000⟩⟩, version := 18446744073709551615 } ∧
      ofRow r' = .ok { p with lease := none, version := 4 } := by
  intro request p document r r'
  have typed : Transfer.IsTyped { p with lease := some ⟨"v", ⟨60000000000⟩⟩, version := 3 } :=
    ⟨by decide +kernel, by decide +kernel⟩
  exact ⟨typed,
    ofRow_of_document p _ 3 typed (some "w") (some ⟨90000000000⟩) 18446744073709551615
      (by decide) r rfl rfl rfl rfl,
    ofRow_of_document p _ 3 typed (some "w") none 4 (by decide) r' rfl rfl rfl rfl⟩

end TransferTable

/-- The columns that a statement changes, and what it makes of them. -/
def Statement.sets : Statement → List (String × Expression)
  | .update _ sets _ _ => sets
  | .define _ | .insert _ _ _ _ | .select _ | .delete _ _ | .tally _ _ => []

/-- What a statement makes of a row that it changes. -/
def Statement.change (s : Statement) (params : List Value) (r : Row) : Row :=
  changed ⟨r, params, []⟩ s.sets

/-- The row that a statement adds. -/
def Statement.inserted (params : List Value) : Statement → Row
  | .insert _ _ values _ =>
      Table.ofEntries (values.map fun v => (v.1, Scope.eval ⟨[], params, []⟩ v.2))
  | .define _ | .select _ | .update _ _ _ _ | .delete _ _ | .tally _ _ => []

end Sql

namespace Transfer.IsTyped

variable {p q : Transfer}

/-- A record keeps its type under another lease and another version. -/
theorem held (typed : p.IsTyped) {lease : Option Lease} {version : Nat}
    (hlease : ∀ l, lease = some l → l.expiresAt.inRange = true)
    (hversion : version < 18446744073709551616) :
    IsTyped { p with lease := lease, version := version } := by
  obtain ⟨hwords, hinstants⟩ := typed
  simp only [Transfer.fitsWords, Bool.and_eq_true, decide_eq_true_eq] at hwords
  simp only [instants, List.forall_mem_append] at hinstants
  refine ⟨?_, ?_⟩
  · simp [Transfer.fitsWords, hwords.1, hversion]
  · simp only [instants, List.forall_mem_append]
    refine ⟨hinstants.1, fun t ht => ?_⟩
    obtain ⟨l, hl, rfl⟩ : ∃ l, lease = some l ∧ l.expiresAt = t := by simpa using ht
    exact hlease l hl

theorem version_lt (typed : p.IsTyped) : p.version < 18446744073709551616 := by
  have hwords := typed.fitsWords
  simp only [Transfer.fitsWords, Bool.and_eq_true, decide_eq_true_eq] at hwords
  exact hwords.2

theorem lease_inRange (typed : p.IsTyped) {l : Lease} (h : p.lease = some l) :
    l.expiresAt.inRange = true :=
  typed.inRange _ (by simp [instants, h])

/-- A signal keeps the type of a record. -/
theorem of_accept (typed : p.IsTyped) {x : Signal} (h : p.accept x = .ok (some q)) :
    q.IsTyped := by
  rw [accept_frame h]
  exact ⟨typed.fitsWords, typed.inRange⟩

end Transfer.IsTyped

namespace Sql

theorem toUnsigned_lt (n : Int) : toUnsigned n < 18446744073709551616 := by
  unfold toUnsigned
  omega

namespace TransferTable

/-- A row records a transfer: it stands under its id, and it reads as the record. -/
structure Records (r : Row) (p : Transfer) : Prop where
  id_eq : r.value "id" = .text p.id
  read_eq : ofRow r = .ok p
  typed : p.IsTyped

/-- What the columns of a new row are to hold. -/
def insertedColumns (p : Transfer) : List (String × Value) :=
  [("id", .text p.id), ("data_request_id", .text p.request.id),
    ("process_type", .text p.role.name), ("agreement_id", .text p.request.agreementId),
    ("state", .text p.state.name), ("state_timestamp", .ofInstant p.stateTimestamp),
    ("retry_at", .ofInstant? p.retryAt), ("pending_command", commandValue p.pendingCommand),
    ("has_completion", .truth p.completion.isSome), ("lease_holder", .null),
    ("lease_expires_at", .null), ("version", .ofNat p.version),
    ("created_at", .ofInstant p.createdAt), ("payload", .document p.toJson)]

/-- What is sent with a claim. -/
def claimingParams (states : List Transfer.State) (batch : Nat) (c : Claim) : List Value :=
  [stateNames states, .ofInstant c.now, .text c.holder, .ofInstant c.expiresAt, .ofNat batch]

/-- What is sent with a record that is written back. -/
def writingParams (p : Transfer) (holder : String) : List Value :=
  [.text p.id, .text p.state.name, .ofInstant p.stateTimestamp, .ofInstant? p.retryAt,
    commandValue p.pendingCommand, .truth p.completion.isSome, .document p.toJson,
    .ofNat p.version, .text holder]

/-- What is sent with the effect of a signal. -/
def signallingParams (id : String) (p : Transfer) : List Value :=
  [.text id, commandValue p.pendingCommand, .truth p.completion.isSome, .document p.toJson]

/-! ## What the statements leave in the columns -/

/-- The version after the one of a row. -/
def nextVersion (r : Row) : Value := Scope.eval ⟨r, [], []⟩ (.next (.column "version"))

theorem nextVersion_eq {r : Row} {n : Int} (hn : r.value "version" = .number n) :
    nextVersion r = .number (n + 1) := by
  simp [nextVersion, Scope.eval, hn]

theorem value_claiming (states : List Transfer.State) (batch : Nat) (c : Claim) (r : Row)
    (column : String) :
    (claiming.change (claimingParams states batch c) r).value column =
      if column = "version" then nextVersion r
      else if column = "lease_expires_at" then .ofInstant c.expiresAt
      else if column = "lease_holder" then .text c.holder
      else r.value column := by
  simp only [Statement.change, Statement.sets, claiming, changed, List.foldl_cons, List.foldl_nil,
    Row.value_put]
  rfl

theorem value_writing (p : Transfer) (holder : String) (r : Row) (column : String) :
    (writing.change (writingParams p holder) r).value column =
      if column = "version" then nextVersion r
      else if column = "lease_expires_at" then .null
      else if column = "lease_holder" then .null
      else if column = "payload" then .document p.toJson
      else if column = "has_completion" then .truth p.completion.isSome
      else if column = "pending_command" then commandValue p.pendingCommand
      else if column = "retry_at" then .ofInstant? p.retryAt
      else if column = "state_timestamp" then .ofInstant p.stateTimestamp
      else if column = "state" then .text p.state.name
      else r.value column := by
  simp only [Statement.change, Statement.sets, writing, changed, List.foldl_cons, List.foldl_nil,
    Row.value_put]
  rfl

theorem value_releasing (params : List Value) (r : Row) (column : String) :
    (releasing.change params r).value column =
      if column = "lease_expires_at" then .null
      else if column = "lease_holder" then .null
      else r.value column := by
  simp only [Statement.change, Statement.sets, releasing, changed, List.foldl_cons, List.foldl_nil,
    Row.value_put]
  rfl

theorem value_signalling (id : String) (p : Transfer) (r : Row) (column : String) :
    (signalling.change (signallingParams id p) r).value column =
      if column = "version" then nextVersion r
      else if column = "payload" then .document p.toJson
      else if column = "has_completion" then .truth p.completion.isSome
      else if column = "pending_command" then commandValue p.pendingCommand
      else r.value column := by
  simp only [Statement.change, Statement.sets, signalling, changed, List.foldl_cons,
    List.foldl_nil, Row.value_put]
  rfl

/-- What the columns of a row that is added hold. -/
theorem value_inserted (p : Transfer) :
    ∀ e ∈ insertedColumns p, (insertion.inserted (insertionParams p)).value e.1 = e.2 := by
  have hget := Table.get?_ofEntries (insertedColumns p) (by simp [insertedColumns])
  intro e he
  have hrow : insertion.inserted (insertionParams p) = Table.ofEntries (insertedColumns p) := rfl
  rw [hrow, Row.value, hget e he]
  rfl

/-! ## The record of a row -/

section Changes

variable {r : Row} {p q : Transfer} {n : Int}

theorem Records.version (h : Records r p) :
    ∃ n, r.value "version" = .number n ∧ p.version = toUnsigned n := by
  obtain ⟨x, hx, rfl⟩ := ofRow_eq_ok_iff.1 h.read_eq
  exact ⟨_, hx.version_eq, rfl⟩

/-- A row that is added records the transfer, without a lease. -/
theorem records_inserted (typed : p.IsTyped) :
    Records (insertion.inserted (insertionParams p)) { p with lease := none } := by
  have hvalue := value_inserted p
  have hversion : toUnsigned (toSigned p.version) = p.version :=
    toUnsigned_toSigned typed.version_lt
  refine ⟨?_, ofRow_eq_ok_iff.2 ⟨⟨p.toJson, p, none, none, toSigned p.version⟩,
    ⟨?_, (Transfer.reads typed).run, ?_, ?_, ?_⟩, ?_⟩, ?_⟩
  · exact hvalue ("id", .text p.id) (by simp [insertedColumns])
  · exact hvalue ("payload", .document p.toJson) (by simp [insertedColumns])
  · exact hvalue ("lease_holder", .null) (by simp [insertedColumns])
  · exact hvalue ("lease_expires_at", .null) (by simp [insertedColumns])
  · exact hvalue ("version", .ofNat p.version) (by simp [insertedColumns])
  · simp only [Parts.transfer, hversion, leaseOf]
  · exact typed.held nofun typed.version_lt

/-- A row that is claimed records the transfer on lease. -/
theorem Records.claimed (h : Records r p) (hn : r.value "version" = .number n)
    (states : List Transfer.State) (batch : Nat) {c : Claim} (hc : c.expiresAt.inRange = true) :
    Records (claiming.change (claimingParams states batch c) r)
      { p with
        lease := some ⟨c.holder, toMicros c.expiresAt⟩
        version := toUnsigned (n + 1) } := by
  obtain ⟨x, hx, rfl⟩ := ofRow_eq_ok_iff.1 h.read_eq
  refine ⟨?_, ofRow_eq_ok_iff.2 ⟨{ x with
    holder := some c.holder, expiresAt := some (toMicros c.expiresAt), version := n + 1 },
    ⟨?_, hx.read_eq, ?_, ?_, ?_⟩, rfl⟩, ?_⟩
  · simpa [value_claiming] using h.id_eq
  · simpa [value_claiming] using hx.document_eq
  · simp [value_claiming, Value.ofText]
  · simp [value_claiming, Value.ofTime, Value.ofInstant]
  · simp [value_claiming, nextVersion_eq hn]
  · refine h.typed.held (fun l hl => ?_) (toUnsigned_lt _)
    cases hl
    exact inRange_toMicros hc

/-- A row that is written records the transfer that was written, without a lease. -/
theorem Records.written (h : Records r q) (hn : r.value "version" = .number n)
    (hid : p.id = q.id) (typed : p.IsTyped) (holder : String) :
    Records (writing.change (writingParams p holder) r)
      { p with lease := none, version := toUnsigned (n + 1) } := by
  refine ⟨?_, ofRow_eq_ok_iff.2 ⟨⟨p.toJson, p, none, none, n + 1⟩,
    ⟨?_, (Transfer.reads typed).run, ?_, ?_, ?_⟩, rfl⟩, typed.held nofun (toUnsigned_lt _)⟩
  · simpa [value_writing, hid] using h.id_eq
  · simp [value_writing]
  · simp [value_writing, Value.ofText]
  · simp [value_writing, Value.ofTime]
  · simp [value_writing, nextVersion_eq hn]

/-- A row whose lease is given back records the transfer without a lease. -/
theorem Records.released (h : Records r p) (params : List Value) :
    Records (releasing.change params r) { p with lease := none } := by
  obtain ⟨x, hx, rfl⟩ := ofRow_eq_ok_iff.1 h.read_eq
  refine ⟨?_, ofRow_eq_ok_iff.2 ⟨{ x with holder := none, expiresAt := none },
    ⟨?_, hx.read_eq, ?_, ?_, ?_⟩, rfl⟩, h.typed.held nofun h.typed.version_lt⟩
  · simpa [value_releasing] using h.id_eq
  · simpa [value_releasing] using hx.document_eq
  · simp [value_releasing, Value.ofText]
  · simp [value_releasing, Value.ofTime]
  · simpa [value_releasing] using hx.version_eq

/-- A row that a signal is written to records what the signal left of the transfer. -/
theorem Records.signalled (h : Records r p) (hn : r.value "version" = .number n)
    {x : Transfer.Signal} (accepted : p.accept x = .ok (some q)) (id : String) :
    Records (signalling.change (signallingParams id q) r)
      { q with version := toUnsigned (n + 1) } := by
  have typed : q.IsTyped := h.typed.of_accept accepted
  obtain ⟨y, hy, rfl⟩ := ofRow_eq_ok_iff.1 h.read_eq
  have hlease : q.lease = leaseOf y.holder y.expiresAt := by
    rw [Transfer.accept_frame accepted]
    rfl
  refine ⟨?_, ofRow_eq_ok_iff.2 ⟨⟨q.toJson, q, y.holder, y.expiresAt, n + 1⟩,
    ⟨?_, (Transfer.reads typed).run, ?_, ?_, ?_⟩, ?_⟩, ?_⟩
  · rw [Transfer.id_of_accept accepted]
    simpa [value_signalling] using h.id_eq
  · simp [value_signalling]
  · simpa [value_signalling] using hy.holder_eq
  · simpa [value_signalling] using hy.expiresAt_eq
  · simp [value_signalling, nextVersion_eq hn]
  · rw [Parts.transfer, ← hlease]
  · exact typed.held (fun l hl => typed.lease_inRange hl) (toUnsigned_lt _)

end Changes

/-! ## Columns beside the document -/

/-- The columns that say once more what the document says. -/
def mirrored : List (String × (Transfer → Value)) :=
  [("data_request_id", fun p => .text p.request.id), ("process_type", fun p => .text p.role.name),
    ("agreement_id", fun p => .text p.request.agreementId), ("state", fun p => .text p.state.name),
    ("state_timestamp", fun p => .ofInstant p.stateTimestamp),
    ("retry_at", fun p => .ofInstant? p.retryAt),
    ("pending_command", fun p => commandValue p.pendingCommand),
    ("has_completion", fun p => .truth p.completion.isSome),
    ("created_at", fun p => .ofInstant p.createdAt)]

/-- The columns of a row say what a record says, instants to the microsecond. -/
def Mirrors (r : Row) (p : Transfer) : Prop := ∀ m ∈ mirrored, r.value m.1 = m.2 p

section Mirrors

variable {r : Row} {p q : Transfer} {lease : Option Lease} {version : Nat}

/-- Neither lease nor version are mirrored there. -/
theorem mirrors_held : Mirrors r { p with lease := lease, version := version } ↔ Mirrors r p := by
  simp [Mirrors, mirrored]

theorem mirrors_inserted (p : Transfer) : Mirrors (insertion.inserted (insertionParams p)) p := by
  intro m hm
  refine value_inserted p (m.1, m.2 p) ?_
  simp only [mirrored, List.mem_cons, List.not_mem_nil, or_false] at hm
  rcases hm with rfl | rfl | rfl | rfl | rfl | rfl | rfl | rfl | rfl <;> simp [insertedColumns]

theorem Mirrors.claimed (h : Mirrors r p) (states : List Transfer.State) (batch : Nat)
    (c : Claim) : Mirrors (claiming.change (claimingParams states batch c) r) p := by
  simpa [Mirrors, mirrored, value_claiming] using h

theorem Mirrors.released (h : Mirrors r p) (params : List Value) :
    Mirrors (releasing.change params r) p := by
  simpa [Mirrors, mirrored, value_releasing] using h

/-- A record that is written back is mirrored, if what its creation fixed is the same. -/
theorem Mirrors.written (h : Mirrors r q) (hrequest : p.request = q.request)
    (hrole : p.role = q.role) (hcreated : p.createdAt = q.createdAt) (holder : String) :
    Mirrors (writing.change (writingParams p holder) r) p := by
  simp only [Mirrors, mirrored, List.forall_mem_cons] at h ⊢
  simp [value_writing, h, hrequest, hrole, hcreated]

/-- A signal changes nothing but what is written with it. -/
theorem Mirrors.signalled (h : Mirrors r p) {x : Transfer.Signal}
    (accepted : p.accept x = .ok (some q)) (id : String) :
    Mirrors (signalling.change (signallingParams id q) r) q := by
  rw [Transfer.accept_frame accepted]
  simp only [Mirrors, mirrored, List.forall_mem_cons] at h ⊢
  simp [value_signalling, h]

end Mirrors
end TransferTable
end Sql
end Connector
