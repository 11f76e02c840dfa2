import Connector.Proofs.Sql.Claiming
import Connector.Proofs.Sql.Sessions
import Connector.Sql.Schema

/-!
# The columns beside the document

What records are looked for by stands in columns of its own, and the document says it once more.  A
statement that writes the one without the other would not fail: it would hide a record from the
claims, or show it too early.  The first statement of a record writes all columns, a claim and a
lease that is given back write none that count here, a record that is written back leaves those of
the request, and a signal leaves all but two.  Through every history no column drifts from the
document.  Statements:

* `IsSound.create`, `IsSound.claim`, `IsSound.update`, `IsSound.release`, `IsSound.signal` — each
  access leaves rows whose columns agree with the document;
* `isSound_after` — so does a history;
* `columns_faithful` — what the columns say is what the document reads as.
-/

namespace Connector.Sql.TransferTable

/-! ## Histories that keep to what creation fixed -/

/-- Whether a record goes on from the one of a row: what was fixed when it was created is the
same. -/
def continues (p : Transfer) (r : Row) : Bool :=
  match ofRow r with
  | .ok q => p.request == q.request && p.role == q.role && p.createdAt == q.createdAt
  | .error _ => true

/-- What is written fits its type, and a record that is written back goes on from the stored one. -/
def Admits (d : Database) : Operation → Prop
  | .create p => p.IsTyped
  | .claim _ _ c => c.expiresAt.inRange = true
  | .update p => p.IsTyped ∧ ∀ r ∈ d.rows name, isRowOf p.id r = true → continues p r = true
  | .release _ _ | .signal _ _ => True

/-- Every access of a history is admitted when its turn comes. -/
def AdmitsAll (d : Database) : List Operation → Prop
  | [] => True
  | op :: rest => Admits d op ∧ AdmitsAll (apply d op) rest

/-! ## Rows whose columns agree -/

/-- The columns of a row beside the document say what the document reads as, instants to the
microsecond. -/
def IsFaithful (r : Row) : Prop :=
  ∃ j p, r.value "payload" = .document j ∧ Transfer.decoder.run j = .ok p ∧ Mirrors r p

/-- A row records a transfer, and the columns that records are looked for by agree with it. -/
structure Agrees (r : Row) (p : Transfer) : Prop extends Records r p where
  mirrors : Mirrors r p
  expiresAt_eq : r.value "lease_expires_at" = .ofInstant? (p.lease.map (·.expiresAt))

/-- No id has two rows, and the columns of every row agree with its record. -/
structure IsSound (d : Database) : Prop where
  distinct : (ids d).Nodup
  agrees : ∀ r ∈ d.rows name, ∃ p, Agrees r p

section Rows

variable {r : Row} {p : Transfer}

/-- Lease and version are not read from the document, but the columns that count here are. -/
theorem Agrees.isFaithful (h : Agrees r p) : IsFaithful r := by
  obtain ⟨x, hx, rfl⟩ := ofRow_eq_ok_iff.1 h.read_eq
  exact ⟨_, _, hx.document_eq, hx.read_eq, mirrors_held.1 h.mirrors⟩

/-- What a claim looks at is there. -/
theorem Agrees.shows (h : Agrees r p) : Shows r p where
  state_eq := h.mirrors ("state", fun p => .text p.state.name) (by simp [mirrored])
  expiresAt_eq := h.expiresAt_eq
  command_eq := h.mirrors ("pending_command", fun p => commandValue p.pendingCommand)
    (by simp [mirrored])
  completion_eq := h.mirrors ("has_completion", fun p => .truth p.completion.isSome)
    (by simp [mirrored])
  retryAt_eq := h.mirrors ("retry_at", fun p => .ofInstant? p.retryAt) (by simp [mirrored])

end Rows

/-! ## What an access leaves -/

section Sound

variable {d : Database} {p : Transfer} {r : Row} {id : String}

theorem isSound_empty : IsSound Database.empty :=
  ⟨List.nodup_nil, fun _ h => absurd h List.not_mem_nil⟩

/-- Changing some of the rows is sound if they keep their ids and agree with a record again. -/
theorem IsSound.rewritten (h : IsSound d) {covers : Row → Bool} {change : Row → Row}
    (same : ∀ r, (change r).value "id" = r.value "id")
    (agree : ∀ r ∈ d.rows name, covers r = true → ∀ p, Agrees r p → ∃ q, Agrees (change r) q) :
    IsSound (rewritten d covers change) := by
  refine ⟨by rw [ids_rewritten d covers same]; exact h.distinct, fun r' hr' => ?_⟩
  rw [rows_rewritten] at hr'
  obtain ⟨r, hr, rfl⟩ := List.mem_map.1 hr'
  obtain ⟨p, hp⟩ := h.agrees r hr
  split
  · exact agree r hr ‹_› p hp
  · exact ⟨p, hp⟩

theorem IsSound.create (h : IsSound d) (typed : p.IsTyped) : IsSound (apply d (.create p)) := by
  rw [apply, perform_create]
  split
  · exact h
  · rename_i hnew
    have unknown : row? d p.id = none := by simpa using hnew
    have hinserted := records_inserted typed
    refine ⟨nodup_ids_append h.distinct unknown hinserted.id_eq, ?_⟩
    rw [rows_put]
    intro r hr
    rcases List.mem_append.1 hr with hr | hr
    · exact h.agrees r hr
    · rw [List.mem_singleton.1 hr]
      exact ⟨_, hinserted, mirrors_held.2 (mirrors_inserted p),
        value_inserted p ("lease_expires_at", .null) (by simp [insertedColumns])⟩

theorem IsSound.claim (h : IsSound d) (states : List Transfer.State) (batch : Nat) {c : Claim}
    (hc : c.expiresAt.inRange = true) : IsSound (apply d (.claim states batch c)) := by
  rw [apply, perform_claim]
  refine h.rewritten (fun r => by simp [value_claiming]) fun r _ _ p hp => ?_
  obtain ⟨n, hn, -⟩ := hp.version
  refine ⟨_, hp.claimed hn states batch hc, mirrors_held.2 (hp.mirrors.claimed states batch c), ?_⟩
  simp [value_claiming, Value.ofInstant?, Value.ofInstant, toMicros_toMicros]

theorem IsSound.update (h : IsSound d) (admitted : Admits d (.update p)) :
    IsSound (apply d (.update p)) := by
  obtain ⟨typed, hcontinues⟩ := admitted
  cases hlease : p.lease with
  | none =>
      rw [apply, perform_update_of_none hlease]
      exact h
  | some lease =>
      rw [apply, perform_update hlease]
      refine h.rewritten (fun r => by simp [value_writing]) fun r hr hcovers q hq => ?_
      obtain ⟨n, hn, -⟩ := hq.version
      obtain ⟨hid, -⟩ := covers_writing_iff.1 hcovers
      have hsame : p.id = q.id := by simpa [hid] using hq.id_eq
      have hfixed := hcontinues r hr (isRowOf_iff.2 hid)
      simp only [continues, hq.read_eq, Bool.and_eq_true, beq_iff_eq] at hfixed
      obtain ⟨⟨hrequest, hrole⟩, hcreated⟩ := hfixed
      refine ⟨_, hq.written hn hsame typed lease.holder,
        mirrors_held.2 (hq.mirrors.written hrequest hrole hcreated lease.holder), ?_⟩
      simp [value_writing, Value.ofInstant?]

theorem IsSound.release (h : IsSound d) (id holder : String) :
    IsSound (apply d (.release id holder)) := by
  rw [apply, perform_release]
  refine h.rewritten (fun r => by simp [value_releasing]) fun r _ _ p hp => ?_
  refine ⟨_, hp.released _, mirrors_held.2 (hp.mirrors.released _), ?_⟩
  simp [value_releasing, Value.ofInstant?]

/-- A signal writes two of the columns, and changes nothing that the others say. -/
theorem IsSound.signal (h : IsSound d) (id : String) (x : Transfer.Signal) :
    IsSound (apply d (.signal id x)) := by
  rw [apply]
  cases hrow : row? d id with
  | none =>
      rw [(signal_of_none hrow).1]
      exact h
  | some r =>
      obtain ⟨p, hp⟩ := h.agrees r ((row?_eq_some_iff h.distinct).1 hrow).1
      obtain ⟨n, hn, -⟩ := hp.version
      rw [(signal_of_some hrow hp.read_eq).1]
      rcases hx : p.accept x with e | _ | next
      · rw [(answering_of_refused hx).1]
        exact h
      · rw [(answering_of_idle hx).1]
        exact h
      · rw [(answering_of_taken hrow hn hx).1]
        refine h.rewritten (fun r => by simp [value_signalling]) fun r' hr' hcovers q hq => ?_
        have hsame := (row?_eq_some_iff h.distinct).2 ⟨hr', isRowOf_iff.1 hcovers⟩
        obtain rfl := Option.some.inj (hsame.symm.trans hrow)
        refine ⟨_, hp.signalled hn hx id, mirrors_held.2 (hp.mirrors.signalled hx id), ?_⟩
        rw [Transfer.accept_frame hx]
        simpa [value_signalling] using hp.expiresAt_eq

/-- The columns of every row agree with its record after an access, if they did before. -/
theorem isSound_apply (h : IsSound d) {op : Operation} (admitted : Admits d op) :
    IsSound (apply d op) := by
  cases op with
  | create p => exact h.create admitted
  | claim states batch c => exact h.claim states batch admitted
  | update p => exact h.update admitted
  | release id holder => exact h.release id holder
  | signal id x => exact h.signal id x

theorem isSound_after (h : IsSound d) {ops : List Operation} (admitted : AdmitsAll d ops) :
    IsSound (after d ops) := by
  induction ops generalizing d with
  | nil => exact h
  | cons op rest ih => exact ih (isSound_apply h admitted.1) admitted.2

end Sound

/-! ## Every history -/

/-- **No column drifts from the document.**  Records are created, claimed, written back, given back
and signalled in any order, whoever does it and whatever comes of it; what is written back leaves
request, role and creation as they were.  Then in every row the document reads, and the columns of
request, agreement, role, state, its instant, the next attempt, the command, the completion and the
creation are what it reads as. -/
theorem columns_faithful (ops : List Operation) (admitted : AdmitsAll Database.empty ops) :
    ∀ r ∈ (after Database.empty ops).rows name, IsFaithful r := by
  intro r hr
  obtain ⟨p, hp⟩ := (isSound_after isSound_empty admitted).agrees r hr
  exact hp.isFaithful

/-- A record is created, claimed, written back as started at an instant between two microseconds,
claimed again, suspended by a signal, and its lease is given back.  The signal's command stands in
its column, and every column agrees with the document. -/
theorem columns_faithful_of_suspension :
    let address : DataAddress := ⟨"http", []⟩
    let request : DataRequest := ⟨"r", "a", "s", "c", "http://c", "p", address, address, []⟩
    let p : Transfer := Transfer.create "t" .consumer request ⟨0⟩
    let started : Transfer := { p with
      state := .started
      stateTimestamp := ⟨1001⟩
      stateCount := 1
      lease := some ⟨"w", ⟨9000⟩⟩
      version := 1 }
    let ops : List Operation := [.create p, .claim [.initial] 1 ⟨"w", ⟨0⟩, 9000⟩,
      .update started, .claim [.started] 1 ⟨"v", ⟨2000⟩, 7000⟩, .signal "t" .suspend,
      .release "t" "v"]
    let rows := (after Database.empty ops).rows name
    AdmitsAll Database.empty ops ∧ (∀ r ∈ rows, IsFaithful r) ∧
      rows.map (fun r => (r.text? "pending_command").toOption) = [some (some "suspend")] := by
  intro address request p started ops rows
  have admitted : AdmitsAll Database.empty ops := by
    have claimed : Instant.inRange ⟨9000⟩ = true := by decide
    refine ⟨⟨by decide, by decide⟩, claimed, ⟨⟨by decide, by decide⟩, ?_⟩, claimed, trivial,
      trivial, trivial⟩
    decide +kernel
  exact ⟨admitted, columns_faithful ops admitted, by decide +kernel⟩

end Connector.Sql.TransferTable
