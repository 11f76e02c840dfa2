import Connector.Proofs.Sql.Sessions
import Connector.Sql.Schema

/-!
# A database as a store of transfers

A database represents a store if its rows are those of the stored records: each row reads as the
record of its id, and no record is without a row.  The lease and the version that a document repeats
do not count.  As long as versions stay below 2^63, every access but a claim gives at the database
what it gives at the store, and the rows are those of the store afterwards.  A refused access leaves
the database as it is.  Statements:

* `Represents.rewritten`, `Represents.appended`, `Represents.rewritten_eq` — a record that is
  changed, one that is added, and a change that concerns no row;
* `simulates_create`, `simulates_update`, `simulates_release`, `simulates_signal` — each of the
  accesses;
* `sent_signal` — what is sent for a signal;
* `represents_after` — a history leaves the rows of the store after it;
* `simulates_transfers` — the four accesses at any database that represents a store.
-/

namespace Connector.Sql

theorem toSigned_inj {m n : Nat} (hm : m < 18446744073709551616) (hn : n < 18446744073709551616) :
    toSigned m = toSigned n ↔ m = n := by
  constructor
  · intro h
    rw [← toUnsigned_toSigned hm, h, toUnsigned_toSigned hn]
  · rintro rfl
    rfl

/-- Below 2^63 the next version is the next number of the column. -/
theorem toSigned_succ {n : Nat} (h : n + 1 < 9223372036854775808) :
    toSigned n + 1 = toSigned (n + 1) := by
  rw [toSigned, toSigned, if_pos (by omega), if_pos h]
  rfl

namespace TransferTable

/-- A row stores a record: it reads as the record, its number is the version, and of the columns of
the lease both are set or neither is. -/
structure Stores (r : Row) (p : Transfer) : Prop extends Records r p where
  version_eq : r.value "version" = .ofNat p.version
  paired : r.value "lease_holder" = .null ↔ r.value "lease_expires_at" = .null

/-- A database represents a store.  Its table is there, no id has two rows, every row stores the
record of its id, and every record has a row. -/
structure Represents (d : Database) (s : Transfers) : Prop where
  sorted : Table.IsSorted d
  present : Table.has name d = true
  keyed : s.IsKeyed
  distinct : (ids d).Nodup
  stored : ∀ r ∈ d.rows name, ∃ p, s.find? p.id = some p ∧ Stores r p
  listed : ∀ id p, s.find? id = some p → ∃ r ∈ d.rows name, Stores r p

/-- The next version of every record is below 2^63. -/
def HasRoom (s : Transfers) : Prop :=
  ∀ id p, s.find? id = some p → p.version + 1 < 9223372036854775808

/-- A session gives what a store gave, and leaves what represents the store then.  It gives the
fault of the store without changing anything. -/
def Simulates {α : Type} (d : Database) (m : Session α) :
    Except StoreFault (α × Transfers) → Prop
  | .ok (a, s) => ∃ d', Session.perform d m = (.ok a, d') ∧ Represents d' s
  | .error e => Session.perform d m = (.error e, d)

section Stores

variable {r : Row} {p q : Transfer}

/-- The holder of the lease has a column. -/
theorem Stores.holder_eq (h : Stores r p) :
    r.value "lease_holder" = .ofText (p.lease.map (·.holder)) := by
  obtain ⟨x, hx, rfl⟩ := ofRow_eq_ok_iff.1 h.read_eq
  have hpaired := h.paired
  rw [hx.holder_eq, hx.expiresAt_eq] at hpaired
  rw [hx.holder_eq, Parts.transfer]
  cases hholder : x.holder with
  | none => rfl
  | some holder =>
      cases hexpires : x.expiresAt with
      | none => simp [hholder, hexpires, Value.ofText, Value.ofTime] at hpaired
      | some t => rfl

theorem Stores.holder_eq_iff (h : Stores r p) {holder : String} :
    r.value "lease_holder" = .text holder ↔ p.lease.any (·.holder == holder) = true := by
  rw [h.holder_eq]
  cases p.lease <;> simp [Value.ofText]

/-- The number of the row tells the version. -/
theorem Stores.version_eq_iff (h : Stores r q) (typed : p.IsTyped) :
    r.value "version" = .ofNat p.version ↔ q.version = p.version := by
  rw [h.version_eq, Value.ofNat, Value.ofNat, Value.number.injEq]
  exact toSigned_inj h.typed.version_lt typed.version_lt

theorem stores_inserted (typed : p.IsTyped) (unleased : p.lease = none) :
    Stores (insertion.inserted (insertionParams p)) p := by
  have hvalue := value_inserted p
  have hrecords := records_inserted typed
  have hp : { p with lease := none } = p := by rw [← unleased]
  rw [hp] at hrecords
  refine ⟨hrecords, hvalue ("version", .ofNat p.version) (by simp [insertedColumns]), ?_⟩
  rw [hvalue ("lease_holder", .null) (by simp [insertedColumns]),
    hvalue ("lease_expires_at", .null) (by simp [insertedColumns])]

/-- The number of a row whose version grows. -/
theorem Stores.next_eq (h : Stores r p) (room : p.version + 1 < 9223372036854775808) :
    nextVersion r = .ofNat (p.version + 1) ∧
      toUnsigned (toSigned p.version + 1) = p.version + 1 := by
  refine ⟨?_, ?_⟩
  · rw [nextVersion_eq h.version_eq, toSigned_succ room, Value.ofNat]
  · rw [toSigned_succ room]
    exact toUnsigned_toSigned (by omega)

/-- A claim until a whole microsecond. -/
theorem Stores.claimed (h : Stores r p) (room : p.version + 1 < 9223372036854775808)
    (states : List Transfer.State) (batch : Nat) {c : Claim} (hc : c.expiresAt.inRange = true)
    (whole : toMicros c.expiresAt = c.expiresAt) :
    Stores (claiming.change (claimingParams states batch c) r) (p.leased c) := by
  obtain ⟨hnext, hversion⟩ := h.next_eq room
  have hrecords := h.toRecords.claimed h.version_eq states batch hc
  rw [hversion, whole] at hrecords
  refine ⟨hrecords, ?_, ?_⟩
  · simp [value_claiming, hnext, Transfer.leased]
  · simp [value_claiming, Value.ofInstant]

theorem Stores.written (h : Stores r q) (hid : p.id = q.id) (typed : p.IsTyped)
    (room : q.version + 1 < 9223372036854775808) (holder : String) :
    Stores (writing.change (writingParams p holder) r) (p.written q) := by
  obtain ⟨hnext, hversion⟩ := h.next_eq room
  have hrecords := h.toRecords.written h.version_eq hid typed holder
  rw [hversion] at hrecords
  refine ⟨hrecords, ?_, ?_⟩
  · simp [value_writing, hnext, Transfer.written]
  · simp [value_writing]

theorem Stores.released (h : Stores r p) (params : List Value) :
    Stores (releasing.change params r) p.withoutLease := by
  refine ⟨h.toRecords.released params, ?_, ?_⟩
  · simpa [value_releasing, Transfer.withoutLease] using h.version_eq
  · simp [value_releasing]

theorem Stores.signalled (h : Stores r p) (room : p.version + 1 < 9223372036854775808)
    {x : Transfer.Signal} (accepted : p.accept x = .ok (some q)) (id : String) :
    Stores (signalling.change (signallingParams id q) r) q.bumped := by
  obtain ⟨hnext, hversion⟩ := h.next_eq room
  have hrecords := h.toRecords.signalled h.version_eq accepted id
  rw [hversion, ← Transfer.version_of_accept accepted] at hrecords
  refine ⟨hrecords, ?_, ?_⟩
  · simp [value_signalling, hnext, Transfer.bumped, Transfer.version_of_accept accepted]
  · simpa [value_signalling] using h.paired

end Stores

/-! ## The rows of a store -/

section Represents

variable {d : Database} {s : Transfers} {p q : Transfer} {r : Row} {id : String}

/-- A row under an id stores the record of the id. -/
theorem Represents.find?_of_row (h : Represents d s) (hr : r ∈ d.rows name)
    (hid : r.value "id" = .text id) : ∃ p, s.find? id = some p ∧ Stores r p := by
  obtain ⟨p, hp, hrow⟩ := h.stored r hr
  have hsame : p.id = id := by simpa [hid] using hrow.id_eq.symm
  exact ⟨p, hsame ▸ hp, hrow⟩

theorem Represents.stores (h : Represents d s) (hr : r ∈ d.rows name)
    (hid : r.value "id" = .text id) (hp : s.find? id = some p) : Stores r p := by
  obtain ⟨q, hq, hrow⟩ := h.find?_of_row hr hid
  rw [hp] at hq
  rwa [Option.some.inj hq]

/-- The record of an id has the row of the id. -/
theorem Represents.row?_eq (h : Represents d s) (hp : s.find? id = some p) :
    ∃ r, row? d id = some r ∧ r ∈ d.rows name ∧ Stores r p := by
  obtain ⟨r, hr, hrow⟩ := h.listed id p hp
  have hid : r.value "id" = .text id := by rw [hrow.id_eq, Transfers.id_of_find? h.keyed hp]
  exact ⟨r, (row?_eq_some_iff h.distinct).2 ⟨hr, hid⟩, hr, hrow⟩

theorem Represents.row?_eq_none (h : Represents d s) (hp : s.find? id = none) :
    row? d id = none := by
  rw [row?_eq_none_iff]
  intro r hr hid
  obtain ⟨q, hq, -⟩ := h.find?_of_row hr hid
  cases hp.symm.trans hq

/-- A change that concerns no row leaves the database as it is. -/
theorem Represents.rewritten_eq (h : Represents d s) {covers : Row → Bool} {change : Row → Row}
    (none_covered : ∀ r ∈ d.rows name, ¬ covers r = true) : rewritten d covers change = d := by
  have hrows : ((d.rows name).map fun r => if covers r then change r else r) = d.rows name := by
    conv_rhs => rw [← List.map_id (d.rows name)]
    exact List.map_congr_left fun r hr => if_neg (none_covered r hr)
  obtain ⟨rows, hget⟩ := Option.isSome_iff_exists.1 h.present
  rw [rewritten, hrows]
  refine Table.put_of_get? h.sorted ?_
  rw [Database.rows, hget]
  rfl

/-- Changing the row of a record puts another record in its place. -/
theorem Represents.rewritten (h : Represents d s) (hp : s.find? id = some p) (hid : q.id = id)
    {covers : Row → Bool} {change : Row → Row}
    (same : ∀ r, (change r).value "id" = r.value "id")
    (covered : ∀ r ∈ d.rows name, covers r = true ↔ r.value "id" = .text id)
    (stores : ∀ r, Stores r p → Stores (change r) q) :
    Represents (rewritten d covers change) ⟨Table.put id q s.records⟩ := by
  refine ⟨Table.isSorted_put h.sorted, ?_, Transfers.isKeyed_put h.keyed hid, ?_, ?_, ?_⟩
  · rw [Table.has, TransferTable.rewritten, Table.get?_put_self]
    rfl
  · rw [ids_rewritten d covers same]
    exact h.distinct
  · rw [rows_rewritten]
    intro r' hr'
    obtain ⟨r, hr, rfl⟩ := List.mem_map.1 hr'
    by_cases hcovers : covers r = true
    · refine ⟨q, by rw [Transfers.find?_put, if_pos hid], ?_⟩
      rw [if_pos hcovers]
      exact stores r (h.stores hr ((covered r hr).1 hcovers) hp)
    · obtain ⟨o, ho, hrow⟩ := h.stored r hr
      have hne : o.id ≠ id := by
        rintro rfl
        exact hcovers ((covered r hr).2 hrow.id_eq)
      refine ⟨o, by rw [Transfers.find?_put, if_neg hne, ho], ?_⟩
      rw [if_neg hcovers]
      exact hrow
  · intro other o ho
    rw [Transfers.find?_put] at ho
    rw [rows_rewritten]
    by_cases hother : other = id
    · rw [if_pos hother] at ho
      obtain ⟨r, hr, hrow⟩ := h.listed id p hp
      have hcovers : covers r = true := by
        rw [covered r hr, hrow.id_eq, Transfers.id_of_find? h.keyed hp]
      refine ⟨_, List.mem_map.2 ⟨r, hr, rfl⟩, ?_⟩
      rw [if_pos hcovers, ← Option.some.inj ho]
      exact stores r hrow
    · rw [if_neg hother] at ho
      obtain ⟨r, hr, hrow⟩ := h.listed other o ho
      have hcovers : ¬ covers r = true := by
        rw [covered r hr, hrow.id_eq, Transfers.id_of_find? h.keyed ho, Value.text.injEq]
        exact hother
      refine ⟨_, List.mem_map.2 ⟨r, hr, rfl⟩, ?_⟩
      rw [if_neg hcovers]
      exact hrow

/-- A row of a new id adds a record. -/
theorem Represents.appended (h : Represents d s) (hp : s.find? p.id = none) (hrow : Stores r p) :
    Represents (Table.put name (d.rows name ++ [r]) d) ⟨Table.put p.id p s.records⟩ := by
  refine ⟨Table.isSorted_put h.sorted, ?_, Transfers.isKeyed_put h.keyed rfl,
    nodup_ids_append h.distinct (h.row?_eq_none hp) hrow.id_eq, ?_, ?_⟩
  · rw [Table.has, Table.get?_put_self]
    rfl
  · rw [rows_put]
    intro r' hr'
    rcases List.mem_append.1 hr' with hr' | hr'
    · obtain ⟨o, ho, hrow'⟩ := h.stored r' hr'
      have hne : o.id ≠ p.id := by
        intro heq
        rw [heq, hp] at ho
        cases ho
      refine ⟨o, ?_, hrow'⟩
      rw [Transfers.find?_put, if_neg hne]
      exact ho
    · rw [List.mem_singleton.1 hr']
      exact ⟨p, by rw [Transfers.find?_put, if_pos rfl], hrow⟩
  · intro id o ho
    rw [Transfers.find?_put] at ho
    rw [rows_put]
    split at ho
    · rw [← Option.some.inj ho]
      exact ⟨r, List.mem_append_right _ (List.mem_singleton_self r), hrow⟩
    · obtain ⟨r', hr', hrow'⟩ := h.listed id o ho
      exact ⟨r', List.mem_append_left _ hr', hrow'⟩

theorem represents_empty : Represents Database.empty Transfers.empty where
  sorted := List.pairwise_pair.2 (by decide)
  present := rfl
  keyed := Transfers.isKeyed_empty
  distinct := List.nodup_nil
  stored _ h := absurd h List.not_mem_nil
  listed _ _ h := by cases h

end Represents

/-! ## The accesses -/

section Accesses

variable {d : Database} {s : Transfers} {p : Transfer}

theorem simulates_create (h : Represents d s) (typed : p.IsTyped) (unleased : p.lease = none) :
    Simulates d (create p) ((s.create p).map fun t => ((), t)) := by
  cases hp : s.find? p.id with
  | none =>
      have hstore := Transfers.create_eq_ok_iff.2 ⟨hp, rfl⟩
      rw [hstore]
      refine ⟨_, ?_, h.appended hp (stores_inserted typed unleased)⟩
      rw [perform_create, h.row?_eq_none hp]
      rfl
  | some q =>
      have hstore : s.create p = .error (.alreadyExists p.id) := by simp only [Transfers.create, hp]
      obtain ⟨r, hr, -⟩ := h.row?_eq hp
      rw [hstore]
      show Session.perform d (create p) = _
      rw [perform_create, hr]
      rfl

/-- Two records are on lease to one holder. -/
theorem sameHolder_iff {q : Transfer} {lease : Lease} (leased : p.lease = some lease) :
    q.sameHolder p = true ↔ q.lease.any (·.holder == lease.holder) = true := by
  unfold Transfer.sameHolder
  rw [leased]
  cases q.lease <;> rfl

theorem simulates_update (h : Represents d s) (room : HasRoom s) (typed : p.IsTyped)
    (leased : p.lease.isSome = true) :
    Simulates d (update p) ((s.update p).map fun t => ((), t)) := by
  obtain ⟨lease, hlease⟩ := Option.isSome_iff_exists.1 leased
  let covers := covers writing d (writingParams p lease.holder)
  cases hp : s.find? p.id with
  | none =>
      have hstore : s.update p = .error (.notFound p.id) := by simp only [Transfers.update, hp]
      have hnone : ∀ r ∈ d.rows name, ¬ covers r = true := by
        intro r hr hcovers
        have hid := (covers_writing_iff.1 hcovers).1
        exact row?_eq_none_iff.1 (h.row?_eq_none hp) r hr hid
      have hsame : writtenBack d p lease.holder = d := h.rewritten_eq hnone
      rw [hstore]
      show Session.perform d (update p) = _
      rw [perform_update hlease, hsame, h.row?_eq_none hp, if_neg (by simpa using hnone)]
      rfl
  | some q =>
      have hid := Transfers.id_of_find? h.keyed hp
      obtain ⟨r, hr, hmem, hrow⟩ := h.row?_eq hp
      have hcovers : ∀ r ∈ d.rows name, covers r = true ↔
          r.value "id" = .text p.id ∧ q.version = p.version ∧ q.sameHolder p = true := by
        intro r hr
        rw [covers_writing_iff, sameHolder_iff hlease]
        refine and_congr_right fun hsame => ?_
        have hrow := h.stores hr hsame hp
        rw [hrow.version_eq_iff typed, hrow.holder_eq_iff]
      by_cases hfits : q.version = p.version ∧ q.sameHolder p = true
      · have hstore := Transfers.update_eq_ok_iff.2 ⟨q, hp, hfits.1, hfits.2, rfl⟩
        have hcovered : ∀ r ∈ d.rows name, covers r = true ↔ r.value "id" = .text p.id := by
          intro r hr
          rw [hcovers r hr, and_iff_left hfits]
        have hany : (d.rows name).any covers = true :=
          List.any_eq_true.2 ⟨r, hmem, (hcovered r hmem).2 (hid ▸ hrow.id_eq)⟩
        rw [hstore]
        refine ⟨_, ?_, h.rewritten (q := p.written q) hp rfl (fun r => by simp [value_writing])
          hcovered fun r hr => hr.written hid.symm typed (room _ _ hp) lease.holder⟩
        rw [perform_update hlease, if_pos hany]
        rfl
      · have hnone : ∀ r ∈ d.rows name, ¬ covers r = true := fun r hr h =>
          hfits ((hcovers r hr).1 h).2
        have hsame : writtenBack d p lease.holder = d := h.rewritten_eq hnone
        rw [Transfers.update_eq_conflict hp hfits]
        show Session.perform d (update p) = _
        rw [perform_update hlease, hsame, hr, if_neg (by simpa using hnone)]
        rfl

theorem simulates_release (h : Represents d s) (id holder : String) :
    Simulates d (release id holder) (.ok ((), s.release id holder)) := by
  refine ⟨_, perform_release holder, ?_⟩
  cases hp : s.find? id with
  | none =>
      have hstore : s.release id holder = s := by simp only [Transfers.release, hp]
      have hnone : ∀ r ∈ d.rows name,
          ¬ covers releasing d (releasingParams id holder) r = true := by
        intro r hr hcovers
        have hid := (covers_releasing_iff.1 hcovers).1
        exact row?_eq_none_iff.1 (h.row?_eq_none hp) r hr hid
      rw [hstore, h.rewritten_eq hnone]
      exact h
  | some p =>
      have hid := Transfers.id_of_find? h.keyed hp
      have hcovers : ∀ r ∈ d.rows name,
          covers releasing d (releasingParams id holder) r = true ↔
            r.value "id" = .text id ∧ p.lease.any (·.holder == holder) = true := by
        intro r hr
        rw [covers_releasing_iff]
        exact and_congr_right fun hsame => (h.stores hr hsame hp).holder_eq_iff
      by_cases hheld : p.lease.any (·.holder == holder) = true
      · have hstore : s.release id holder = ⟨Table.put id p.withoutLease s.records⟩ := by
          simp only [Transfers.release, hp, hheld, if_true]
        rw [hstore]
        refine h.rewritten (q := p.withoutLease) hp hid (fun r => by simp [value_releasing])
          (fun r hr => ?_) fun r hr => hr.released _
        rw [hcovers r hr, and_iff_left hheld]
      · have hstore : s.release id holder = s := by
          simp only [Transfers.release, hp, if_neg hheld]
        rw [hstore, h.rewritten_eq fun r hr h => hheld ((hcovers r hr).1 h).2]
        exact h

theorem simulates_signal (h : Represents d s) (room : HasRoom s) (id : String)
    (x : Transfer.Signal) : Simulates d (signal id x) (s.signal id x) := by
  cases hp : s.find? id with
  | none =>
      have hstore : s.signal id x = .error (.notFound id) := by simp only [Transfers.signal, hp]
      rw [hstore]
      exact (signal_of_none (h.row?_eq_none hp)).1
  | some p =>
      have hid := Transfers.id_of_find? h.keyed hp
      obtain ⟨r, hr, -, hrow⟩ := h.row?_eq hp
      have hanswer := (signal_of_some (x := x) hr hrow.read_eq).1
      rcases hx : p.accept x with e | _ | next
      · have hstore : s.signal id x = .error (.rejected e) := by
          simp only [Transfers.signal, hp, hx]
        rw [hstore]
        exact hanswer.trans (answering_of_refused hx).1
      · have hstore := Transfers.signal_eq_ok_iff.2 ⟨p, hp, .inl ⟨hx, rfl, rfl⟩⟩
        rw [hstore]
        exact ⟨d, hanswer.trans (answering_of_idle hx).1, h⟩
      · have hstore := Transfers.signal_eq_ok_iff.2 ⟨p, hp, .inr ⟨next, hx, rfl, rfl⟩⟩
        have hversion : toUnsigned (toSigned p.version + 1) = next.version + 1 := by
          rw [(hrow.next_eq (room _ _ hp)).2, Transfer.version_of_accept hx]
        rw [hstore]
        refine ⟨signalled d id next, ?_, ?_⟩
        · rw [hanswer, (answering_of_taken hr hrow.version_eq hx).1, hversion]
          rfl
        · exact h.rewritten (q := next.bumped) hp ((Transfer.id_of_accept hx).trans hid)
            (fun r => by simp [value_signalling]) (fun r _ => isRowOf_iff)
            fun r hr => hr.signalled (room _ _ hp) hx id

/-- What is sent to answer a signal: nothing if it is refused, and nothing is written, but the
transaction is committed, if it has no effect. -/
def answerTrace (p : Transfer) (x : Transfer.Signal) : List Session.Sent :=
  match p.accept x with
  | .error _ => []
  | .ok none => [.commit]
  | .ok (some next) => [.statement signalling (signallingParams p.id next), .commit]

/-- What is sent for a signal. -/
def signalTrace (s : Transfers) (id : String) (x : Transfer.Signal) : List Session.Sent :=
  .begin :: .statement looking [.text id] :: (s.find? id).elim [] fun p => answerTrace p x

theorem sent_signal (h : Represents d s) (id : String) (x : Transfer.Signal) :
    Session.sent d (signal id x) = signalTrace s id x := by
  unfold signalTrace
  cases hp : s.find? id with
  | none => exact (signal_of_none (h.row?_eq_none hp)).2
  | some p =>
      obtain ⟨r, hr, -, hrow⟩ := h.row?_eq hp
      rw [(signal_of_some hr hrow.read_eq).2, Option.elim_some, answerTrace]
      rcases hx : p.accept x with e | _ | next
      · rw [(answering_of_refused hx).2]
      · rw [(answering_of_idle hx).2]
      · rw [(answering_of_taken hr hrow.version_eq hx).2, Transfers.id_of_find? h.keyed hp]

/-- A claim that selects the row of one record puts it on lease. -/
theorem Represents.claimed (h : Represents d s) (room : HasRoom s) {id : String}
    (hp : s.find? id = some p) {states : List Transfer.State} {batch : Nat} {c : Claim}
    (hc : c.expiresAt.inRange = true) (whole : toMicros c.expiresAt = c.expiresAt)
    (selected : ∀ r ∈ d.rows name,
      covers claiming d (claimingParams states batch c) r = isRowOf id r) :
    Represents (apply d (.claim states batch c)) ⟨Table.put id (p.leased c) s.records⟩ := by
  have hid : p.id = id := Transfers.id_of_find? h.keyed hp
  rw [apply, perform_claim]
  refine h.rewritten (q := p.leased c) hp hid (fun r => by simp [value_claiming])
    (fun r hr => ?_) fun r hr => hr.claimed (room _ _ hp) states batch hc whole
  rw [selected r hr, isRowOf_iff]

/-! ## Histories -/

/-- What is simulated: a new record has no lease, and one that is written back has.  A claim goes by
instants, which a database cuts, and is not among the accesses here. -/
def Fits : Operation → Prop
  | .create p => p.IsTyped ∧ p.lease = none
  | .update p => p.IsTyped ∧ p.lease.isSome = true
  | .release _ _ | .signal _ _ => True
  | .claim _ _ _ => False

/-- The store after what it gave; a fault leaves it as it is. -/
def settled {α : Type} (s : Transfers) : Except StoreFault (α × Transfers) → Transfers
  | .ok (_, t) => t
  | .error _ => s

/-- Whatever a store gives, the database represents it afterwards. -/
theorem Simulates.represents {α : Type} (h : Represents d s) {m : Session α}
    {given : Except StoreFault (α × Transfers)} (simulates : Simulates d m given) :
    Represents (Session.perform d m).2 (settled s given) := by
  cases given with
  | error e =>
      have hperform : Session.perform d m = (.error e, d) := simulates
      rw [hperform]
      exact h
  | ok x =>
      obtain ⟨d', hperform, hrepresents⟩ := simulates
      rw [hperform]
      exact hrepresents

theorem represents_apply (h : Represents d s) (room : HasRoom s) {op : Operation} (fits : Fits op) :
    Represents (apply d op) (s.apply op) := by
  cases op with
  | create p =>
      have hstep := (simulates_create h fits.1 fits.2).represents h
      rw [apply, Transfers.apply]
      cases hs : s.create p <;> rw [hs] at hstep <;> exact hstep
  | claim => cases fits
  | update p =>
      have hstep := (simulates_update h room fits.1 fits.2).represents h
      rw [apply, Transfers.apply]
      cases hs : s.update p <;> rw [hs] at hstep <;> exact hstep
  | release id holder => exact (simulates_release h id holder).represents h
  | signal id x =>
      have hstep := (simulates_signal h room id x).represents h
      rw [apply, Transfers.apply]
      cases hs : s.signal id x <;> rw [hs] at hstep <;> exact hstep

/-- A history leaves the rows of the store after it, as long as no version grows too large. -/
theorem represents_after (h : Represents d s) {ops : List Operation} (fits : ∀ op ∈ ops, Fits op)
    (room : ∀ early, early <+: ops → HasRoom (s.after early)) :
    Represents (after d ops) (s.after ops) := by
  induction ops generalizing d s with
  | nil => exact h
  | cons op rest ih =>
      obtain ⟨hop, hrest⟩ := List.forall_mem_cons.1 fits
      refine ih (represents_apply h (room [] List.nil_prefix) hop) hrest fun early hearly => ?_
      exact room (op :: early) ((List.prefix_cons_inj op).2 hearly)

end Accesses

/-! ## The four accesses -/

/-- **A database does what a store does.**  Let the rows of a database be those of a store, with
versions below 2^63.  To create a record, to write one back from a lease, to give a lease back and
to deliver a signal each give at the database what they give at the store, a value or a fault, and
what they leave represents what the store has become; a fault leaves the database as it was.  For a
signal that is refused the row is only looked at, and for one without effect the transaction is only
committed.  What the columns beside document, lease and version say makes no difference. -/
theorem simulates_transfers {d : Database} {s : Transfers} (h : Represents d s) (room : HasRoom s) :
    (∀ p : Transfer, p.IsTyped → p.lease = none →
      Simulates d (create p) ((s.create p).map fun t => ((), t))) ∧
    (∀ p : Transfer, p.IsTyped → p.lease.isSome = true →
      Simulates d (update p) ((s.update p).map fun t => ((), t))) ∧
    (∀ id holder, Simulates d (release id holder) (.ok ((), s.release id holder))) ∧
    ∀ id x, Simulates d (signal id x) (s.signal id x) ∧
      Session.sent d (signal id x) = signalTrace s id x :=
  ⟨fun _ typed unleased => simulates_create h typed unleased,
    fun _ typed leased => simulates_update h room typed leased,
    fun id holder => simulates_release h id holder,
    fun id x => ⟨simulates_signal h room id x, sent_signal h id x⟩⟩

/-- A record is created and claimed.  It cannot be created again, its holder writes it back, and a
signal to it is written. -/
theorem simulates_transfers_of_claim :
    let address : DataAddress := ⟨"http", []⟩
    let request : DataRequest := ⟨"r", "a", "s", "c", "http://c", "p", address, address, []⟩
    let p : Transfer := Transfer.create "t" .consumer request ⟨0⟩
    let c : Claim := ⟨"w", ⟨0⟩, 9000⟩
    let d := after Database.empty [.create p, .claim [.initial] 1 c]
    let s : Transfers := ⟨[("t", p.leased c)]⟩
    Represents d s ∧ HasRoom s ∧ p.IsTyped ∧ (p.leased c).IsTyped ∧
      Session.perform d (create p) = (.error (.alreadyExists "t"), d) ∧
      (∃ t d', s.update (p.leased c) = .ok t ∧
        Session.perform d (update (p.leased c)) = (.ok (), d') ∧ Represents d' t) ∧
      Session.sent d (signal "t" .suspend) = signalTrace s "t" .suspend := by
  intro address request p c d s
  have typed : p.IsTyped := ⟨by decide, by decide⟩
  have hcreated := (simulates_create represents_empty typed rfl).represents represents_empty
  have hroom : ∀ q : Transfer, q.version < 5 → HasRoom ⟨[("t", q)]⟩ := by
    intro q hq id o ho
    have hmem := Table.mem_of_get?_eq_some ho
    simp only [List.mem_singleton, Prod.mk.injEq] at hmem
    rw [hmem.2]
    omega
  have hfound : Transfers.find? ⟨[("t", p)]⟩ "t" = some p := rfl
  have hexpires : c.expiresAt.inRange = true ∧ toMicros c.expiresAt = c.expiresAt := by decide
  have hselected : ∀ r ∈ (Session.perform Database.empty (create p)).2.rows name,
      covers claiming (Session.perform Database.empty (create p)).2
        (claimingParams [.initial] 1 c) r = isRowOf "t" r := by decide +kernel
  have hs : s = ⟨Table.put "t" (p.leased c) [("t", p)]⟩ := by
    rw [Table.put, if_neg (String.lt_irrefl "t"), if_pos rfl]
  have hclaimed : Represents d s := by
    rw [hs]
    exact Represents.claimed hcreated (hroom p (by decide)) hfound hexpires.1 hexpires.2 hselected
  have hleased : (p.leased c).IsTyped := ⟨by decide, by decide⟩
  obtain ⟨hcreate, hupdate, -, hsignal⟩ :=
    simulates_transfers hclaimed (hroom (p.leased c) (by decide))
  have hstore := Transfers.update_eq_ok_iff.2
    ⟨p.leased c, (rfl : s.find? "t" = some (p.leased c)), rfl, rfl, rfl⟩
  obtain ⟨d', hperform, hwritten⟩ : Simulates d (update (p.leased c)) (.ok ((), _)) := by
    have hstep := hupdate (p.leased c) hleased rfl
    rwa [hstore] at hstep
  exact ⟨hclaimed, hroom _ (by decide), typed, hleased, hcreate p typed rfl,
    ⟨_, d', hstore, hperform, hwritten⟩, (hsignal "t" .suspend).2⟩

end TransferTable
end Connector.Sql
