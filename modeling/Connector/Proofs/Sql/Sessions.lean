import Connector.Proofs.Sql.Records
import Connector.Proofs.Store.Operation
import Mathlib.Data.List.Nodup

/-!
# Sessions on transfers, performed

What a session gives when it is performed on a database, what it leaves there, and what it has sent
on the way.  Each session on transfers comes down to one statement that adds a row or changes some
of the rows, and to a choice by what that statement did.  A signal is delivered within a
transaction: unless it is committed, nothing has changed.  Statements:

* `row?_eq_some_iff`, `ids_rewritten`, `nodup_ids_append` — an id of its own belongs to one row at
  most, before and after rows are changed or added;
* `perform_create`, `perform_update`, `perform_release`, `perform_claim` — what the sessions give
  and leave;
* `signal_of_none`, `signal_of_some`, `answering_of_refused`, `answering_of_idle`,
  `answering_of_taken` — what a signal gives, leaves and sends.
-/

namespace Connector.Sql

namespace Session

variable {α β : Type}

/-- What a session sends to a database on which it is performed. -/
def sent (d : Database) : Session α → List Sent
  | done _ => []
  | run s params next => .statement s params :: sent (s.run d params).2 (next (s.run d params).1)
  | begin rest => .begin :: sent d rest
  | commit rest => .commit :: sent d rest

end Session

namespace TransferTable

/-- Whether a statement changes a row. -/
def covers (s : Statement) (d : Database) (params : List Value) (r : Row) : Bool :=
  match s with
  | .update _ _ target _ => target.covers d params r
  | .define _ | .insert _ _ _ _ | .select _ | .delete _ _ | .tally _ _ => false

/-- Whether a row is that of an id. -/
def isRowOf (id : String) (r : Row) : Bool := isId.holds ⟨r, [.text id], []⟩

theorem isRowOf_iff {id : String} {r : Row} : isRowOf id r = true ↔ r.value "id" = .text id :=
  Condition.holds_equal_text rfl

/-- The row of an id. -/
def row? (d : Database) (id : String) : Option Row := (d.rows name).find? (isRowOf id)

/-- The database with some of the rows changed. -/
def rewritten (d : Database) (covers : Row → Bool) (change : Row → Row) : Database :=
  Table.put name ((d.rows name).map fun r => if covers r then change r else r) d

theorem rows_rewritten (d : Database) (covers : Row → Bool) (change : Row → Row) :
    (rewritten d covers change).rows name =
      (d.rows name).map fun r => if covers r then change r else r :=
  rows_put d name _

/-! ## The ids of the rows -/

section Ids

variable {d : Database} {r : Row} {id : String}

/-- The ids of the rows. -/
def ids (d : Database) : List Value := (d.rows name).map fun r => r.value "id"

theorem row?_eq_none_iff : row? d id = none ↔ ∀ r ∈ d.rows name, r.value "id" ≠ .text id := by
  simp only [row?, List.find?_eq_none, isRowOf_iff, ne_eq]

/-- An id of its own belongs to one row at most. -/
theorem row?_eq_some_iff (distinct : (ids d).Nodup) :
    row? d id = some r ↔ r ∈ d.rows name ∧ r.value "id" = .text id := by
  constructor
  · intro h
    exact ⟨List.mem_of_find?_eq_some h, isRowOf_iff.1 (List.find?_some h)⟩
  · rintro ⟨hr, hid⟩
    cases hfind : row? d id with
    | none => exact absurd hid (row?_eq_none_iff.1 hfind r hr)
    | some r' =>
        have hr' := List.mem_of_find?_eq_some hfind
        have hid' := isRowOf_iff.1 (List.find?_some hfind)
        rw [List.inj_on_of_nodup_map distinct hr hr' (hid.trans hid'.symm)]

theorem ids_rewritten (d : Database) (covers : Row → Bool) {change : Row → Row}
    (same : ∀ r, (change r).value "id" = r.value "id") :
    ids (rewritten d covers change) = ids d := by
  rw [ids, rows_rewritten, List.map_map, ids]
  refine List.map_congr_left fun r _ => ?_
  rw [Function.comp]
  split
  · exact same r
  · rfl

theorem nodup_ids_append (distinct : (ids d).Nodup) (unknown : row? d id = none)
    (hid : r.value "id" = .text id) :
    (ids (Table.put name (d.rows name ++ [r]) d)).Nodup := by
  rw [ids, rows_put, List.map_append, List.nodup_append]
  refine ⟨distinct, List.nodup_singleton _, ?_⟩
  rintro v hv w hw rfl
  obtain ⟨r', hr', rfl⟩ := List.mem_map.1 hv
  have hsame : r'.value "id" = r.value "id" := List.mem_singleton.1 hw
  exact row?_eq_none_iff.1 unknown r' hr' (hsame.trans hid)

end Ids

/-! ## Rows as they are read -/

/-- A row reads alike, whether as a whole or in the columns that are asked for. -/
theorem ofRow_projected (r : Row) : ofRow (projected columns r) = ofRow r := by
  have hvalue := value_projected columns (by decide) r
  simp only [columns, List.forall_mem_cons] at hvalue
  obtain ⟨hpayload, hholder, hexpires, hversion, -⟩ := hvalue
  simp only [ofRow, Row.document, Row.text?, Row.instant?, Row.number, Row.numberNamed, columns,
    hpayload, hholder, hexpires, hversion]

/-! ## What the sessions do -/

section Perform

variable {d : Database} {p : Transfer} {r : Row} {id : String} {x : Transfer.Signal}

/-- A record is added if its id is new. -/
theorem perform_create : Session.perform d (create p) =
    if (row? d p.id).isSome then (.error (.alreadyExists p.id), d)
    else (.ok (), Table.put name (d.rows name ++ [insertion.inserted (insertionParams p)]) d) := by
  have hid : identity (insertion.inserted (insertionParams p)) = .text p.id :=
    value_inserted p ("id", .text p.id) (by simp [insertedColumns])
  have hsame : sameIdentity (insertion.inserted (insertionParams p)) = isRowOf p.id := by
    funext r
    rw [Bool.eq_iff_iff, isRowOf_iff, sameIdentity, hid, identity, beq_iff_eq]
    cases r.value "id" <;> simp [Value.equal, @eq_comm _ p.id]
  have hany : (d.rows name).any (sameIdentity (insertion.inserted (insertionParams p))) =
      (row? d p.id).isSome := by
    rw [hsame, row?, Bool.eq_iff_iff, List.find?_isSome, List.any_eq_true]
  have hrun : insertion.run d (insertionParams p) =
      if (row? d p.id).isSome then (⟨[], 0⟩, d)
      else (⟨[], 1⟩,
        Table.put name (d.rows name ++ [insertion.inserted (insertionParams p)]) d) := by
    rw [← hany]
    rfl
  have hperform : Session.perform d (create p) =
      Session.perform (insertion.run d (insertionParams p)).2
        (if (insertion.run d (insertionParams p)).1.affected = 0
          then Session.lift (.error (.alreadyExists p.id)) else pure ()) := rfl
  rw [hperform, hrun]
  split <;> rfl

/-- What is sent with a lease that is given back. -/
def releasingParams (id holder : String) : List Value := [.text id, .text holder]

/-- The rows of a lease that is given back. -/
theorem covers_releasing_iff {holder : String} :
    covers releasing d (releasingParams id holder) r = true ↔
      r.value "id" = .text id ∧ r.value "lease_holder" = .text holder := by
  show Condition.holds _ _ = true ↔ _
  rw [Condition.holds_both, isId, Condition.holds_equal_text rfl, Condition.holds_equal_text rfl]
  rfl

/-- The row of a record that is written back. -/
theorem covers_writing_iff {holder : String} :
    covers writing d (writingParams p holder) r = true ↔
      r.value "id" = .text p.id ∧ r.value "version" = .ofNat p.version ∧
        r.value "lease_holder" = .text holder := by
  show Condition.holds _ _ = true ↔ _
  rw [Condition.holds_both, Condition.holds_both, isId, Condition.holds_equal_text rfl,
    Condition.holds_equal_number rfl, Condition.holds_equal_text rfl]
  rfl

/-- A lease is given back by the one who holds it. -/
theorem perform_release (holder : String) : Session.perform d (release id holder) =
    (.ok (), rewritten d (covers releasing d (releasingParams id holder))
      (releasing.change (releasingParams id holder))) := rfl

/-- Nobody may write back without a lease. -/
theorem perform_update_of_none (unleased : p.lease = none) :
    Session.perform d (update p) = (.error (.conflict p.id), d) := by
  simp only [update, unleased]
  rfl

/-- The database after a record was written back. -/
def writtenBack (d : Database) (p : Transfer) (holder : String) : Database :=
  rewritten d (covers writing d (writingParams p holder)) (writing.change (writingParams p holder))

/-- A record is written back to the row that it covers.  If there is none, it is in conflict with
the row of its id, or it is not known. -/
theorem perform_update {lease : Lease} (leased : p.lease = some lease) :
    Session.perform d (update p) =
      (if (d.rows name).any (covers writing d (writingParams p lease.holder)) then .ok ()
        else if (row? (writtenBack d p lease.holder) p.id).isSome then .error (.conflict p.id)
        else .error (.notFound p.id),
      writtenBack d p lease.holder) := by
  have hperform : Session.perform d (update p) =
      Session.perform (writtenBack d p lease.holder)
        (if (((d.rows name).filter (covers writing d (writingParams p lease.holder))).map
            (writing.change (writingParams p lease.holder))).length = 0 then do
          let there ← Session.execute existence [.text p.id]
          if there.rows.isEmpty then Session.lift (.error (.notFound p.id))
          else Session.lift (.error (.conflict p.id))
        else pure ()) := by
    simp only [update, leased]
    rfl
  have hthere : ∀ d : Database, (existence.run d [.text p.id]).1.rows.isEmpty =
      !(row? d p.id).isSome := by
    intro d
    have hfound : (existence.run d [.text p.id]).1.rows =
        ((d.rows name).filter (isRowOf p.id)).map (projected ["1"]) := by
      have hfilter := found_eq_filter (s := ⟨["1"], name, some isId, [], none, ""⟩) rfl rfl d
        [.text p.id]
      exact congrArg (List.map (projected ["1"])) hfilter
    rw [hfound, List.isEmpty_map, row?, Bool.eq_iff_iff]
    simp [List.isEmpty_iff, List.filter_eq_nil_iff]
  rw [hperform]
  by_cases hany : (d.rows name).any (covers writing d (writingParams p lease.holder)) = true
  · have hsome : ¬ (((d.rows name).filter (covers writing d (writingParams p lease.holder))).map
        (writing.change (writingParams p lease.holder))).length = 0 := by
      simpa [List.filter_eq_nil_iff] using hany
    rw [if_neg hsome, if_pos hany]
    rfl
  · have hnone : (((d.rows name).filter (covers writing d (writingParams p lease.holder))).map
        (writing.change (writingParams p lease.holder))).length = 0 := by
      simpa [List.filter_eq_nil_iff] using hany
    rw [if_pos hnone, if_neg hany]
    show Session.perform _ (if (existence.run (writtenBack d p lease.holder)
      [.text p.id]).1.rows.isEmpty then _ else _) = _
    rw [hthere]
    cases (row? (writtenBack d p lease.holder) p.id).isSome <;> rfl

/-- A claim changes the rows that it selects, whatever is read of them. -/
theorem perform_claim (states : List Transfer.State) (batch : Nat) (c : Claim) :
    (Session.perform d (claim states batch c)).2 =
      rewritten d (covers claiming d (claimingParams states batch c))
        (claiming.change (claimingParams states batch c)) := by
  let reply := (claiming.run d (claimingParams states batch c)).1
  have hperform : Session.perform d (claim states batch c) =
      Session.perform (rewritten d (covers claiming d (claimingParams states batch c))
          (claiming.change (claimingParams states batch c)))
        (Session.lift (ofRows reply.rows) >>= fun taken =>
          pure (taken.mergeSort Transfers.claimOrder)) := rfl
  rw [hperform]
  cases ofRows reply.rows <;> rfl

/-- The statement that looks for the row of a signal. -/
def looking : Statement := .select { selection isId with lock := " FOR UPDATE" }

/-- The rows that are found for a signal. -/
theorem rows_looking (d : Database) (id : String) : (looking.run d [.text id]).1.rows =
    ((d.rows name).filter (isRowOf id)).map (projected columns) := by
  have hfilter := found_eq_filter (s := { selection isId with lock := " FOR UPDATE" }) rfl rfl d
    [.text id]
  exact congrArg (List.map (projected columns)) hfilter

/-- What is done with the rows that a signal was written to. -/
def concluding (next : Transfer) : List Row → Session Transfer
  | [] => Session.lift (.error (.notFound "Row not found"))
  | r :: _ => do
      let version ← Session.lift (r.numberNamed "version" "0")
      Session.commitTransaction
      return { next with version := toUnsigned version }

/-- What is done with the record that was read for a signal. -/
def answering (id : String) (x : Transfer.Signal) (p : Transfer) : Session Transfer :=
  match p.accept x with
  | .error e => Session.lift (.error (.rejected e))
  | .ok none => do
      Session.commitTransaction
      return p
  | .ok (some next) => do
      let reply ← Session.execute signalling (signallingParams id next)
      concluding next reply.rows

/-- What is done with the rows that were found for a signal. -/
def answeringRows (id : String) (x : Transfer.Signal) : List Row → Session Transfer
  | [] => Session.lift (.error (.notFound id))
  | r :: _ => do answering id x (← Session.lift (ofRow r))

theorem signal_eq (id : String) (x : Transfer.Signal) :
    signal id x = .begin (.run looking [.text id] fun reply => answeringRows id x reply.rows) := by
  rfl

/-- The row of an id is the first of those that are found for it. -/
theorem filter_of_row? (known : row? d id = some r) :
    ∃ rest, (d.rows name).filter (isRowOf id) = r :: rest := by
  rw [row?, ← List.head?_filter, List.head?_eq_some_iff] at known
  exact known

/-- A signal to an unknown id is refused. -/
theorem signal_of_none (unknown : row? d id = none) :
    Session.perform d (signal id x) = (.error (.notFound id), d) ∧
      Session.sent d (signal id x) = [.begin, .statement looking [.text id]] := by
  have hrows : (looking.run d [.text id]).1.rows = [] := by
    rw [rows_looking, List.map_eq_nil_iff, ← List.head?_eq_none_iff, List.head?_filter]
    exact unknown
  simp only [signal_eq, Session.perform, Session.performSince, Session.sent, hrows]
  exact ⟨rfl, rfl⟩

/-- A signal to a known id is answered out of its record. -/
theorem signal_of_some (known : row? d id = some r) (hread : ofRow r = .ok p) :
    Session.perform d (signal id x) = Session.performSince (some d) d (answering id x p) ∧
      Session.sent d (signal id x) =
        .begin :: .statement looking [.text id] :: Session.sent d (answering id x p) := by
  obtain ⟨rest, hfilter⟩ := filter_of_row? known
  have hrows : (looking.run d [.text id]).1.rows =
      projected columns r :: rest.map (projected columns) := by
    rw [rows_looking, hfilter, List.map_cons]
  simp only [signal_eq, Session.perform, Session.performSince, Session.sent, hrows, answeringRows,
    ofRow_projected, hread]
  exact ⟨rfl, rfl⟩

theorem answering_of_refused {e : Transfer.Refusal} (refused : p.accept x = .error e) :
    Session.performSince (some d) d (answering id x p) = (.error (.rejected e), d) ∧
      Session.sent d (answering id x p) = [] := by
  simp only [answering, refused]
  exact ⟨rfl, rfl⟩

theorem answering_of_idle (idle : p.accept x = .ok none) :
    Session.performSince (some d) d (answering id x p) = (.ok p, d) ∧
      Session.sent d (answering id x p) = [.commit] := by
  simp only [answering, idle]
  exact ⟨rfl, rfl⟩

/-- The database after a signal had an effect. -/
def signalled (d : Database) (id : String) (next : Transfer) : Database :=
  rewritten d (isRowOf id) (signalling.change (signallingParams id next))

theorem answering_of_taken {next : Transfer} {n : Int} (known : row? d id = some r)
    (hn : r.value "version" = .number n) (taken : p.accept x = .ok (some next)) :
    Session.performSince (some d) d (answering id x p) =
        (.ok { next with version := toUnsigned (n + 1) }, signalled d id next) ∧
      Session.sent d (answering id x p) =
        [.statement signalling (signallingParams id next), .commit] := by
  obtain ⟨rest, hfilter⟩ := filter_of_row? known
  let change := signalling.change (signallingParams id next)
  have hrun : signalling.run d (signallingParams id next) =
      (⟨(((d.rows name).filter (isRowOf id)).map change).map (projected ["version"]),
        (((d.rows name).filter (isRowOf id)).map change).length⟩, signalled d id next) := rfl
  have hversion : (projected ["version"] (change r)).numberNamed "version" "0" = .ok (n + 1) := by
    have hvalue := value_projected ["version"] (by decide) (change r) "version"
      (by decide)
    rw [value_signalling, if_pos rfl, nextVersion_eq hn] at hvalue
    simp only [Row.numberNamed, hvalue]
  have hanswer : answering id x p =
      .run signalling (signallingParams id next) fun reply => concluding next reply.rows := by
    simp only [answering, taken]
    rfl
  simp only [hanswer, Session.performSince, Session.sent, hrun, hfilter, List.map_cons, concluding,
    hversion]
  exact ⟨rfl, rfl⟩

end Perform

/-! ## Histories of a database -/

/-- The database after an access, whatever the access gave. -/
def apply (d : Database) : Operation → Database
  | .create p => (Session.perform d (create p)).2
  | .claim states batch c => (Session.perform d (claim states batch c)).2
  | .update p => (Session.perform d (update p)).2
  | .release id holder => (Session.perform d (release id holder)).2
  | .signal id x => (Session.perform d (signal id x)).2

/-- The database after a history. -/
def after (d : Database) (ops : List Operation) : Database := ops.foldl apply d

end TransferTable
end Connector.Sql
