import Connector.Proofs.DataPlane.Document
import Connector.Proofs.Sql.Row
import Connector.Proofs.Store.DataPlanes
import Connector.Sql.DataPlaneTable

/-!
# The rows of data planes

A row has a data plane as a document, and beside it the address and when it was seen last, the
latter cut to the microsecond.  Only the first statement for a data plane writes a whole row; later
ones change columns, and a report of life changes two members of the document in place.  What comes
of either is the row of a data plane again, so that the table is at every time the rows of a list of
data planes, and each session does to the rows what is done to the list.  Statements:

* `eval_touchedPayload` — what a report of life makes of a document;
* `changed_insertion`, `changed_touching` — rows that are changed are rows of data planes;
* `leaves_save`, `leaves_touch`, `leaves_delete`, `leaves_deleteIfStale` — what the sessions give,
  and the rows that they leave;
* `perform_find` — what is found.
-/

namespace Connector

/-- The document of a data plane after a report of life: two of its members are others. -/
theorem DataPlane.members_seen (p : DataPlane) (seen : Instant) (load : Option Nat) :
    Table.put "load" (Json.orNull .nat (load.or p.load))
      (Table.put "last_seen" (.instant seen) p.members) = (p.seen seen load).members := by
  apply Table.eq_of_get?
  · exact Table.isSorted_put (Table.isSorted_put (Table.isSorted_ofEntries _))
  · exact Table.isSorted_ofEntries _
  · intro name
    simp only [members, fields, Table.ofEntries, List.foldl_cons, List.foldl_nil, Table.get?_put,
      DataPlane.seen]
    by_cases hload : name = "load"
    · simp [hload]
    · by_cases hseen : name = "last_seen"
      · simp [hseen]
      · simp [hload, hseen]

/-- A data plane fits its type after a report of life that does. -/
theorem DataPlane.IsTyped.seen {p : DataPlane} (typed : p.IsTyped) {seen : Instant}
    (hseen : seen.inRange = true) {load : Option Nat} (hload : LoadFits load) :
    (p.seen seen load).IsTyped := by
  refine ⟨?_, typed.registeredAt, hseen⟩
  intro n hn
  cases load with
  | some m => exact hload n hn
  | none => exact typed.load n hn

namespace Sql.DataPlaneTable

/-- The row of a data plane. -/
def rowOf (p : DataPlane) : Row :=
  Table.ofEntries [("id", .text p.id), ("url", .text p.url), ("last_seen", .ofInstant p.lastSeen),
    ("payload", .document p.toJson)]

/-- What is sent with a report of life. -/
def touchParams (id : String) (seen : Instant) (load : Option Nat) : List Value :=
  [.text id, .ofInstant seen, .document (.instant seen),
    (load.map fun n => Value.document (.nat n)).getD .null]

variable {d : Database} {p q : DataPlane} {ps : List DataPlane} {r : Row} {id : String}
  {seen cutoff : Instant} {load : Option Nat}

/-! ## A single row -/

theorem isSorted_rowOf (p : DataPlane) : Table.IsSorted (rowOf p) := Table.isSorted_ofEntries _

theorem value_rowOf (p : DataPlane) (column : String) :
    (rowOf p).value column =
      if column = "payload" then .document p.toJson
      else if column = "last_seen" then .ofInstant p.lastSeen
      else if column = "url" then .text p.url
      else if column = "id" then .text p.id
      else .null := by
  simp only [rowOf, Table.ofEntries, List.foldl_cons, List.foldl_nil, Row.value_put]
  rfl

/-- A row is read as the data plane whose row it is. -/
theorem ofRow_of_payload (typed : p.IsTyped) (hpayload : r.value "payload" = .document p.toJson) :
    ofRow r = .ok p := by
  simp only [ofRow, Row.document, hpayload, ok_bind, (DataPlane.reads typed).run]
  rfl

theorem ofRow_rowOf (typed : p.IsTyped) : ofRow (rowOf p) = .ok p :=
  ofRow_of_payload typed (by simp [value_rowOf])

theorem holds_isId (p : DataPlane) (id : String) (rest : List Value) :
    isId.holds ⟨rowOf p, .text id :: rest, []⟩ = decide (p.id = id) := by
  rw [Bool.eq_iff_iff, isId, Condition.holds_equal_text rfl, decide_eq_true_iff]
  simp [Scope.eval, value_rowOf]

/-! ## Rows that are changed -/

/-- The load that a report of life leaves: the one that is reported; if none is, the one that was in
the document; and if there was none, null. -/
theorem eval_load {members : List (String × Json)}
    (hpayload : r.value "payload" = .document (.obj members)) (id : String) (seen : Instant)
    (load : Option Nat) :
    Scope.eval ⟨r, touchParams id seen load, []⟩
        (.firstOf (.param 4 none) (.member (.column "payload") "load") .nullDocument) =
      .document ((load.map Json.nat).getD ((Table.get? "load" members).getD .null)) := by
  cases load with
  | some n => rfl
  | none =>
      show (if !(Scope.memberOf "load" (r.value "payload")).isNull
        then Scope.memberOf "load" (r.value "payload") else .document .null) = _
      rw [hpayload, Scope.memberOf]
      cases Table.get? "load" members with
      | some j => rfl
      | none => rfl

/-- What a report of life makes of a document, whatever else is in it. -/
theorem eval_touchedPayload {members : List (String × Json)}
    (hpayload : r.value "payload" = .document (.obj members)) (id : String) (seen : Instant)
    (load : Option Nat) :
    Scope.eval ⟨r, touchParams id seen load, []⟩ touchedPayload =
      .document (.obj (Table.put "load"
        ((load.map Json.nat).getD ((Table.get? "load" members).getD .null))
        (Table.put "last_seen" (.instant seen) members))) := by
  have hseen : Scope.eval ⟨r, touchParams id seen load, []⟩
      (.withMember false (.column "payload") "last_seen" (.param 3 none)) =
        .document (.obj (Table.put "last_seen" (.instant seen) members)) := by
    show Scope.setMember "last_seen" (r.value "payload") (.document (.instant seen)) = _
    rw [hpayload, Scope.setMember]
  show Scope.setMember "load" (Scope.eval _ _) (Scope.eval _ _) = _
  rw [hseen, eval_load hpayload, Scope.setMember]

/-- A report of life makes the document of a data plane that of the data plane which was seen. -/
theorem eval_touchedPayload_rowOf (p : DataPlane) (id : String) (seen : Instant)
    (load : Option Nat) :
    Scope.eval ⟨rowOf p, touchParams id seen load, []⟩ touchedPayload =
      .document (p.seen seen load).toJson := by
  have hpayload : (rowOf p).value "payload" = .document (.obj p.members) := by
    rw [value_rowOf, if_pos rfl, DataPlane.toJson_eq]
  have hthere : Table.get? "load" p.members = some (Json.orNull .nat p.load) :=
    p.get?_members ("load", Json.orNull .nat p.load) (by simp [DataPlane.fields])
  have hload : (load.map Json.nat).getD ((Table.get? "load" p.members).getD .null) =
      Json.orNull .nat (load.or p.load) := by
    rw [hthere]
    cases load <;> rfl
  rw [eval_touchedPayload hpayload, hload, DataPlane.members_seen, DataPlane.toJson_eq]

/-- A report of life leaves the row of the data plane that was seen. -/
theorem changed_touching (p : DataPlane) (id : String) (seen : Instant) (load : Option Nat) :
    changed ⟨rowOf p, touchParams id seen load, []⟩
        [("last_seen", .param 2 none), ("payload", touchedPayload)] =
      rowOf (p.seen seen load) := by
  have hseen : Scope.eval ⟨rowOf p, touchParams id seen load, []⟩ (.param 2 none) =
      .ofInstant seen := rfl
  simp only [changed, List.foldl_cons, List.foldl_nil, hseen, eval_touchedPayload_rowOf]
  apply Table.eq_of_get?
  · exact Table.isSorted_put (Table.isSorted_put (isSorted_rowOf p))
  · exact isSorted_rowOf _
  · intro name
    simp only [rowOf, Table.ofEntries, List.foldl_cons, List.foldl_nil, Table.get?_put]
    by_cases hpayload : name = "payload"
    · simp [hpayload]
    · by_cases hlast : name = "last_seen"
      · simp [hlast, DataPlane.seen]
      · simp [hpayload, hlast, DataPlane.seen]

/-- A data plane that takes the place of one of its id has its own row. -/
theorem changed_insertion (params : List Value) (hid : q.id = p.id) :
    changed ⟨rowOf q, params, rowOf p⟩
        [("url", .excluded "url"), ("last_seen", .excluded "last_seen"),
          ("payload", .excluded "payload")] =
      rowOf p := by
  simp only [changed, List.foldl_cons, List.foldl_nil, Scope.eval, value_rowOf]
  apply Table.eq_of_get?
  · exact Table.isSorted_put (Table.isSorted_put (Table.isSorted_put (isSorted_rowOf q)))
  · exact isSorted_rowOf p
  · intro name
    simp only [rowOf, Table.ofEntries, List.foldl_cons, List.foldl_nil, Table.get?_put]
    by_cases hpayload : name = "payload"
    · simp [hpayload]
    · by_cases hlast : name = "last_seen"
      · simp [hlast]
      · by_cases hurl : name = "url"
        · simp [hurl]
        · simp [hpayload, hlast, hurl, hid]

/-! ## The rows of a list -/

/-- The rows of the table are those of some data planes, in their order. -/
def Stands (d : Database) (ps : List DataPlane) : Prop := d.rows name = ps.map rowOf

/-- A session gives a truth value, and leaves the rows of some data planes. -/
def Leaves (d : Database) (m : Session Bool) (b : Bool) (ps : List DataPlane) : Prop :=
  ∃ d', Session.perform d m = (.ok b, d') ∧ Stands d' ps

/-- Some data planes, with one that takes the place of the one of its id or comes last. -/
def savedIn (ps : List DataPlane) (p : DataPlane) : List DataPlane :=
  if ps.any fun q => decide (q.id = p.id) then ps.map fun q => if q.id = p.id then p else q
  else ps ++ [p]

/-- Some data planes after a report of life from one of them. -/
def touchedIn (ps : List DataPlane) (id : String) (seen : Instant) (load : Option Nat) :
    List DataPlane :=
  ps.map fun p => if p.id = id then p.seen seen load else p

/-- Whether a data plane has an id and was seen last before an instant, both to the microsecond. -/
def isStaleAt (id : String) (cutoff : Instant) (p : DataPlane) : Bool :=
  decide (p.id = id) && decide (toMicros p.lastSeen < toMicros cutoff)

/-- What is selected by a condition on data planes is dropped. -/
theorem leaves_deletion (h : Stands d ps) {c : Condition} {params : List Value}
    {goes : DataPlane → Bool} (hgoes : ∀ p, c.holds ⟨rowOf p, params, []⟩ = goes p) :
    Leaves d (do
      let reply ← Session.execute (.delete name c) params
      return decide (0 < reply.affected)) (ps.any goes) (ps.filter fun p => !goes p) := by
  have hkept : ((d.rows name).filter fun r => !c.holds ⟨r, params, []⟩) =
      (ps.filter fun p => !goes p).map rowOf := by
    rw [h, List.filter_map]
    simp only [Function.comp_def, hgoes]
  refine ⟨Table.put name ((d.rows name).filter fun r => !c.holds ⟨r, params, []⟩) d, ?_, ?_⟩
  · have hany : decide (0 < (d.rows name).length -
        ((d.rows name).filter fun r => !c.holds ⟨r, params, []⟩).length) = ps.any goes := by
      rw [hkept, h, List.length_map, List.length_map, Bool.eq_iff_iff, decide_eq_true_iff,
        List.any_eq_true, Nat.sub_pos_iff_lt, List.length_filter_lt_length_iff_exists]
      simp
    rw [← hany]
    rfl
  · rw [Stands, rows_put, hkept]

theorem leaves_delete (h : Stands d ps) (id : String) :
    Leaves d (delete id) (ps.any fun p => decide (p.id = id))
      (ps.filter fun p => !decide (p.id = id)) :=
  leaves_deletion h fun p => holds_isId p id []

/-- What is stale to the microsecond is dropped. -/
theorem leaves_deleteIfStale (h : Stands d ps) (id : String) (cutoff : Instant) :
    Leaves d (deleteIfStale id cutoff) (ps.any (isStaleAt id cutoff))
      (ps.filter fun p => !isStaleAt id cutoff p) := by
  refine leaves_deletion h fun p => ?_
  have hseen : Scope.eval ⟨rowOf p, [.text id, .ofInstant cutoff], []⟩ (.column "last_seen") =
      .instant (toMicros p.lastSeen) := by
    show (rowOf p).value "last_seen" = _
    simp [value_rowOf, Value.ofInstant]
  rw [Bool.eq_iff_iff, Condition.holds_both, holds_isId, Condition.holds_less_instant hseen rfl,
    isStaleAt, Bool.and_eq_true, decide_eq_true_iff, decide_eq_true_iff]

/-- A report of life reaches the data planes of an id. -/
theorem leaves_touch (h : Stands d ps) (id : String) (seen : Instant) (load : Option Nat) :
    Leaves d (touch id seen load) (ps.any fun p => decide (p.id = id))
      (touchedIn ps id seen load) := by
  let covers (r : Row) : Bool := isId.holds ⟨r, touchParams id seen load, []⟩
  let change (r : Row) : Row := changed ⟨r, touchParams id seen load, []⟩
    [("last_seen", .param 2 none), ("payload", touchedPayload)]
  have hcovers : ∀ p, covers (rowOf p) = decide (p.id = id) := fun p => holds_isId p id _
  refine ⟨Table.put name ((d.rows name).map fun r => if covers r then change r else r) d, ?_, ?_⟩
  · have hany : decide (0 < (((d.rows name).filter covers).map change).length) =
        ps.any fun p => decide (p.id = id) := by
      rw [List.length_map, h, Bool.eq_iff_iff, decide_eq_true_iff, List.length_pos_iff_exists_mem]
      simp [hcovers]
    rw [← hany]
    rfl
  · rw [Stands, rows_put, h, touchedIn, List.map_map, List.map_map]
    refine List.map_congr_left fun p _ => ?_
    rw [Function.comp, Function.comp, hcovers]
    by_cases hid : p.id = id
    · simp only [hid, decide_true, if_true]
      exact changed_touching p id seen load
    · simp only [hid, decide_false, if_false, Bool.false_eq_true]

/-- What is sent with a data plane that is saved. -/
def insertionParams (p : DataPlane) : List Value :=
  [.text p.id, .text p.url, .ofInstant p.lastSeen, .document p.toJson]

/-- A data plane takes the place of the one of its id, or comes last. -/
theorem stands_insertion (h : Stands d ps) (p : DataPlane) :
    Stands (insertion.run d (insertionParams p)).2 (savedIn ps p) := by
  have hsame : ∀ q, sameIdentity (rowOf p) (rowOf q) = decide (q.id = p.id) := by
    intro q
    rw [Bool.eq_iff_iff, decide_eq_true_iff, @eq_comm _ q.id]
    simp [sameIdentity, identity, value_rowOf, Value.equal]
  have hany : (d.rows name).any (sameIdentity (rowOf p)) =
      ps.any fun q => decide (q.id = p.id) := by
    rw [h, List.any_map]
    simp only [Function.comp_def, hsame]
  have hrun : (insertion.run d (insertionParams p)).2 =
      if (d.rows name).any (sameIdentity (rowOf p)) then
        Table.put name ((d.rows name).map fun r => if sameIdentity (rowOf p) r
          then changed ⟨r, insertionParams p, rowOf p⟩
            [("url", .excluded "url"), ("last_seen", .excluded "last_seen"),
              ("payload", .excluded "payload")]
          else r) d
      else Table.put name (d.rows name ++ [rowOf p]) d :=
    apply_ite Prod.snd _ _ _
  rw [hrun, hany, savedIn]
  split
  · rw [Stands, rows_put, h, List.map_map, List.map_map]
    refine List.map_congr_left fun q _ => ?_
    rw [Function.comp, Function.comp, hsame]
    by_cases hid : q.id = p.id
    · simp only [hid, decide_true, if_true]
      exact changed_insertion _ hid
    · simp only [hid, decide_false, if_false, Bool.false_eq_true]
  · rw [Stands, rows_put, h, List.map_append, List.map_singleton]

/-- The rows that are found under an id. -/
theorem rows_selection (h : Stands d ps) (columns : List String) (lock : String) (id : String) :
    ((Statement.select ⟨columns, name, some isId, [], none, lock⟩).run d [.text id]).1.rows =
      (ps.filter fun p => decide (p.id = id)).map fun p => projected columns (rowOf p) := by
  have hfound := found_eq_filter (s := ⟨columns, name, some isId, [], none, lock⟩) rfl rfl d
    [.text id]
  have hrows : ((Statement.select ⟨columns, name, some isId, [], none, lock⟩).run d
      [.text id]).1.rows = ((d.rows name).filter fun r =>
        isId.holds ⟨r, [.text id], []⟩).map (projected columns) :=
    congrArg (List.map (projected columns)) hfound
  rw [hrows, h, List.filter_map, List.map_map]
  simp only [Function.comp_def, holds_isId]

theorem leaves_save (h : Stands d ps) (p : DataPlane) :
    Leaves d (save p) (ps.any fun q => decide (q.id = p.id)) (savedIn ps p) := by
  refine ⟨(insertion.run d (insertionParams p)).2, ?_, stands_insertion h p⟩
  have hthere : (!(existence.run d [.text p.id]).1.rows.isEmpty) =
      ps.any fun q => decide (q.id = p.id) := by
    rw [existence, rows_selection h, Bool.eq_iff_iff]
    simp
  rw [← hthere]
  rfl

/-- What is done with the rows that are found. -/
def readFirst : List Row → Session (Option DataPlane)
  | [] => pure none
  | r :: _ => do return some (← Session.lift (ofRow r))

/-- What is found is read as it was written. -/
theorem perform_find (h : Stands d ps) (typed : ∀ p ∈ ps, p.IsTyped) (id : String) :
    Session.perform d (find id) = (.ok (ps.find? fun p => decide (p.id = id)), d) := by
  have hperform : Session.perform d (find id) =
      Session.perform d (readFirst
        ((Statement.select ⟨["payload"], name, some isId, [], none, ""⟩).run
          d [.text id]).1.rows) := rfl
  rw [hperform, rows_selection h, ← List.head?_filter]
  cases hrows : ps.filter fun p => decide (p.id = id) with
  | nil => rfl
  | cons p rest =>
      have hp : p ∈ ps := by
        have hmem : p ∈ ps.filter fun p => decide (p.id = id) := hrows ▸ List.mem_cons_self
        exact (List.mem_filter.1 hmem).1
      have hread : ofRow (projected ["payload"] (rowOf p)) = .ok p := by
        apply ofRow_of_payload (typed p hp)
        rw [value_projected ["payload"] (by decide) _ _ (List.mem_singleton_self _), value_rowOf,
          if_pos rfl]
      rw [List.map_cons, List.head?_cons, readFirst, hread]
      rfl

end Sql.DataPlaneTable
end Connector
