import Connector.Sql.Session
import Connector.Store.Transfers
import Connector.Transfer.Codec

/-!
# Transfers in a database

A record is a row: the record itself as a document, and beside it, in columns of their own, what
records are looked for by.  The lease and the version of a record are those of the columns, whatever
the document says.
-/

namespace Connector.Sql.TransferTable

open Expression (column param literal null)

/-- The table. -/
def name : String := "transfer_processes"

/-- The columns that a record is read from. -/
def columns : List String := ["payload", "lease_holder", "lease_expires_at", "version"]

/-- The word for a command in its column. -/
def commandWord : Transfer.Command → String
  | .cancel => "cancel"
  | .suspend => "suspend"
  | .resume => "resume"

/-- The lease of two columns; both must be there. -/
def leaseOf : Option String → Option Instant → Option Lease
  | some holder, some expiresAt => some ⟨holder, expiresAt⟩
  | _, _ => none

/-- The record of a row. -/
def ofRow (r : Row) : Except StoreFault Transfer := do
  let payload ← r.document "payload"
  let p ← (Transfer.decoder.run payload).mapError fun e => .unreadable e.message
  let holder ← r.text? "lease_holder"
  let expiresAt ← r.instant? "lease_expires_at"
  let version ← r.number "version"
  return { p with lease := leaseOf holder expiresAt, version := toUnsigned version }

/-- The records of some rows, or the first fault. -/
def ofRows : List Row → Except StoreFault (List Transfer)
  | [] => .ok []
  | r :: rest => do
      let p ← ofRow r
      return p :: (← ofRows rest)

/-- The names of some states. -/
def stateNames (states : List Transfer.State) : Value := .texts (states.map Transfer.State.name)

/-- The value of the column of a command. -/
def commandValue (c : Option Transfer.Command) : Value := .ofText (c.map commandWord)

/-- The condition on the identity. -/
def isId : Condition := .equal (column "id") (param 1 none)

/-- Rows of a condition, with the columns of a record. -/
def selection (c : Condition) : Selection :=
  ⟨columns, name, some c, [], none, ""⟩

/-- Adds a record. -/
def insertion : Statement :=
  .insert true name
    [("id", param 1 none), ("data_request_id", param 2 none), ("process_type", param 3 none),
     ("agreement_id", param 4 none), ("state", param 5 none), ("state_timestamp", param 6 none),
     ("retry_at", param 7 none), ("pending_command", param 8 none),
     ("has_completion", param 9 none), ("lease_holder", null), ("lease_expires_at", null),
     ("version", param 10 none), ("created_at", param 11 none), ("payload", param 12 none)]
    .keep

/-- The parameters of an insertion. -/
def insertionParams (p : Transfer) : List Value :=
  [.text p.id, .text p.request.id, .text p.role.name, .text p.request.agreementId,
   .text p.state.name, .ofInstant p.stateTimestamp, .ofInstant? p.retryAt,
   commandValue p.pendingCommand, .truth p.completion.isSome, .ofNat p.version,
   .ofInstant p.createdAt, .document p.toJson]

/-- Adds a record under a new identity. -/
def create (p : Transfer) : Session Unit := do
  let reply ← Session.execute insertion (insertionParams p)
  if reply.affected = 0 then Session.lift (.error (.alreadyExists p.id))

/-- The record of the first row, if there is one. -/
def firstOf (reply : Reply) : Session (Option Transfer) :=
  match reply.rows with
  | [] => pure none
  | r :: _ => Session.lift ((ofRow r).map some)

/-- The record of an identity. -/
def find (id : String) : Session (Option Transfer) := do
  firstOf (← Session.execute (.select (selection isId)) [.text id])

/-- The oldest record of a request's identity. -/
def findByRequest (requestId : String) : Session (Option Transfer) := do
  let s : Selection :=
    { selection (.equal (column "data_request_id") (param 1 none)) with
      order := ["created_at"], limit := some (.constant 1) }
  firstOf (← Session.execute (.select s) [.text requestId])

/-- What a row must fulfil to be claimed. -/
def claimCondition : Condition :=
  .both (.among (column "state") (param 1 none))
    (.both
      (.group false (.either (.isNull (column "lease_expires_at"))
        (.atMost (column "lease_expires_at") (param 2 none))))
      (.both
        (.group false (.either (.unequal (column "state") (literal "SUSPENDED"))
          (.isNotNull (column "pending_command"))))
        (.group true (.either (.isNull (column "retry_at"))
          (.either (.atMost (column "retry_at") (param 2 none))
            (.either (.equal (column "pending_command") (literal "cancel"))
              (.group false (.both (.equal (column "state") (literal "STARTED"))
                (.isTrue (column "has_completion"))))))))))

/-- Takes rows on lease. -/
def claiming : Statement :=
  .update name
    [("lease_holder", param 3 none), ("lease_expires_at", param 4 none),
     ("version", .next (column "version"))]
    (.selected ⟨["id"], name, some claimCondition, ["state_timestamp", "id"], some (param 5 none),
      " FOR UPDATE SKIP LOCKED"⟩)
    columns

/-- Takes records on lease, the oldest state first. -/
def claim (states : List Transfer.State) (batch : Nat) (c : Claim) : Session (List Transfer) := do
  let reply ← Session.execute claiming
    [stateNames states, .ofInstant c.now, .text c.holder, .ofInstant c.expiresAt, .ofNat batch]
  let taken ← Session.lift (ofRows reply.rows)
  return taken.mergeSort Transfers.claimOrder

/-- Writes a record back. -/
def writing : Statement :=
  .update name
    [("state", param 2 none), ("state_timestamp", param 3 none), ("retry_at", param 4 none),
     ("pending_command", param 5 none), ("has_completion", param 6 none),
     ("payload", param 7 none), ("lease_holder", null), ("lease_expires_at", null),
     ("version", .next (column "version"))]
    (.rows (.both isId (.both (.equal (column "version") (param 8 none))
      (.equal (column "lease_holder") (param 9 none)))))
    []

/-- Looks whether a row is there. -/
def existence : Statement := .select ⟨["1"], name, some isId, [], none, ""⟩

/-- Writes a record back that was taken on lease. -/
def update (p : Transfer) : Session Unit := do
  match p.lease with
  | none => Session.lift (.error (.conflict p.id))
  | some lease =>
      let reply ← Session.execute writing
        [.text p.id, .text p.state.name, .ofInstant p.stateTimestamp, .ofInstant? p.retryAt,
         commandValue p.pendingCommand, .truth p.completion.isSome, .document p.toJson,
         .ofNat p.version, .text lease.holder]
      if reply.affected = 0 then
        let there ← Session.execute existence [.text p.id]
        if there.rows.isEmpty then Session.lift (.error (.notFound p.id))
        else Session.lift (.error (.conflict p.id))

/-- Gives leases back. -/
def releasing : Statement :=
  .update name [("lease_holder", null), ("lease_expires_at", null)]
    (.rows (.both isId (.equal (column "lease_holder") (param 2 none)))) []

/-- Gives a lease back; nothing happens to the lease of another. -/
def release (id holder : String) : Session Unit := do
  let _ ← Session.execute releasing [.text id, .text holder]

/-- Writes what a signal changed. -/
def signalling : Statement :=
  .update name
    [("pending_command", param 2 none), ("has_completion", param 3 none),
     ("payload", param 4 none), ("version", .next (column "version"))]
    (.rows isId) ["version"]

/-- Delivers a signal, and gives the record as it is then. -/
def signal (id : String) (x : Transfer.Signal) : Session Transfer := do
  Session.beginTransaction
  let reply ← Session.execute (.select { selection isId with lock := " FOR UPDATE" }) [.text id]
  match reply.rows with
  | [] => Session.lift (.error (.notFound id))
  | r :: _ =>
      let p ← Session.lift (ofRow r)
      match p.accept x with
      | .error e => Session.lift (.error (.rejected e))
      | .ok none =>
          Session.commitTransaction
          return p
      | .ok (some next) =>
          let reply ← Session.execute signalling
            [.text id, commandValue next.pendingCommand, .truth next.completion.isSome,
             .document next.toJson]
          match reply.rows with
          | [] => Session.lift (.error (.notFound "Row not found"))
          | r :: _ =>
              let version ← Session.lift (r.numberNamed "version" "0")
              Session.commitTransaction
              return { next with version := toUnsigned version }

/-- A number of records in a state. -/
def countOf (r : Row) : Except StoreFault (Transfer.State × Nat) := do
  let state ← r.text "state"
  let total ← r.number "total"
  match Transfer.State.parse? state with
  | some s => return (s, toUnsigned total)
  | none => throw (.unreadable (Transfer.State.unknown state))

/-- The numbers of some rows, or the first fault. -/
def countsOf : List Row → Except StoreFault (List (Transfer.State × Nat))
  | [] => .ok []
  | r :: rest => do
      let c ← countOf r
      return c :: (← countsOf rest)

/-- How many records are in each state that has any. -/
def counts : Session (List (Transfer.State × Nat)) := do
  Session.lift (countsOf (← Session.execute (.tally "state" name) []).rows)

/-- A condition that holds where a parameter is absent. -/
def orAbsent (index : Nat) (type : String) (c : Condition) : Condition :=
  .group false (.either (.isNull (param index (some type))) c)

/-- Looks for records. -/
def querying : Statement :=
  .select
    { selection
        (.both (orAbsent 1 "text[]" (.among (column "state") (param 1 none)))
          (.both (orAbsent 2 "text" (.equal (column "process_type") (param 2 none)))
            (orAbsent 3 "text" (.equal (column "agreement_id") (param 3 none))))) with
      order := ["created_at", "id"], limit := some (param 4 none) }

/-- The records asked for, the oldest first. -/
def query (q : Query) : Session (List Transfer) := do
  let reply ← Session.execute querying
    [if q.states.isEmpty then .null else stateNames q.states, .ofText (q.role.map (·.name)),
     .ofText q.agreementId, .ofNat? q.limit]
  Session.lift (ofRows reply.rows)

end Connector.Sql.TransferTable
