import Connector.DataPlane.Codec
import Connector.Sql.Session

/-!
# Data planes in a database

A data plane is a row: itself as a document, and beside it its address and when it was seen last.
A report of life changes the document in place.
-/

namespace Connector.Sql.DataPlaneTable

open Expression (column param)

/-- The table. -/
def name : String := "data_plane_instances"

/-- The condition on the identity. -/
def isId : Condition := .equal (column "id") (param 1 none)

/-- The data plane of a row. -/
def ofRow (r : Row) : Except StoreFault DataPlane := do
  let payload ← r.document "payload"
  (DataPlane.decoder.run payload).mapError fun e => .unreadable e.message

/-- The data planes of some rows, or the first fault. -/
def ofRows : List Row → Except StoreFault (List DataPlane)
  | [] => .ok []
  | r :: rest => do
      let d ← ofRow r
      return d :: (← ofRows rest)

/-- Looks whether a row is there, and locks it. -/
def existence : Statement := .select ⟨["1"], name, some isId, [], none, " FOR UPDATE"⟩

/-- Puts a data plane in. -/
def insertion : Statement :=
  .insert false name
    [("id", param 1 none), ("url", param 2 none), ("last_seen", param 3 none),
     ("payload", param 4 none)]
    (.replace ["url", "last_seen", "payload"])

/-- Adds a data plane, or puts it in place of one of its identity; tells which. -/
def save (d : DataPlane) : Session Bool := do
  Session.beginTransaction
  let there ← Session.execute existence [.text d.id]
  let _ ← Session.execute insertion
    [.text d.id, .text d.url, .ofInstant d.lastSeen, .document d.toJson]
  Session.commitTransaction
  return !there.rows.isEmpty

/-- The data plane of an identity. -/
def find (id : String) : Session (Option DataPlane) := do
  let reply ← Session.execute (.select ⟨["payload"], name, some isId, [], none, ""⟩) [.text id]
  match reply.rows with
  | [] => return none
  | r :: _ => return some (← Session.lift (ofRow r))

/-- The data planes in the order of their identities. -/
def list : Session (List DataPlane) := do
  let reply ← Session.execute (.select ⟨["payload"], name, none, ["id"], none, ""⟩) []
  Session.lift (ofRows reply.rows)

/-- Drops a data plane; tells whether it was there. -/
def delete (id : String) : Session Bool := do
  let reply ← Session.execute (.delete name isId) [.text id]
  return decide (0 < reply.affected)

/-- The document with a report of life in it: the load is the one reported, or else the one that
was there, or else none. -/
def touchedPayload : Expression :=
  .withMember true (.withMember false (column "payload") "last_seen" (param 3 none)) "load"
    (.firstOf (param 4 none) (.member (column "payload") "load") .nullDocument)

/-- Notes a report of life. -/
def touching : Statement :=
  .update name [("last_seen", param 2 none), ("payload", touchedPayload)] (.rows isId) []

/-- Notes a report of life; tells whether the data plane is there. -/
def touch (id : String) (seen : Instant) (load : Option Nat) : Session Bool := do
  let reply ← Session.execute touching
    [.text id, .ofInstant seen, .document (.instant seen),
     (load.map fun n => Value.document (.nat n)).getD .null]
  return decide (0 < reply.affected)

/-- Drops a data plane that was last seen before an instant; tells whether it did. -/
def deleteIfStale (id : String) (cutoff : Instant) : Session Bool := do
  let isStale := .less (column "last_seen") (param 2 none)
  let reply ← Session.execute (.delete name (.both isId isStale))
    [.text id, .ofInstant cutoff]
  return decide (0 < reply.affected)

end Connector.Sql.DataPlaneTable
