import Connector.DataPlane.Basic

/-!
# The store of data planes

Data planes under their ids.  A report of life changes nothing but when a data plane was seen and,
if given, its load; a stale data plane is dropped only if it is stale at that very moment.
-/

namespace Connector

/-- The data planes under their ids. -/
structure DataPlanes where
  records : Table DataPlane
  deriving Repr, Inhabited

namespace DataPlanes

/-- No data planes. -/
def empty : DataPlanes := ⟨[]⟩

/-- The data plane of an id. -/
def find? (s : DataPlanes) (id : String) : Option DataPlane := Table.get? id s.records

/-- The data planes in the order of their ids. -/
def list (s : DataPlanes) : List DataPlane := s.records.values

/-- Adds a data plane, or puts it in place of one of its id; tells which. -/
def save (s : DataPlanes) (d : DataPlane) : Bool × DataPlanes :=
  ((s.find? d.id).isSome, ⟨Table.put d.id d s.records⟩)

/-- Drops a data plane; tells whether it was there. -/
def delete (s : DataPlanes) (id : String) : Bool × DataPlanes :=
  ((s.find? id).isSome, ⟨Table.remove id s.records⟩)

/-- Notes a report of life; tells whether the data plane is there. -/
def touch (s : DataPlanes) (id : String) (seen : Instant) (load : Option Nat) :
    Bool × DataPlanes :=
  match s.find? id with
  | some d => (true, ⟨Table.put id { d with lastSeen := seen, load := load.or d.load } s.records⟩)
  | none => (false, s)

/-- Drops a data plane that was last seen before an instant; tells whether it did. -/
def deleteIfStale (s : DataPlanes) (id : String) (cutoff : Instant) : Bool × DataPlanes :=
  match s.find? id with
  | some d => if d.lastSeen < cutoff then (true, ⟨Table.remove id s.records⟩) else (false, s)
  | none => (false, s)

theorem find?_save (s : DataPlanes) (d : DataPlane) : (s.save d).2.find? d.id = some d :=
  Table.get?_put_self _ _ _

theorem find?_touch {s : DataPlanes} {id : String} {d : DataPlane} (h : s.find? id = some d)
    (seen : Instant) (load : Option Nat) :
    (s.touch id seen load).2.find? id =
      some { d with lastSeen := seen, load := load.or d.load } := by
  simp [touch, h]
  exact Table.get?_put_self _ _ _

theorem touch_of_find?_eq_none {s : DataPlanes} {id : String} (h : s.find? id = none)
    (seen : Instant) (load : Option Nat) : s.touch id seen load = (false, s) := by
  simp [touch, h]

end DataPlanes
end Connector
