import Connector.Site.Basic

/-!
# The stores of a site

The accesses of the connector to its stores, each of which may fail.
-/

namespace Connector.SiteM

/-- A change of the transfers that gives a value. -/
def transfers {α : Type} (f : Transfers → Except StoreFault (α × Transfers)) :
    SiteM (Except StoreFault α) := fun s =>
  match f s.transfers with
  | .ok (a, t) => (.ok a, { s with transfers := t })
  | .error e => (.error e, s)

/-- A change of the data planes that gives a value. -/
def dataPlanes {α : Type} (f : DataPlanes → α × DataPlanes) : SiteM (Except StoreFault α) :=
  fun s =>
  let r := f s.dataPlanes
  (.ok r.1, { s with dataPlanes := r.2 })

/-- Adds a record. -/
def storeTransfer (p : Transfer) : SiteM (Except StoreFault Unit) :=
  access .create (transfers fun t => (t.create p).map fun t => ((), t))

/-- The record of an id. -/
def findTransfer (id : String) : SiteM (Except StoreFault (Option Transfer)) :=
  access .findById do return .ok ((← get).transfers.find? id)

/-- A record of a request's id. -/
def findByRequest (requestId : String) : SiteM (Except StoreFault (Option Transfer)) :=
  access .findByRequest do return .ok ((← get).transfers.findByRequest? requestId)

/-- Takes records on lease. -/
def claim (batch : Nat) (c : Claim) : SiteM (Except StoreFault (Except Overrun (List Transfer))) :=
  access .claim (transfers fun t => .ok (t.claimOnClock Transfer.State.actionable batch c))

/-- Writes a record back. -/
def update (p : Transfer) : SiteM (Except StoreFault Unit) :=
  access .update (transfers fun t => (t.update p).map fun t => ((), t))

/-- Gives a lease back. -/
def release (id holder : String) : SiteM (Except StoreFault Unit) :=
  access .release (transfers fun t => .ok ((), t.release id holder))

/-- Delivers a signal. -/
def signal (id : String) (x : Transfer.Signal) : SiteM (Except StoreFault Transfer) :=
  access .signal (transfers fun t => t.signal id x)

/-- The number of records in each state. -/
def counts : SiteM (Except StoreFault (List (Transfer.State × Nat))) :=
  access .counts do return .ok (← get).transfers.counts

/-- The records asked for. -/
def query (q : Query) : SiteM (Except StoreFault (List Transfer)) :=
  access .query do return .ok ((← get).transfers.query q)

/-- Adds a data plane or replaces it. -/
def saveDataPlane (d : DataPlane) : SiteM (Except StoreFault Bool) :=
  access .saveDataPlane (dataPlanes fun s => s.save d)

/-- The data plane of an id. -/
def findDataPlane (id : String) : SiteM (Except StoreFault (Option DataPlane)) :=
  access .findDataPlane do return .ok ((← get).dataPlanes.find? id)

/-- Every listed data plane reports life. -/
def touchAll (listed : List DataPlane) (now : Instant) (s : DataPlanes) : DataPlanes :=
  listed.foldl (fun s d => (s.touch d.id now none).2) s

/-- The data planes in the order of their ids. -/
def listDataPlanes : SiteM (Except StoreFault (List DataPlane)) :=
  access .listDataPlanes do
    let listed := (← get).dataPlanes.list
    if (← failure? .touchAfterList).isSome then
      modify fun s => { s with dataPlanes := touchAll listed s.now s.dataPlanes }
    return .ok listed

/-- Drops a data plane. -/
def deleteDataPlane (id : String) : SiteM (Except StoreFault Bool) :=
  access .deleteDataPlane (dataPlanes fun s => s.delete id)

/-- Notes a report of life. -/
def touchDataPlane (id : String) (load : Option Nat) : SiteM (Except StoreFault Bool) := do
  let now := (← get).now
  access .touchDataPlane (dataPlanes fun s => s.touch id now load)

/-- Drops a data plane that is stale. -/
def deleteStale (id : String) (cutoff : Instant) : SiteM (Except StoreFault Bool) :=
  access .deleteStale (dataPlanes fun s => s.deleteIfStale id cutoff)

end Connector.SiteM
