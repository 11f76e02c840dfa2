import Connector.DataPlane.Basic

/-!
# Choosing a data plane

Of the data planes that are alive, have every required property and can connect the two ends, the
one is chosen that matches most ends by name; then the one with the least reported load, an
unreported load last; then the one with the first id.
-/

namespace Connector.DataPlane

/-- What a transfer needs of a data plane. -/
structure Need where
  transferType : TransferType
  properties : Table String
  deriving DecidableEq, Repr, Inhabited

/-- What a request needs. -/
def Need.ofRequest (r : DataRequest) : Need := ⟨r.transferType, r.dataPlaneProperties⟩

/-- Whether a data plane has every required property. -/
def hasProperties (d : DataPlane) (need : Need) : Bool :=
  need.properties.all fun p => Table.get? p.1 d.properties == some p.2

/-- The best specificity of the capabilities, if the data plane can serve the need. -/
def specificity (d : DataPlane) (need : Need) : Option Nat :=
  if d.hasProperties need then
    (d.capabilities.filterMap fun c => c.specificity need.transferType).max?
  else none

/-- A data plane with its specificity. -/
structure Candidate where
  score : Nat
  dataPlane : DataPlane
  deriving Repr

/-- The order of loads, an unreported one last. -/
def compareLoad : Option Nat → Option Nat → Ordering
  | some a, some b => compare a b
  | some _, none => .lt
  | none, some _ => .gt
  | none, none => .eq

/-- The order of candidates, the best first. -/
def Candidate.compare (a b : Candidate) : Ordering :=
  (Ord.compare b.score a.score).then
    ((compareLoad a.dataPlane.load b.dataPlane.load).then
      (Ord.compare a.dataPlane.id b.dataPlane.id))

/-- The better of two candidates, the earlier one where they are equal. -/
def Candidate.better (a b : Candidate) : Candidate := if a.compare b == .gt then b else a

/-- The candidates among some data planes. -/
def candidates (all : List DataPlane) (need : Need) (now : Instant) (timeout : Option Int) :
    List Candidate :=
  (all.filter fun d => d.isLive now timeout).filterMap fun d =>
    (d.specificity need).map fun score => ⟨score, d⟩

/-- The best of some candidates. -/
def best : List Candidate → Option Candidate
  | [] => none
  | c :: rest => some (rest.foldl Candidate.better c)

/-- The data plane for a need. -/
def select (all : List DataPlane) (need : Need) (now : Instant) (timeout : Option Int) :
    Option DataPlane :=
  (best (candidates all need now timeout)).map (·.dataPlane)

end Connector.DataPlane
