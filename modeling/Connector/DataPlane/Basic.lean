import Connector.Transfer.Request
import Connector.Text.Lowercase
import Connector.Time.Instant

/-!
# Data planes

A data plane is a worker that moves data.  It advertises which pairs of technologies it can
connect, may report how many flows it runs, and is seen alive from time to time.  Statements:

* `endSpecificity_eq_some_iff` — which ends match, and how well;
* `validate_eq_ok_iff` — what a well formed descriptor is.
-/

namespace Connector

/-- A pair of technologies that a data plane connects; `*` stands for any. -/
structure Capability where
  source : String
  destination : String
  deriving DecidableEq, Repr, Inhabited

namespace Capability

/-- The mark for any technology. -/
def wildcard : String := "*"

/-- How well one end matches: not at all, as any (0) or by name (1). -/
def endSpecificity (advertised requested : String) : Option Nat :=
  if advertised = wildcard then some 0
  else if Text.eqIgnoringAsciiCase advertised requested then some 1
  else none

/-- The number of ends matched by name, if both ends match. -/
def specificity (c : Capability) (t : TransferType) : Option Nat := do
  let source ← endSpecificity c.source t.source
  let destination ← endSpecificity c.destination t.destination
  return source + destination

theorem endSpecificity_eq_some_iff {advertised requested : String} {n : Nat} :
    endSpecificity advertised requested = some n ↔
      (advertised = wildcard ∧ n = 0) ∨
        (advertised ≠ wildcard ∧ Text.eqIgnoringAsciiCase advertised requested = true ∧ n = 1) := by
  unfold endSpecificity
  split <;> grind

end Capability

/-- A registered data plane. -/
structure DataPlane where
  id : String
  /-- Where its control interface is. -/
  url : String
  capabilities : List Capability
  properties : Table String
  registeredAt : Instant
  lastSeen : Instant
  /-- The number of running flows as reported last. -/
  load : Option Nat
  deriving DecidableEq, Repr, Inhabited

namespace DataPlane

/-- What is wrong with a descriptor. -/
inductive Defect where
  | noId
  | noCapabilities (id : String)
  | blankType (id : String)
  deriving DecidableEq, Repr

/-- The wording of a defect. -/
def Defect.message : Defect → String
  | noId => "Invalid data plane instance: missing identifier"
  | noCapabilities id => s!"Invalid data plane instance: {id} advertises no capabilities"
  | blankType id => s!"Invalid data plane instance: {id} has an empty transfer type"

instance : Explained Defect where
  kind _ := "InvalidInstance"
  message := Defect.message

/-- Whether one end of a capability is blank. -/
def hasBlankEnd (c : Capability) : Bool :=
  Text.isBlankText c.source || Text.isBlankText c.destination

/-- Refuses a descriptor without id, without capabilities, or with a blank technology. -/
def validate (d : DataPlane) : Except Defect Unit :=
  if Text.isBlankText d.id then .error .noId
  else if d.capabilities.isEmpty then .error (.noCapabilities d.id)
  else if d.capabilities.any hasBlankEnd then .error (.blankType d.id)
  else .ok ()

/-- A data plane that registers at an instant, if its descriptor is well formed. -/
def create (id url : String) (capabilities : List Capability) (properties : Table String)
    (now : Instant) : Except Defect DataPlane := do
  let d : DataPlane := ⟨id, url, capabilities, properties, now, now, none⟩
  d.validate
  return d

/-- Whether a data plane was seen within the timeout, a distance in nanoseconds. -/
def isLive (d : DataPlane) (now : Instant) (timeout : Option Int) : Bool :=
  timeout.all fun limit => decide (now.since d.lastSeen ≤ limit)

theorem validate_eq_ok_iff (d : DataPlane) :
    d.validate = .ok () ↔
      Text.isBlankText d.id = false ∧ d.capabilities ≠ [] ∧
        ∀ c ∈ d.capabilities, hasBlankEnd c = false := by
  unfold validate
  grind

end DataPlane
end Connector
