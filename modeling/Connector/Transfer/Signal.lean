/-!
# Signals to a transfer

What reaches a transfer from outside the workers: three commands, and the report that its flow
has ended.
-/

namespace Connector

/-- How a data flow ended. -/
inductive Outcome where
  | succeeded
  | failed (detail : String)
  deriving DecidableEq, Repr, Inhabited

namespace Transfer

/-- A command that waits for the next worker. -/
inductive Command where
  | cancel
  | suspend
  | resume
  deriving DecidableEq, Repr, Inhabited

/-- The word for a command. -/
def Command.word : Command → String
  | cancel => "Cancel"
  | suspend => "Suspend"
  | resume => "Resume"

/-- What is delivered to a transfer from outside. -/
inductive Signal where
  | cancel
  | suspend
  | resume
  /-- The flow of this handle has ended. -/
  | completion (handle : String) (outcome : Outcome)
  deriving DecidableEq, Repr, Inhabited

/-- Which side of the exchange the connector is on. -/
inductive Role where
  | consumer
  | provider
  deriving DecidableEq, Repr, Inhabited

/-- The name of a side. -/
def Role.name : Role → String
  | consumer => "CONSUMER"
  | provider => "PROVIDER"

end Transfer
end Connector
