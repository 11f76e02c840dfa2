import Connector.Explained
import Connector.Transfer.State

/-!
# Why a transfer refuses

What can be wrong with a request, a move or a signal.  `Refusal.message` is the wording.
-/

namespace Connector.Transfer

/-- What about the state of a transfer stands against a signal or a move. -/
inductive Obstacle where
  | notSuspendable
  | cancellationPending
  | notSuspended
  | nothingToResume
  deriving DecidableEq, Repr

/-- The wording of an obstacle. -/
def Obstacle.text : Obstacle → String
  | notSuspendable => "cannot be suspended"
  | cancellationPending => "cancellation pending"
  | notSuspended => "not suspended"
  | nothingToResume => "no state recorded to resume to"

/-- Why a request, a move or a signal is refused. -/
inductive Refusal where
  /-- A field of the request is blank. -/
  | emptyField (field : String)
  /-- The state graph has no such edge. -/
  | illegalStep (state : State) (step : Step)
  /-- The signal does not suit the state. -/
  | wrongState (state : State) (obstacle : Obstacle)
  /-- A report on a flow that is not the one recorded. -/
  | unknownHandle (handle : String)
  deriving DecidableEq, Repr

/-- The wording of a refusal. -/
def Refusal.message : Refusal → String
  | emptyField field => s!"Malformed transfer request: {field} must not be empty"
  | illegalStep state step =>
      "Illegal transition from " ++ state.name ++ " on " ++ step.word
  | wrongState state obstacle =>
      "Transfer process is " ++ state.name ++ ": " ++ obstacle.text
  | unknownHandle handle => s!"Unknown data flow handle: {handle}"

instance : Explained Refusal where
  kind
    | .emptyField _ => "MalformedRequest"
    | .illegalStep _ _ => "InvalidTransition"
    | .wrongState _ _ => "InvalidState"
    | .unknownHandle _ => "UnknownHandle"
  message := Refusal.message

end Connector.Transfer
