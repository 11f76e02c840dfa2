import Connector.Transfer.Request
import Connector.Transfer.Signal
import Connector.Time.Instant

/-!
# The record of a transfer

A record moves along the state graph and nowhere else: `step` is the only function that changes
its state.  It counts how often the present state was entered again, remembers where it was
suspended from, and carries the command that waits for the next worker, the data flow and how it
ended, the instant before which it is not to be claimed, the lease and the version.

Statements:

* `step_eq_ok_iff` — a step succeeds exactly along an edge of the graph, and what it leaves;
* `accept_changes_command_or_completion` — an accepted signal changes one of two fields.
-/

namespace Connector

/-- The data plane that a transfer was handed to. -/
structure Assignment where
  dataPlaneId : String
  handle : String
  startedAt : Instant
  deriving DecidableEq, Repr, Inhabited

/-- The right of one worker to move a transfer, until an instant. -/
structure Lease where
  holder : String
  expiresAt : Instant
  deriving DecidableEq, Repr, Inhabited

/-- Whether a lease still counts. -/
def Lease.isActive (lease : Lease) (now : Instant) : Bool := decide (now < lease.expiresAt)

/-- The record of a transfer. -/
structure Transfer where
  id : String
  role : Transfer.Role
  state : Transfer.State
  /-- How often the state was entered again. -/
  stateCount : Nat
  /-- When the state was entered last. -/
  stateTimestamp : Instant
  createdAt : Instant
  request : DataRequest
  /-- Why the transfer failed. -/
  errorDetail : Option String
  /-- The state to come back to. -/
  suspendedFrom : Option Transfer.State
  pendingCommand : Option Transfer.Command
  dataFlow : Option Assignment
  /-- How the flow ended. -/
  completion : Option Outcome
  /-- Not to be claimed before this instant. -/
  retryAt : Option Instant
  lease : Option Lease
  /-- Grows with every write of the store. -/
  version : Nat
  deriving DecidableEq, Repr, Inhabited

namespace Transfer

/-- A new transfer under an id. -/
def create (id : String) (role : Role) (request : DataRequest) (now : Instant) : Transfer where
  id := id
  role := role
  state := .initial
  stateCount := 0
  stateTimestamp := now
  createdAt := now
  request := request
  errorDetail := none
  suspendedFrom := none
  pendingCommand := none
  dataFlow := none
  completion := none
  retryAt := none
  lease := none
  version := 0

/-- The state to come back to, after a step. -/
def suspendedAfter (p : Transfer) : Step → Option State
  | .suspend => some p.state
  | .resume _ => none
  | _ => p.suspendedFrom

/-- The record after entering a state by a step. -/
def entered (p : Transfer) (step : Step) (target : State) (now : Instant) : Transfer :=
  { p with
    state := target
    stateCount := if target = p.state then p.stateCount + 1 else 0
    stateTimestamp := now
    suspendedFrom := p.suspendedAfter step
    retryAt := none }

/-- Moves along the state graph. -/
def step (p : Transfer) (s : Step) (now : Instant) : Except Refusal Transfer :=
  match p.state.next? s with
  | some target => .ok (p.entered s target now)
  | none => .error (.illegalStep p.state s)

/-- Enters the present state once more, not to be claimed before an instant. -/
def retry (p : Transfer) (notBefore now : Instant) : Except Refusal Transfer := do
  let p ← p.step .retry now
  .ok { p with retryAt := some notBefore }

/-- Goes back to the state it was suspended from. -/
def resume (p : Transfer) (now : Instant) : Except Refusal Transfer :=
  match p.suspendedFrom with
  | some prior => p.step (.resume prior) now
  | none => .error (.wrongState p.state .nothingToResume)

/-- Turns to termination because of a failure. -/
def fail (p : Transfer) (detail : String) (now : Instant) : Except Refusal Transfer := do
  let p ← p.step .terminate now
  .ok { p with errorDetail := some detail, pendingCommand := none }

/-- Turns to termination on command. -/
def cancel (p : Transfer) (now : Instant) : Except Refusal Transfer := do
  let p ← p.step .terminate now
  .ok { p with pendingCommand := none }

/-- Records the data plane that took the flow on. -/
def recordDataFlow (p : Transfer) (dataPlaneId handle : String) (now : Instant) : Transfer :=
  { p with dataFlow := some ⟨dataPlaneId, handle, now⟩, completion := none }

/-- Records how the flow ended; the first report counts. -/
def recordCompletion (p : Transfer) (outcome : Outcome) : Transfer :=
  { p with completion := p.completion.or (some outcome) }

/-- The record without its command. -/
def withoutCommand (p : Transfer) : Transfer := { p with pendingCommand := none }

/-- The record with a command. -/
def withCommand (p : Transfer) (c : Command) : Transfer := { p with pendingCommand := some c }

/-- A refusal because of the state. -/
def refuse {α : Type} (p : Transfer) (obstacle : Obstacle) : Except Refusal α :=
  .error (.wrongState p.state obstacle)

/-- Takes a signal: the record it leaves, or nothing if the signal has no effect. -/
def accept (p : Transfer) : Signal → Except Refusal (Option Transfer)
  | .cancel =>
      if p.state.isTerminal || p.state == .terminating || p.pendingCommand == some .cancel then
        .ok none
      else .ok (some (p.withCommand .cancel))
  | .suspend =>
      if !p.state.canSuspend && p.state != .suspended then p.refuse .notSuspendable
      else
        match p.pendingCommand with
        | some .cancel => p.refuse .cancellationPending
        | some .resume =>
            if p.state = .suspended then .ok (some p.withoutCommand)
            else .ok (some (p.withCommand .suspend))
        | some .suspend => .ok none
        | none =>
            if p.state = .suspended then .ok none else .ok (some (p.withCommand .suspend))
  | .resume =>
      match p.pendingCommand with
      | some .cancel => p.refuse .cancellationPending
      | some .suspend => .ok (some p.withoutCommand)
      | some .resume => if p.state = .suspended then .ok none else p.refuse .notSuspended
      | none =>
          if p.state = .suspended then .ok (some (p.withCommand .resume))
          else p.refuse .notSuspended
  | .completion handle outcome =>
      if p.state.isTerminal || p.completion.isSome then .ok none
      else
        match p.dataFlow with
        | some flow =>
            if flow.handle = handle then .ok (some { p with completion := some outcome })
            else .error (.unknownHandle handle)
        | none => .error (.unknownHandle handle)

/-- A command or report that does not wait for the retry instant. -/
def isUrgent (p : Transfer) : Bool :=
  p.pendingCommand == some .cancel || (p.state == .started && p.completion.isSome)

/-- Whether a worker may take the transfer at an instant. -/
def isClaimable (p : Transfer) (now : Instant) : Bool :=
  !p.state.isTerminal
    && !(p.lease.any fun lease => lease.isActive now)
    && !(p.state == .suspended && p.pendingCommand.isNone)
    && (p.isUrgent || p.retryAt.all fun at' => decide (at' ≤ now))

/-- Whether the counters fit the words they are kept in: 32 bits for that of the state, 64 bits for
the version. -/
def fitsWords (p : Transfer) : Bool :=
  decide (p.stateCount < 4294967296) && decide (p.version < 18446744073709551616)

theorem step_eq_ok_iff {p q : Transfer} {s : Step} {now : Instant} :
    p.step s now = .ok q ↔ ∃ t, p.state.next? s = some t ∧ q = p.entered s t now := by
  unfold step
  cases p.state.next? s with
  | none => simp
  | some t => simp [eq_comm]

theorem accept_changes_command_or_completion {p q : Transfer} {signal : Signal}
    (h : p.accept signal = .ok (some q)) :
    q = { p with pendingCommand := q.pendingCommand } ∨
      q = { p with completion := q.completion } := by
  unfold accept refuse withCommand withoutCommand at h
  split at h <;> grind

end Transfer
end Connector
