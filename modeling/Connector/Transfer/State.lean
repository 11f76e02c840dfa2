import Connector.Text.Lowercase

/-!
# The state graph of a transfer

A transfer goes from `initial` over requesting, policy check, start and completion to `completed`.
From every state before its end it can be sent to `terminating`, and from every state before its
end but `suspended` and `terminating` it can be suspended, to come back later to the state it left.

`State.next?` is the whole graph: no state of a transfer changes in another way.  Statements:

* `next?_retry_iff`, `next?_terminate_iff`, `next?_suspend_iff`, `next?_resume_iff` — where the
  four moves that do not belong to one state are allowed;
* `next?_of_isTerminal` — an ended transfer does not move;
* `parse?_name` — the name of a state reads back.
-/

namespace Connector.Transfer

/-- A state of a transfer. -/
inductive State where
  | initial
  | requesting
  | requested
  | starting
  | started
  | completing
  | completed
  | suspended
  | terminating
  | terminated
  deriving DecidableEq, Repr, Inhabited

/-- What moves a transfer from one state to the next. -/
inductive Step where
  /-- The first pass over a new transfer. -/
  | begin
  /-- The opening message reached the other side. -/
  | dispatched
  /-- The usage policy allowed the transfer. -/
  | policyAllowed
  /-- A data plane took the flow on. -/
  | workerStarted
  /-- The data plane reported success. -/
  | workerFinished
  /-- The end was announced to the other side. -/
  | finalized
  /-- The state is entered once more. -/
  | retry
  | suspend
  /-- The transfer goes back to the state it was suspended from. -/
  | resume (prior : State)
  /-- Cancellation, or a failure without remedy. -/
  | terminate
  /-- The termination was announced, or its announcement given up. -/
  | terminated
  deriving DecidableEq, Repr

namespace State

/-- The states in their order. -/
def all : List State :=
  [initial, requesting, requested, starting, started, completing, completed, suspended,
   terminating, terminated]

/-- The states in which a worker has something to do. -/
def actionable : List State :=
  [initial, requesting, requested, starting, started, completing, suspended, terminating]

/-- The name of a state. -/
def name : State → String
  | initial => "INITIAL"
  | requesting => "REQUESTING"
  | requested => "REQUESTED"
  | starting => "STARTING"
  | started => "STARTED"
  | completing => "COMPLETING"
  | completed => "COMPLETED"
  | suspended => "SUSPENDED"
  | terminating => "TERMINATING"
  | terminated => "TERMINATED"

/-- The word for a state in the text of a step. -/
def word : State → String
  | initial => "Initial"
  | requesting => "Requesting"
  | requested => "Requested"
  | starting => "Starting"
  | started => "Started"
  | completing => "Completing"
  | completed => "Completed"
  | suspended => "Suspended"
  | terminating => "Terminating"
  | terminated => "Terminated"

/-- The position of a state in `all`. -/
def index (s : State) : Nat := all.findIdx (· == s)

/-- Whether the transfer has ended. -/
def isTerminal : State → Bool
  | completed | terminated => true
  | _ => false

/-- Whether the transfer can be suspended. -/
def canSuspend (s : State) : Bool :=
  !s.isTerminal && s != suspended && s != terminating

/-- Whether the state can be entered once more: it waits for somebody outside. -/
def isRetryable : State → Bool
  | requesting | requested | starting | started | completing | terminating => true
  | _ => false

/-- The state that a step leads to, if the step is allowed. -/
def next? (s : State) (step : Step) : Option State :=
  match s, step with
  | initial, .begin => some requesting
  | requesting, .dispatched => some requested
  | requested, .policyAllowed => some starting
  | starting, .workerStarted => some started
  | started, .workerFinished => some completing
  | completing, .finalized => some completed
  | terminating, .terminated => some terminated
  | suspended, .resume prior => if prior.canSuspend then some prior else none
  | s, .retry => if s.isRetryable then some s else none
  | s, .suspend => if s.canSuspend then some suspended else none
  | s, .terminate => if !s.isTerminal && s != terminating then some terminating else none
  | _, _ => none

/-- The state of a name, in letters of any case. -/
def parse? (text : String) : Option State :=
  all.find? fun s => Text.eqIgnoringAsciiCase s.name text

/-- Why a text is not the name of a state. -/
def unknown (text : String) : String := "Unknown transfer state: " ++ text

-- The equations of the graph are made here once, for all the lemmas below.
attribute [local simp] next?

theorem next?_retry_iff {s t : State} :
    s.next? .retry = some t ↔ s.isRetryable = true ∧ t = s := by
  cases s <;> cases t <;> simp [isRetryable]

theorem next?_terminate_iff {s t : State} :
    s.next? .terminate = some t ↔
      s.isTerminal = false ∧ s ≠ terminating ∧ t = terminating := by
  cases s <;> cases t <;> simp [isTerminal]

theorem next?_suspend_iff {s t : State} :
    s.next? .suspend = some t ↔ s.canSuspend = true ∧ t = suspended := by
  cases s <;> cases t <;> simp [canSuspend, isTerminal]

theorem next?_resume_iff {s prior t : State} :
    s.next? (.resume prior) = some t ↔ s = suspended ∧ prior.canSuspend = true ∧ t = prior := by
  cases s <;> simp only [next?] <;> grind

theorem next?_of_isTerminal {s : State} (h : s.isTerminal = true) (step : Step) :
    s.next? step = none := by
  cases s <;> simp_all [isTerminal] <;> cases step <;> simp [isRetryable, canSuspend, isTerminal]

theorem parse?_name (s : State) : parse? s.name = some s := by
  cases s <;> decide +kernel

end State

/-- The text of a step. -/
def Step.word : Step → String
  | begin => "Begin"
  | dispatched => "Dispatched"
  | policyAllowed => "PolicyAllowed"
  | workerStarted => "WorkerStarted"
  | workerFinished => "WorkerFinished"
  | finalized => "Finalized"
  | retry => "Retry"
  | suspend => "Suspend"
  | resume prior => "Resume(" ++ prior.word ++ ")"
  | terminate => "Terminate"
  | terminated => "Terminated"

/-- The steps that carry nothing, by their names. -/
def Step.cases : List (String × Step) :=
  [("begin", .begin), ("dispatched", .dispatched), ("policy_allowed", .policyAllowed),
   ("worker_started", .workerStarted), ("worker_finished", .workerFinished),
   ("finalized", .finalized), ("retry", .retry), ("suspend", .suspend), ("terminate", .terminate),
   ("terminated", .terminated)]

end Connector.Transfer
