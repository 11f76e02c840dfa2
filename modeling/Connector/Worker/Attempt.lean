import Connector.Config.Manifest
import Connector.DataPlane.Flow
import Connector.Policy.Evaluation
import Connector.Site.Registry
import Connector.Transfer.Message

/-!
# One attempt on a transfer

An attempt moves a transfer by one step.  What it needs it inquires of the registry and the judge
of policies, which answer at once, or asks of somebody outside, whose answer takes its time and
may not come within the limit.  An attempt is therefore a program: `ask` is an inquiry, `call` a
question to somebody outside, each with what follows on every answer; `note` takes a note; `done`
is the record to be written back, or the reason why there is none.
-/

namespace Connector

/-- What is answered at once. -/
inductive Inquiry where
  /-- The verdict of a policy. -/
  | judge (document : Json) (context : PolicyContext)
  /-- A data plane for a need. -/
  | select (need : DataPlane.Need)
  /-- The data plane of an id. -/
  | find (id : String)

/-- What an inquiry may be answered. -/
def Inquiry.Answer : Inquiry → Type
  | judge _ _ => Decision
  | select _ => Except RegistryFault DataPlane
  | find _ => Except RegistryFault (Option DataPlane)

/-- What is asked of somebody outside. -/
inductive Call where
  /-- The policy of an agreement. -/
  | policy (agreementId : String)
  /-- That the other side takes a message. -/
  | send (message : Message)
  /-- That a data plane takes a flow on. -/
  | start (dataPlane : DataPlane) (flow : DataFlow)
  /-- Whether a flow has ended. -/
  | poll (dataPlane : DataPlane) (handle : String)

/-- What a call may be answered. -/
def Call.Answer : Call → Type
  | policy _ => Except String (Option ResolvedPolicy)
  | send _ => Except DispatchFault Unit
  | start _ _ => Except DataPlaneFault String
  | poll _ _ => Except DataPlaneFault (Option Outcome)

/-- Why an attempt left no record. -/
inductive AttemptFault where
  | refused (refusal : Transfer.Refusal)
  /-- An instant beyond the end of the clock. -/
  | clock
  deriving DecidableEq, Repr

/-- A program of questions that ends in a record to be written back. -/
inductive Attempt where
  | done (result : Except AttemptFault Transfer)
  | note (n : Note) (rest : Attempt)
  | ask (q : Inquiry) (next : q.Answer → Attempt)
  /-- Nothing is the answer when the wait was over; the instant is the one of the answer. -/
  | call (c : Call) (next : Option c.Answer → Instant → Attempt)

/-- Who works, and how. -/
structure Setup where
  identity : Config.Identity
  orchestration : Config.Orchestration
  deriving Inhabited

namespace Attempt

/-- Why a message that was sent too often ends a transfer. -/
def dispatchExhausted : String := "dispatch exhausted"

/-- Why a transfer that no data plane takes ends. -/
def noCapableWorker : String := "no capable worker"

/-- Why a flow that takes too long ends. -/
def transferTimedOut : String := "transfer timed out"

/-- Why a transfer whose policy cannot be had ends. -/
def policyUnavailable : String := "policy source unavailable"

/-- The end of an attempt by a step. -/
def ended (r : Except Transfer.Refusal Transfer) : Attempt := .done (r.mapError .refused)

/-- A warning about a transfer. -/
def warning (p : Transfer) (message : String) (fields : List (String × String)) : Note :=
  ⟨.warn, message, ("process_id", p.id) :: fields⟩

/-- A remark about a transfer. -/
def remark (p : Transfer) (message : String) : Note := ⟨.debug, message, [("process_id", p.id)]⟩

/-- Enters the state once more, after the wait that the retry policy says. -/
def retryLater (c : Setup) (p : Transfer) (now : Instant) : Attempt :=
  match now.later? (c.orchestration.retry.delay p.stateCount).toDistance with
  | some notBefore => ended (p.retry notBefore now)
  | none => .done (.error .clock)

/-- Enters the state once more, or ends the transfer if this was the last attempt. -/
def retryOrFail (c : Setup) (p : Transfer) (detail : String) (now : Instant) : Attempt :=
  if c.orchestration.retry.isExhausted p.stateCount then
    .note (warning p ("Retries exhausted: " ++ detail)
      [("state", p.state.name), ("attempts", toString (p.stateCount + 1))])
      (ended (p.fail detail now))
  else retryLater c p now

/-- Why a message got no answer in time. -/
def noResponse (c : Setup) : DispatchFault :=
  .transient ("no response within " ++ c.orchestration.dispatchTimeout.brief)

/-- Sends a message of a kind; a wait that was over counts as a fault that may pass. -/
def dispatch (c : Setup) (kind : MessageKind) (p : Transfer)
    (next : Except DispatchFault Unit → Instant → Attempt) : Attempt :=
  .call (.send (.ofTransfer kind p)) fun answer now =>
    next (answer.getD (.error (noResponse c))) now

/-- In `requesting`: opens the exchange. -/
def opening (c : Setup) (p : Transfer) : Attempt :=
  dispatch c (Message.openingKind p.role) p fun
    | .ok (), now => ended (p.step .dispatched now)
    | .error (.transient reason), now =>
        .note (warning p ("Dispatch failed: " ++ reason) [("attempt", toString (p.stateCount + 1))])
          (retryOrFail c p dispatchExhausted now)
    | .error (.rejected reason), now => ended (p.fail ("dispatch rejected: " ++ reason) now)

/-- On whose behalf a transfer is judged. -/
def requestingParty (c : Setup) (p : Transfer) : String :=
  match p.role with
  | .provider => p.request.connectorId
  | .consumer => c.identity.id

/-- What a transfer's policy is judged against. -/
def policyContext (c : Setup) (p : Transfer) (attributes : Table Json) : PolicyContext :=
  ⟨p.request.agreementId, requestingParty c p, "transfer", attributes⟩

/-- The step that a verdict leads to. -/
def judged (p : Transfer) (verdict : Decision) (now : Instant) : Attempt :=
  match verdict with
  | .allow => ended (p.step .policyAllowed now)
  | .deny reasons =>
      let reason := (Decision.deny reasons).reason?.getD ""
      .note ⟨.info, "Transfer denied by policy", [("process_id", p.id), ("reason", reason)]⟩
        (ended (p.fail ("policy denied: " ++ reason) now))

/-- In `requested`: asks whether the policy allows the transfer. -/
def policyCheck (c : Setup) (p : Transfer) : Attempt :=
  .call (.policy p.request.agreementId) fun
    | some (.ok (some resolved)), now =>
        .ask (.judge resolved.document (policyContext c p resolved.attributes)) fun verdict =>
          judged p verdict now
    | some (.ok none), now =>
        ended (p.fail ("policy denied: no policy bound to agreement " ++ p.request.agreementId) now)
    | some (.error e), now =>
        .note (warning p ("Policy source failed: Policy source unavailable: " ++ e) [])
          (retryOrFail c p policyUnavailable now)
    | none, now =>
        .note (warning p "Policy source timed out" []) (retryOrFail c p policyUnavailable now)

/-- What a data plane is handed for a transfer. -/
def flowOf (c : Setup) (p : Transfer) : DataFlow := ⟨p.id, p.request, c.identity.callbackAddress⟩

/-- Hands the flow to a data plane. -/
def startOn (c : Setup) (p : Transfer) (d : DataPlane) : Attempt :=
  .call (.start d (flowOf c p)) fun
    | some (.ok handle), now =>
        .note ⟨.info, "Data flow started",
            [("process_id", p.id), ("instance_id", d.id), ("handle", handle)]⟩
          (ended ((p.recordDataFlow d.id handle now).step .workerStarted now))
    | some (.error (.rejected reason)), now =>
        ended (p.fail ("data plane rejected: " ++ reason) now)
    | some (.error (.unavailable reason)), now =>
        .note (warning p ("Data plane unavailable: " ++ reason) [("instance_id", d.id)])
          (retryOrFail c p noCapableWorker now)
    | none, now =>
        .note (warning p "Data plane start timed out" [("instance_id", d.id)])
          (retryOrFail c p noCapableWorker now)

/-- In `starting`: finds a data plane and hands the flow to it. -/
def starting (c : Setup) (p : Transfer) (now : Instant) : Attempt :=
  .ask (.select (.ofRequest p.request)) fun
    | .ok d => startOn c p d
    | .error (.noneCapable transferType) =>
        .note (warning p "No capable data plane" [("transfer_type", transferType.text)])
          (retryOrFail c p noCapableWorker now)
    | .error e =>
        .note (warning p ("Data plane selection failed: " ++ e.message) [])
          (retryOrFail c p noCapableWorker now)

/-- The step that the end of a flow leads to. -/
def flowEnded (p : Transfer) (outcome : Outcome) (now : Instant) : Attempt :=
  match outcome with
  | .succeeded => ended (p.step .workerFinished now)
  | .failed detail => ended (p.fail ("transfer failed: " ++ detail) now)

/-- Asks a data plane about a flow; without news it is asked again at an instant. -/
def pollOn (p : Transfer) (d : DataPlane) (handle : String) (nextPoll : Instant) : Attempt :=
  .call (.poll d handle) fun
    | some (.ok (some outcome)), now => flowEnded (p.recordCompletion outcome) outcome now
    | some (.ok none), now => ended (p.retry nextPoll now)
    | some (.error (.rejected reason)), now =>
        .note (warning p ("Data plane rejected status poll: " ++ reason) [("handle", handle)])
          (ended (p.fail ("data plane rejected: " ++ reason) now))
    | some (.error (.unavailable reason)), now =>
        .note (remark p ("Status poll failed: " ++ reason)) (ended (p.retry nextPoll now))
    | none, now => .note (remark p "Status poll timed out") (ended (p.retry nextPoll now))

/-- Asks the data plane of a flow, if it is still there. -/
def pollFlow (p : Transfer) (flow : Assignment) (nextPoll now : Instant) : Attempt :=
  .ask (.find flow.dataPlaneId) fun
    | .ok (some d) => pollOn p d flow.handle nextPoll
    | .ok none => ended (p.retry nextPoll now)
    | .error e =>
        .note (remark p ("Data plane lookup failed: " ++ e.message)) (ended (p.retry nextPoll now))

/-- Whether a flow takes too long. -/
def isOverdue (c : Setup) (flow : Assignment) (now : Instant) : Bool :=
  decide (c.orchestration.transferTimeout.toDistance ≤ now.since flow.startedAt)

/-- In `started`: takes the report on the flow, or asks for one. -/
def tracking (c : Setup) (p : Transfer) (now : Instant) : Attempt :=
  match p.completion with
  | some outcome => flowEnded p outcome now
  | none =>
      match p.dataFlow with
      | none => ended (p.fail "no data flow recorded" now)
      | some flow =>
          if isOverdue c flow now then
            .note (warning p "Data flow exceeded transfer timeout" [("handle", flow.handle)])
              (ended (p.fail transferTimedOut now))
          else
            match now.later? c.orchestration.statusPollInterval.toDistance with
            | some nextPoll => pollFlow p flow nextPoll now
            | none => .done (.error .clock)

/-- In `completing`: announces the end. -/
def completing (c : Setup) (p : Transfer) : Attempt :=
  dispatch c .completion p fun
    | .ok (), now => ended (p.step .finalized now)
    | .error (.transient reason), now =>
        .note (warning p ("Completion dispatch failed: " ++ reason) [])
          (retryOrFail c p dispatchExhausted now)
    | .error (.rejected reason), now => ended (p.fail ("dispatch rejected: " ++ reason) now)

/-- Ends a transfer whose termination could not be announced. -/
def unannounced (p : Transfer) (e : DispatchFault) (now : Instant) : Attempt :=
  .note (warning p ("Counterparty not notified of termination: " ++ e.message) [])
    (ended (p.step .terminated now))

/-- In `terminating`: announces the termination, as far as that is possible. -/
def terminating (c : Setup) (p : Transfer) : Attempt :=
  dispatch c .termination p fun
    | .ok (), now => ended (p.step .terminated now)
    | .error (.transient reason), now =>
        if c.orchestration.retry.isExhausted p.stateCount then
          unannounced p (.transient reason) now
        else
          .note (remark p ("Termination dispatch failed: " ++ reason)) (retryLater c p now)
    | .error (.rejected reason), now => unannounced p (.rejected reason) now

/-- Follows a command. -/
def command (p : Transfer) (c : Transfer.Command) (now : Instant) : Attempt :=
  .note ⟨.info, "Applying pending command",
      [("process_id", p.id), ("state", p.state.name), ("command", c.word)]⟩ <|
    match c with
    | .cancel => ended (p.cancel now)
    | .suspend => if p.state.canSuspend then ended (p.step .suspend now) else .done (.ok p)
    | .resume => if p.state = .suspended then ended (p.resume now) else .done (.ok p)

/-- What the state of a transfer calls for. -/
def ofState (c : Setup) (p : Transfer) (now : Instant) : Attempt :=
  match p.state with
  | .initial => ended (p.step .begin now)
  | .requesting => opening c p
  | .requested => policyCheck c p
  | .starting => starting c p now
  | .started => tracking c p now
  | .completing => completing c p
  | .terminating => terminating c p
  | .suspended | .completed | .terminated => .done (.ok p)

/-- The attempt on a claimed transfer: a command goes before what the state calls for. -/
def on (c : Setup) (p : Transfer) (now : Instant) : Attempt :=
  match p.pendingCommand with
  | some x => command p.withoutCommand x now
  | none => ofState c p now

end Attempt
end Connector
