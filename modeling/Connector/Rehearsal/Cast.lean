import Connector.Worker.Attempt

/-!
# The cast of a rehearsal

A rehearsal plays a connector through with partners that follow a script: each has replies lined
up and one for when the line is empty.  On its way a reply may deliver a signal, let somebody else
claim transfers, and take its time.
-/

namespace Connector.Rehearsal

/-- What a scripted partner says; it takes what it does not know for consent. -/
inductive Verdict where
  | agree
  | transient
  | reject
  /-- There is never an answer. -/
  | hang
  | unavailable
  | succeeded
  | failed
  deriving DecidableEq, Repr, Inhabited

/-- The verdict of a word. -/
def Verdict.ofWord : String → Verdict
  | "transient" => .transient
  | "reject" => .reject
  | "hang" => .hang
  | "unavailable" => .unavailable
  | "succeeded" => .succeeded
  | "failed" => .failed
  | _ => .agree

/-- A reply of a scripted partner. -/
structure Reply where
  /-- A signal that is delivered first. -/
  signal : Option Transfer.Signal
  /-- The transfer it goes to, if not the one of the call. -/
  target : Option String
  /-- Somebody claims transfers as of so many milliseconds later. -/
  stealMs : Option Int
  /-- How long the answer takes, in milliseconds. -/
  delayMs : Option Nat
  verdict : Verdict
  reason : String
  /-- The handle of a flow, if not made from the id of its transfer. -/
  handle : Option String
  deriving Repr, Inhabited

/-- A reply that consents at once. -/
def Reply.plain : Reply := ⟨none, none, none, none, .agree, "", none⟩

/-- The replies of a partner. -/
structure Script where
  queue : List Reply
  standard : Reply
  deriving Repr, Inhabited

namespace Script

/-- A partner that consents to everything. -/
def plain : Script := ⟨[], .plain⟩

/-- The next reply. -/
def next (s : Script) : Reply × Script :=
  match s.queue with
  | [] => (s.standard, s)
  | r :: rest => (r, { s with queue := rest })

end Script

/-- Who judges policies. -/
inductive Judge where
  | rules
  | allow
  | deny (reasons : List String)
  deriving Repr, Inhabited

/-- The verdict on a transfer. -/
def Judge.decide (j : Judge) (document : Json) (context : PolicyContext) : Decision :=
  match j with
  | rules => Policy.judge document context
  | allow => .allow
  | deny reasons => .deny reasons

/-- The partners of a connector. -/
structure Cast where
  gateway : Script
  start : Script
  poll : Script
  policySource : Script
  judge : Judge
  deriving Inhabited

/-- What was asked of a partner, and what its reply did on the way. -/
inductive Mark where
  | send (m : Message)
  | start (d : DataPlane) (flow : DataFlow)
  | poll (d : DataPlane) (handle : String)
  | evaluate (context : PolicyContext) (decision : Decision)
  /-- The version of the record after a signal, or why it was refused. -/
  | signalled (result : Except StoreFault Nat)
  | stolen (count : Nat)

namespace Cast

/-- The next reply to a call. -/
def nextReply (c : Cast) (call : Call) : Reply × Cast :=
  match call with
  | .policy _ => let (r, s) := c.policySource.next; (r, { c with policySource := s })
  | .send _ => let (r, s) := c.gateway.next; (r, { c with gateway := s })
  | .start _ _ => let (r, s) := c.start.next; (r, { c with start := s })
  | .poll _ _ => let (r, s) := c.poll.next; (r, { c with poll := s })

end Cast

/-- What is noted of a call. -/
def markOf : Call → Option Mark
  | .policy _ => none
  | .send m => some (.send m)
  | .start d flow => some (.start d flow)
  | .poll d handle => some (.poll d handle)

/-- The transfer a call is about, where the call tells. -/
def transferOf : Call → String
  | .send m => m.transferId
  | .start _ flow => flow.transferId
  | .policy _ | .poll _ _ => ""

/-- What a reply says to a call. -/
def Reply.answer (r : Reply) (policies : Table ResolvedPolicy) : (c : Call) → c.Answer
  | .policy id =>
      match r.verdict with
      | .unavailable => .error r.reason
      | _ => .ok (Table.get? id policies)
  | .send _ =>
      match r.verdict with
      | .transient => .error (.transient r.reason)
      | .reject => .error (.rejected r.reason)
      | _ => .ok ()
  | .start _ flow =>
      match r.verdict with
      | .unavailable => .error (.unavailable r.reason)
      | .reject => .error (.rejected r.reason)
      | _ => .ok (r.handle.getD ("flow-" ++ flow.transferId))
  | .poll _ _ =>
      match r.verdict with
      | .unavailable => .error (.unavailable r.reason)
      | .reject => .error (.rejected r.reason)
      | .succeeded => .ok (some .succeeded)
      | .failed => .ok (some (.failed r.reason))
      | _ => .ok none

end Connector.Rehearsal
