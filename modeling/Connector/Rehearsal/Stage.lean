import Connector.Rehearsal.Cast
import Connector.Worker.Cycle

/-!
# The stage of a rehearsal

The connector, its cast, and a clock that stands still until everybody waits.  A timer rings at a
whole number of milliseconds; of timers that ring together, the one that was set first goes first.
An attempt runs until it asks somebody outside who takes time; it is then kept with the timer of
the answer and the timer of the longest wait.
-/

namespace Connector.Rehearsal

/-- Why a rehearsal breaks off. -/
inductive Crash where
  /-- An instant beyond the end of the clock. -/
  | clock
  /-- A count beyond its word. -/
  | word
  /-- A period of no length. -/
  | noPeriod
  deriving DecidableEq, Repr

/-- When something goes on; timers that are due together go by the turn they were set in. -/
structure Timer where
  due : Instant
  turn : Nat
  deriving DecidableEq, Repr, Inhabited

/-- Whether a timer goes before another. -/
def Timer.before (a b : Timer) : Bool :=
  decide (a.due < b.due) || (decide (a.due.nanos = b.due.nanos) && decide (a.turn < b.turn))

/-- The connector, its partners and what was noted. -/
structure Stage where
  site : Site
  setup : Setup
  cast : Cast
  /-- What was asked of partners, the newest first. -/
  marks : List Mark
  /-- The number of timers set. -/
  turns : Nat
  /-- Whether the tasks are told to stop. -/
  isCancelled : Bool
  deriving Inhabited

/-- The stage with another site. -/
def Stage.onSite (s : Stage) (f : Site → Site) : Stage := { s with site := f s.site }

/-- What happens on a stage. -/
abbrev StageM := StateT Stage (Except Crash)

/-- An attempt under way, or what became of it. -/
inductive Slot where
  | waiting (claimed : Transfer) (wake : Option Timer) (limit : Timer)
      (answered : Site → Instant → Attempt) (timedOut : Instant → Attempt)
  | settled (persisted : Bool)

namespace StageM

/-- What is done at the site. -/
def atSite {α : Type} (m : SiteM α) : StageM α := fun s =>
  let r := m s.site
  .ok (r.1, { s with site := r.2 })

/-- Breaks off. -/
def breakOff {α : Type} : Overrun → StageM α
  | .clock => throw .clock
  | .word => throw .word

/-- What is done at the site, unless it counts beyond a word. -/
def counted {α : Type} (m : SiteM α) : StageM α := do
  let a ← atSite m
  if (← get).site.transfers.fitsWords then return a else throw .word

/-- The present instant. -/
def now : StageM Instant := return (← get).site.now

/-- Notes what a partner was asked. -/
def mark (m : Mark) : StageM Unit := modify fun s => { s with marks := m :: s.marks }

/-- Sets a timer for an instant, at the next whole millisecond from now. -/
def setTimer (deadline : Instant) : StageM Timer := do
  let s ← get
  let wait := (deadline.since s.site.now).toNat
  let due := s.site.now.plusMillis ((wait + 999999) / 1000000 : Nat)
  set { s with turns := s.turns + 1 }
  return ⟨due, s.turns⟩

/-- Sets a timer for the end of a span. -/
def setTimerAfter (d : Span) : StageM Timer := do
  setTimer ⟨(← now).nanos + d.nanos⟩

/-- Moves the clock. -/
def moveTo (t : Instant) : StageM Unit :=
  modify fun s => { s with site := { s.site with now := t } }

/-- Moves the clock by some milliseconds. -/
def advance (ms : Int) : StageM Unit := do moveTo ((← now).plusMillis ms)

/-- Answers an inquiry. -/
def inquire : (q : Inquiry) → StageM q.Answer
  | .judge document context => do
      let decision := (← get).cast.judge.decide document context
      mark (.evaluate context decision)
      return decision
  | .select need => atSite (SiteM.select need)
  | .find id => atSite (SiteM.findRegistered id)

/-- Delivers a signal straight to the store. -/
def deliverBehind (id : String) (x : Transfer.Signal) : StageM Unit := do
  let s ← get
  match s.site.transfers.notify id x with
  | .error why => breakOff why
  | .ok (.error e) => mark (.signalled (.error e))
  | .ok (.ok (p, t)) =>
      set { s with site := { s.site with transfers := t } }
      mark (.signalled (.ok p.version))

/-- Somebody claims transfers as of some milliseconds later. -/
def steal (ms : Int) : StageM Unit := do
  let s ← get
  let wanted : Claim := ⟨"thief", s.site.now.plusMillis ms, 60000000000⟩
  match s.site.transfers.lend Transfer.State.actionable 10 wanted with
  | (.error why, _) => breakOff why
  | (.ok taken, t) =>
      set { s with site := { s.site with transfers := t } }
      mark (.stolen taken.length)

/-- What a reply does before it is given. -/
def sideEffects (c : Call) (r : Reply) : StageM Unit := do
  match r.signal with
  | none => pure ()
  | some x => deliverBehind (r.target.getD (transferOf c)) x
  match r.stealMs with
  | none => pure ()
  | some ms => steal ms

/-- Asks a partner; its reply has had its side effects then. -/
def place (c : Call) : StageM Reply := do
  match markOf c with
  | some m => mark m
  | none => pure ()
  let s ← get
  let (r, cast) := s.cast.nextReply c
  set { s with cast := cast }
  sideEffects c r
  return r

/-- Whether a reply is given at once. -/
def isImmediate (r : Reply) : Bool := r.verdict != .hang && r.delayMs.getD 0 == 0

/-- The timer of a reply; none if there is never one. -/
def replyTimer (r : Reply) : StageM (Option Timer) := do
  if r.verdict == .hang then return none
  else return some (← setTimerAfter (.millis (r.delayMs.getD 0)))

/-- Settles the result of an attempt, unless a count is beyond its word. -/
def settle (claimed : Transfer) (holder : String) (result : Except Transfer.Refusal Transfer) :
    StageM Slot := do
  match Transfer.counted result with
  | .error why => breakOff why
  | .ok result => return .settled (← counted (SiteM.settle claimed holder result))

/-- Runs an attempt until it ends or waits. -/
def perform (claimed : Transfer) (holder : String) : Attempt → StageM Slot
  | .done (.ok p) => settle claimed holder (.ok p)
  | .done (.error (.refused e)) => settle claimed holder (.error e)
  | .done (.error .clock) => throw .clock
  | .note n rest => do
      atSite (SiteM.note n.level n.message n.fields)
      perform claimed holder rest
  | .ask q next => do
      let answer ← inquire q
      perform claimed holder (next answer)
  | .call c next => do
      let r ← place c
      let s ← get
      if isImmediate r then
        perform claimed holder (next (some (r.answer s.site.policies c)) s.site.now)
      else
        let wake ← replyTimer r
        let limit ← setTimerAfter s.setup.orchestration.dispatchTimeout
        return .waiting claimed wake limit
          (fun site now => next (some (r.answer site.policies c)) now) (fun now => next none now)

/-- Goes on with an attempt if its answer or the end of its wait has come. -/
def goOn (holder : String) (slot : Slot) : StageM Slot := do
  match slot with
  | .settled b => return .settled b
  | .waiting claimed wake limit answered timedOut =>
      let s ← get
      let t := s.site.now
      if wake.any fun w => decide (w.due ≤ t) then perform claimed holder (answered s.site t)
      else if limit.due ≤ t then perform claimed holder (timedOut t)
      else return slot

/-- Goes on with all attempts of a batch, in their order. -/
def goOnAll (holder : String) : List Slot → StageM (List Slot)
  | [] => return []
  | slot :: rest => do
      let slot ← goOn holder slot
      let rest ← goOnAll holder rest
      return slot :: rest

/-- Begins an attempt on every transfer of a batch, in their order. -/
def beginAll (holder : String) : List Transfer → StageM (List Slot)
  | [] => return []
  | p :: rest => do
      let s ← get
      let slot ← perform p holder (Attempt.on s.setup p s.site.now)
      let rest ← beginAll holder rest
      return slot :: rest

/-- Claims a batch and begins an attempt on each transfer in it. -/
def openBatch (holder : String) : StageM (Except StoreFault (List Slot)) := do
  match ← counted (SiteM.openCycle (← get).setup holder) with
  | .error why => breakOff why
  | .ok (.error e) => return .error e
  | .ok (.ok batch) => return .ok (← beginAll holder batch)

end StageM

/-- The timers of a slot. -/
def Slot.timers : Slot → List Timer
  | .settled _ => []
  | .waiting _ wake limit _ _ => wake.toList ++ [limit]

/-- The earliest of some timers. -/
def earliest : List Timer → Option Timer
  | [] => none
  | t :: rest =>
      match earliest rest with
      | none => some t
      | some u => if u.before t then some u else some t

/-- The earliest timer of some slots. -/
def nextTimer (slots : List Slot) : Option Timer := earliest (slots.flatMap Slot.timers)

/-- How many attempts of a batch were written back. -/
def persistedCount (slots : List Slot) : Nat :=
  (slots.filter fun s => match s with | .settled b => b | _ => false).length

namespace StageM

/-- Waits for all attempts of a batch; the number bounds how often somebody wakes. -/
def finish (holder : String) : Nat → List Slot → StageM (List Slot)
  | 0, slots => return slots
  | fuel + 1, slots => do
      match nextTimer slots with
      | none => return slots
      | some t =>
          if (← now) < t.due then moveTo t.due
          finish holder fuel (← goOnAll holder slots)

/-- One cycle of a worker: how many transfers it claimed, and how many it wrote back. -/
def runOnce (holder : String) : StageM (Except StoreFault (Nat × Nat)) := do
  match ← openBatch holder with
  | .error e => return .error e
  | .ok slots =>
      let slots ← finish holder (2 * slots.length + 1) slots
      return .ok (slots.length, persistedCount slots)

/-- Cycles of a worker until nothing is claimed, with a wait after each; what each gave. -/
def drive (holder : String) (everyMs : Int) : Nat → StageM (Except StoreFault (List (Nat × Nat)))
  | 0 => return .ok []
  | n + 1 => do
      match ← runOnce holder with
      | .error e => return .error e
      | .ok cycle =>
          if cycle.1 = 0 then return .ok [cycle]
          else
            advance everyMs
            match ← drive holder everyMs n with
            | .error e => return .error e
            | .ok rest => return .ok (cycle :: rest)

end StageM
end Connector.Rehearsal
