import Connector.Proofs.Site.Sparing
import Connector.Rehearsal.Tasks

/-!
# A worker on stage leaves the registry alone

An attempt asks partners, looks at the registry, and is written back; what a partner's reply does
on the way concerns transfers.  So whatever a worker goes on with, and whether it comes to an end
or waits, a property of the registry lasts (`keeps_wake_worker`).
-/

namespace Connector.Rehearsal.StageM

variable {α β : Type} {P : Site → Prop}

/-- What is done from a stage keeps a property of its site, unless it breaks off. -/
def KeepsFrom (m : StageM α) (P : Site → Prop) (s : Stage) : Prop :=
  ∀ a t, P s.site → m s = .ok (a, t) → P t.site

/-- What is done keeps a property of the site, unless it breaks off. -/
def Keeps (m : StageM α) (P : Site → Prop) : Prop := ∀ s, KeepsFrom m P s

theorem keeps_pure (a : α) : Keeps (pure a) P := by
  intro s _ _ hs h
  cases h
  exact hs

theorem keeps_throw (why : Crash) : Keeps (throw why : StageM α) P := by
  intro s _ _ _ h
  cases h

/-- What comes to an end did so part by part. -/
theorem exists_of_bind_ok {m : StageM α} {f : α → StageM β} {s u : Stage} {b : β}
    (h : (m >>= f) s = .ok (b, u)) : ∃ a t, m s = .ok (a, t) ∧ f a t = .ok (b, u) := by
  have h' : (m s >>= fun r => f r.1 r.2) = .ok (b, u) := h
  cases hfirst : m s with
  | error why =>
      rw [hfirst] at h'
      cases h'
  | ok r =>
      rw [hfirst] at h'
      exact ⟨r.1, r.2, rfl, h'⟩

theorem keeps_bind {m : StageM α} {f : α → StageM β} (hm : Keeps m P) (hf : ∀ a, Keeps (f a) P) :
    Keeps (m >>= f) P := by
  intro s b u hs h
  obtain ⟨a, t, hfirst, hrest⟩ := exists_of_bind_ok h
  exact hf a t b u (hm s a t hs hfirst) hrest

theorem keeps_atSite {m : SiteM α} (h : SiteM.Keeps m P) : Keeps (atSite m) P := by
  intro s _ _ hs heq
  cases heq
  exact h _ hs

theorem keeps_breakOff (why : Overrun) : Keeps (breakOff why : StageM α) P := by
  cases why <;> exact keeps_throw _

/-- What does not touch the site. -/
theorem keeps_of_site {m : StageM α} (h : ∀ s, ∃ a t, m s = .ok (a, t) ∧ t.site = s.site) :
    Keeps m P := by
  intro s a t hs heq
  obtain ⟨a', t', heq', hsite⟩ := h s
  cases heq.symm.trans heq'
  rw [hsite]
  exact hs

theorem keepsFrom_get {f : Stage → StageM β} {s : Stage} (h : KeepsFrom (f s) P s) :
    KeepsFrom (get >>= f) P s :=
  h

theorem keepsFrom_now {f : Instant → StageM β} {s : Stage} (h : KeepsFrom (f s.site.now) P s) :
    KeepsFrom (StageM.now >>= f) P s :=
  h

theorem keeps_get : Keeps get P := keeps_of_site fun s => ⟨s, s, rfl, rfl⟩

theorem keeps_counted {m : SiteM α} (h : SiteM.Keeps m P) : Keeps (counted m) P := by
  refine keeps_bind (keeps_atSite h) fun a => keeps_bind keeps_get fun s => ?_
  split
  · exact keeps_pure a
  · exact keeps_throw .word

theorem keeps_now : Keeps StageM.now P := keeps_of_site fun s => ⟨s.site.now, s, rfl, rfl⟩

theorem keeps_mark (m : Mark) : Keeps (mark m) P := keeps_of_site fun _ => ⟨(), _, rfl, rfl⟩

theorem keeps_setTimer (deadline : Instant) : Keeps (setTimer deadline) P :=
  keeps_of_site fun _ => ⟨_, _, rfl, rfl⟩

theorem keeps_setTimerAfter (d : Span) : Keeps (setTimerAfter d) P :=
  keeps_bind keeps_now fun _ => keeps_setTimer _

theorem keeps_replyTimer (r : Reply) : Keeps (replyTimer r) P := by
  unfold replyTimer
  split
  · exact keeps_pure none
  · exact keeps_bind (keeps_setTimerAfter _) fun _ => keeps_pure _

section Sparing
variable (hP : Site.IsOfRegistry P)
include hP

theorem keeps_note (level : Level) (message : String) (fields : List (String × String)) :
    Keeps (atSite (SiteM.note level message fields)) P :=
  keeps_atSite (SiteM.keeps_note hP level message fields)

/-! ## An attempt -/

theorem keeps_inquire (q : Inquiry) : Keeps (inquire q) P := by
  cases q with
  | judge document context =>
      exact keeps_bind keeps_get fun _ => keeps_bind (keeps_mark _) fun _ => keeps_pure _
  | select need => exact keeps_atSite (SiteM.keeps_select hP need)
  | find id => exact keeps_atSite (SiteM.keeps_findRegistered hP id)

/-- The stage becomes another one with the same registry. -/
theorem keepsFrom_set {f : PUnit → StageM β} {s t : Stage} (h : s.site.SameRegistry t.site)
    (hf : ∀ u, Keeps (f u) P) : KeepsFrom (set t >>= f) P s :=
  fun b u hs heq => hf ⟨⟩ t b u (hP.congr _ _ h hs) heq

theorem keeps_deliverBehind (id : String) (x : Transfer.Signal) : Keeps (deliverBehind id x) P := by
  refine fun s => keepsFrom_get ?_
  dsimp only
  split
  · exact keeps_breakOff _ s
  · exact keeps_mark _ s
  · exact keepsFrom_set hP ⟨rfl, rfl, rfl, rfl⟩ fun _ => keeps_mark _

theorem keeps_steal (ms : Int) : Keeps (steal ms) P := by
  refine fun s => keepsFrom_get ?_
  dsimp only
  split
  · exact keeps_breakOff _ s
  · exact keepsFrom_set hP ⟨rfl, rfl, rfl, rfl⟩ fun _ => keeps_mark _

/-- On its way a reply signals and claims transfers, at most. -/
theorem keeps_sideEffects (c : Call) (r : Reply) : Keeps (sideEffects c r) P := by
  unfold sideEffects
  cases r.signal with
  | none =>
      cases r.stealMs with
      | none => exact keeps_pure _
      | some ms => exact keeps_steal hP ms
  | some x =>
      refine keeps_bind (keeps_deliverBehind hP _ x) fun _ => ?_
      cases r.stealMs with
      | none => exact keeps_pure _
      | some ms => exact keeps_steal hP ms

theorem keeps_place (c : Call) : Keeps (place c) P := by
  have hcast : ∀ cast : Cast, ∀ s : Stage,
      KeepsFrom (set { s with cast := cast } >>= fun _ => sideEffects c (s.cast.nextReply c).1 >>=
        fun _ => pure (s.cast.nextReply c).1) P s := fun cast s =>
    keepsFrom_set hP ⟨rfl, rfl, rfl, rfl⟩ fun _ =>
      keeps_bind (keeps_sideEffects hP c _) fun _ => keeps_pure _
  unfold place
  cases markOf c with
  | none => exact fun s => keepsFrom_get (hcast _ s)
  | some m => exact keeps_bind (keeps_mark m) fun _ s => keepsFrom_get (hcast _ s)

theorem keeps_settle (claimed : Transfer) (holder : String)
    (result : Except Transfer.Refusal Transfer) : Keeps (settle claimed holder result) P := by
  unfold settle
  split
  · exact keeps_breakOff _
  · exact keeps_bind (keeps_counted (SiteM.keeps_settle hP _ _ _)) fun _ => keeps_pure _

/-- An attempt keeps a property of the registry until it ends or waits. -/
theorem keeps_perform (claimed : Transfer) (holder : String) (a : Attempt) :
    Keeps (perform claimed holder a) P := by
  induction a with
  | done result =>
      rcases result with (_ | _) | _
      · exact keeps_settle hP claimed holder _
      · exact keeps_throw .clock
      · exact keeps_settle hP claimed holder _
  | note n rest ih => exact keeps_bind (keeps_note hP _ _ _) fun _ => ih
  | ask q next ih => exact keeps_bind (keeps_inquire hP q) fun answer => ih answer
  | call c next ih =>
      refine keeps_bind (keeps_place hP c) fun r s => keepsFrom_get ?_
      cases isImmediate r with
      | true => exact ih _ _ s
      | false =>
          exact keeps_bind (keeps_replyTimer r)
            (fun _ => keeps_bind (keeps_setTimerAfter _) fun _ => keeps_pure _) s

theorem keeps_goOn (holder : String) (slot : Slot) : Keeps (goOn holder slot) P := by
  cases slot with
  | settled b => exact keeps_pure _
  | waiting claimed wake limit answered timedOut =>
      refine fun s => keepsFrom_get ?_
      dsimp only
      split
      · exact keeps_perform hP _ _ _ s
      · split
        · exact keeps_perform hP _ _ _ s
        · exact keeps_pure _ s

theorem keeps_goOnAll (holder : String) (slots : List Slot) :
    Keeps (goOnAll holder slots) P := by
  induction slots with
  | nil => exact keeps_pure []
  | cons slot rest ih =>
      exact keeps_bind (keeps_goOn hP holder slot) fun _ => keeps_bind ih fun _ => keeps_pure _

/-! ## A worker -/

theorem keeps_beginAll (holder : String) (batch : List Transfer) :
    Keeps (beginAll holder batch) P := by
  induction batch with
  | nil => exact keeps_pure []
  | cons p rest ih =>
      refine keeps_bind keeps_get fun s => ?_
      exact keeps_bind (keeps_perform hP p holder _) fun _ => keeps_bind ih fun _ => keeps_pure _

theorem keeps_openBatch (holder : String) : Keeps (openBatch holder) P := by
  refine keeps_bind keeps_get fun s => ?_
  refine keeps_bind (keeps_counted (SiteM.keeps_openCycle hP s.setup holder)) fun answer => ?_
  rcases answer with _ | (_ | batch)
  · exact keeps_breakOff _
  · exact keeps_pure _
  · exact keeps_bind (keeps_beginAll hP holder batch) fun _ => keeps_pure _

theorem keeps_workerStopped (holder : String) : Keeps (workerStopped holder) P :=
  keeps_bind (keeps_note hP _ _ _) fun _ => keeps_pure _

theorem keeps_afterBatch (holder : String) (fuel : Nat) (slots : List Slot) :
    Keeps (afterBatch holder fuel slots) P := by
  induction fuel generalizing slots with
  | zero => exact keeps_pure _
  | succ fuel ih =>
      unfold afterBatch
      split
      · exact keeps_pure _
      · refine keeps_bind keeps_get fun s => ?_
        split
        · exact keeps_workerStopped hP holder
        · split
          · exact keeps_bind (keeps_setTimerAfter _) fun _ => keeps_pure _
          · refine keeps_bind (keeps_openBatch hP holder) fun answer => ?_
            cases answer with
            | ok slots => exact ih slots
            | error e =>
                exact keeps_bind (keeps_note hP _ _ _) fun _ =>
                  keeps_bind (keeps_setTimerAfter _) fun _ => keeps_pure _

theorem keeps_nextCycle (holder : String) : Keeps (nextCycle holder) P := by
  refine keeps_bind keeps_get fun s => ?_
  split
  · exact keeps_workerStopped hP holder
  · refine keeps_bind (keeps_openBatch hP holder) fun answer => ?_
    cases answer with
    | ok slots => exact keeps_afterBatch hP holder cycleBound slots
    | error e =>
        exact keeps_bind (keeps_note hP _ _ _) fun _ =>
          keeps_bind (keeps_setTimerAfter _) fun _ => keeps_pure _

/-- A worker that goes on keeps every property of the registry. -/
theorem keeps_wake_worker (holder : String) (phase : Phase) :
    Keeps (wake ⟨.worker holder, phase⟩) P := by
  have hdone : ∀ phase', Keeps (pure ⟨.worker holder, phase'⟩ : StageM Task) P :=
    fun _ => keeps_pure _
  cases phase with
  | fresh t =>
      exact keeps_bind keeps_get fun _ => keeps_bind (keeps_note hP _ _ _) fun _ =>
        keeps_bind (keeps_nextCycle hP holder) hdone
  | working slots =>
      exact keeps_bind (keeps_goOnAll hP holder slots) fun _ =>
        keeps_bind (keeps_afterBatch hP holder cycleBound _) hdone
  | resting t => exact keeps_bind (keeps_nextCycle hP holder) hdone
  | ticking | stopped | crashed => exact keeps_bind (keeps_pure _) hdone

end Sparing
end Connector.Rehearsal.StageM
