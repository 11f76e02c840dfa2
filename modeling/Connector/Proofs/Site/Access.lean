import Connector.Site.Service
import Connector.Worker.Cycle

/-!
# What is done at a site, in terms of the records

Around every access to the records a connector takes notes and publishes events.  None of that
touches the records, so that each of the things done at a site comes down to one access to the
store, as long as no access is arranged to fail.  Statements:

* `openTransfer_spec`, `deliver_spec`, `openCycle_cases`, `openCycle_spec`, `writeBack_spec`,
  `conclude_none_spec` — the access that each of them comes down to, and what is answered.
-/

namespace Connector

/-- The second site has the records, the clock and the arranged failures of the first. -/
structure Site.Agrees (s t : Site) : Prop where
  transfers_eq : t.transfers = s.transfers
  now_eq : t.now = s.now
  failing_eq : t.failing = s.failing

namespace Site.Agrees

theorem refl (s : Site) : s.Agrees s := ⟨rfl, rfl, rfl⟩

theorem trans {s t u : Site} (h : s.Agrees t) (h' : t.Agrees u) : s.Agrees u :=
  ⟨h'.transfers_eq.trans h.transfers_eq, h'.now_eq.trans h.now_eq,
    h'.failing_eq.trans h.failing_eq⟩

end Site.Agrees

namespace SiteM

/-! ## Notes and events -/

theorem agrees_note (level : Level) (message : String) (fields : List (String × String))
    (s : Site) : s.Agrees (note level message fields s).2 :=
  ⟨rfl, rfl, rfl⟩

theorem agrees_bind {α β : Type} {m : SiteM α} {f : α → SiteM β}
    (hm : ∀ s : Site, s.Agrees (m s).2) (hf : ∀ a (s : Site), s.Agrees (f a s).2) (s : Site) :
    s.Agrees ((m >>= f) s).2 :=
  (hm s).trans (hf _ _)

theorem agrees_publish (e : Event) (s : Site) : s.Agrees (publish e s).2 := by
  have heq : publish e s =
      (if s.bus.isHeard then set { s with bus := s.bus.publish e }
        else note .debug "No subscribers listening to event" [] : SiteM Unit) s := rfl
  rw [heq]
  split
  · exact ⟨rfl, rfl, rfl⟩
  · exact agrees_note _ _ _ s

/-- What is told of a record does not touch it. -/
theorem agrees_tell (prior : Transfer.State) (p : Transfer) (s : Site) :
    s.Agrees (tell prior p s).2 := by
  unfold tell
  split
  all_goals
    refine agrees_bind (agrees_note _ _ _) (fun _ => agrees_bind (agrees_publish _) ?_) s
    intro _ s
    cases followUp prior p with
    | some e => exact agrees_publish _ s
    | none => exact .refl s

/-! ## Accesses -/

theorem bind_eq {α β : Type} {m : SiteM α} {f : α → SiteM β} {s t : Site} {a : α}
    (h : m s = (a, t)) : (m >>= f) s = f a t := by
  change f (m s).1 (m s).2 = f a t
  rw [h]

section Accesses
variable {s : Site} (calm : s.failing = [])
include calm

/-- An access that is not arranged to fail is made. -/
theorem access_eq {α : Type} (a : Access) (run : SiteM (Except StoreFault α)) :
    access a run s = run s := by
  simp only [access, failure?, bind, StateT.bind, calm, Site.takeFailure]

theorem access_transfers_of_ok {α : Type} (a : Access)
    {f : Transfers → Except StoreFault (α × Transfers)} {x : α} {t : Transfers}
    (h : f s.transfers = .ok (x, t)) :
    access a (transfers f) s = (.ok x, { s with transfers := t }) := by
  rw [access_eq calm, transfers, h]

theorem access_transfers_of_error {α : Type} (a : Access)
    {f : Transfers → Except StoreFault (α × Transfers)} {e : StoreFault}
    (h : f s.transfers = .error e) : access a (transfers f) s = (.error e, s) := by
  rw [access_eq calm, transfers, h]

/-- Starting a transfer adds a new record, unless its id is taken. -/
theorem openTransfer_spec (id : String) (role : Transfer.Role) (request : DataRequest) :
    (∃ t, s.transfers.create (.create id role request s.now) = .ok t ∧
      { s with transfers := t }.Agrees (openTransfer id role request s).2) ∨
    ∃ e, s.transfers.create (.create id role request s.now) = .error e ∧
      s.Agrees (openTransfer id role request s).2 := by
  let p := Transfer.create id role request s.now
  cases h : s.transfers.create p with
  | ok t =>
      refine Or.inl ⟨t, rfl, ?_⟩
      have hstore : storeTransfer p s = (.ok (), { s with transfers := t }) :=
        access_transfers_of_ok calm .create (by rw [h]; rfl)
      have heq : openTransfer id role request s = _ := (bind_eq rfl).trans (bind_eq hstore)
      rw [heq]
      exact agrees_bind (agrees_note _ _ _)
        (fun _ => agrees_bind (agrees_publish _) fun _ => .refl) _
  | error e =>
      have hstore : storeTransfer p s = (.error e, s) :=
        access_transfers_of_error calm .create (by rw [h]; rfl)
      have heq : openTransfer id role request s = _ := (bind_eq rfl).trans (bind_eq hstore)
      rw [heq]
      exact Or.inr ⟨e, rfl, .refl s⟩

/-- A signal from outside is a signal to the store. -/
theorem deliver_spec (id : String) (x : Transfer.Signal) :
    (∃ p t, s.transfers.signal id x = .ok (p, t) ∧ (deliver id x s).1 = .ok () ∧
      { s with transfers := t }.Agrees (deliver id x s).2) ∨
    ∃ e, s.transfers.signal id x = .error e ∧ (deliver id x s).1 = .error (.ofStore e) ∧
      s.Agrees (deliver id x s).2 := by
  cases h : s.transfers.signal id x with
  | ok r =>
      refine Or.inl ⟨r.1, r.2, rfl, ?_⟩
      have hstore : signal id x s = (.ok r.1, { s with transfers := r.2 }) :=
        access_transfers_of_ok calm .signal h
      have heq : deliver id x s = _ := bind_eq hstore
      rw [heq]
      exact ⟨rfl, agrees_note _ _ _ _⟩
  | error e =>
      have hstore : signal id x s = (.error e, s) := access_transfers_of_error calm .signal h
      have heq : deliver id x s = _ := bind_eq hstore
      rw [heq]
      exact Or.inr ⟨e, rfl, rfl, .refl s⟩

/-- What is noted of a batch. -/
def openingNotes (holder : String) (batch : List Transfer) : List Note :=
  if batch.isEmpty then []
  else [⟨.debug, "Claimed transfer processes",
    [("worker", holder), ("claimed", toString batch.length)]⟩]

/-- A claim cycle opens unless the clock does not cover the end of the lease on a record. -/
theorem openCycle_cases (c : Setup) (holder : String) :
    let wanted := claimOf c holder s.now
    let r := s.transfers.claim Transfer.State.actionable c.orchestration.batchSize wanted
    (r.1 ≠ [] ∧ wanted.expiresAt.inRange = false ∧ openCycle c holder s = (.error .clock, s)) ∨
      ((r.1 = [] ∨ wanted.expiresAt.inRange = true) ∧
        openCycle c holder s = (.ok (.ok r.1),
          { s with transfers := r.2, notes := openingNotes holder r.1 ++ s.notes })) := by
  intro wanted r
  have hopen : ∀ answer t, s.transfers.claimOnClock Transfer.State.actionable
      c.orchestration.batchSize wanted = (answer, t) →
      claim c.orchestration.batchSize wanted s = (.ok answer, { s with transfers := t }) :=
    fun answer t h => access_transfers_of_ok calm .claim (by rw [h])
  by_cases hlate : r.1 ≠ [] ∧ wanted.expiresAt.inRange = false
  · have hstore := hopen _ _ (Transfers.claimOnClock_of_overdue hlate.1 hlate.2)
    exact Or.inl ⟨hlate.1, hlate.2, (bind_eq rfl).trans (bind_eq hstore)⟩
  · have hfits : r.1 = [] ∨ wanted.expiresAt.inRange = true := by
      by_cases hempty : r.1 = []
      · exact Or.inl hempty
      · exact Or.inr (Bool.not_eq_false _ ▸ fun hrange => hlate ⟨hempty, hrange⟩)
    have hstore := hopen _ _ (Transfers.claimOnClock_of_fits hfits)
    refine Or.inr ⟨hfits, ?_⟩
    have heq : openCycle c holder s = _ := (bind_eq rfl).trans (bind_eq hstore)
    rw [heq, openingNotes]
    dsimp only
    split
    · rename_i hempty
      rw [List.isEmpty_iff.1 hempty]
      rfl
    · rfl

/-- A claim cycle that opens claims a batch.  Without a batch nothing was claimed, be it that
there was none to claim, be it that the lease would end beyond the clock. -/
theorem openCycle_spec (c : Setup) (holder : String) :
    (∃ batch, (openCycle c holder s).1 = .ok (.ok batch) ∧
      batch = (s.transfers.claim Transfer.State.actionable c.orchestration.batchSize
        (claimOf c holder s.now)).1 ∧
      { s with transfers := (s.transfers.claim Transfer.State.actionable
        c.orchestration.batchSize (claimOf c holder s.now)).2 }.Agrees (openCycle c holder s).2) ∨
    ((openCycle c holder s).1 = .error .clock ∧ s.Agrees (openCycle c holder s).2) := by
  rcases openCycle_cases calm c holder with ⟨-, -, heq⟩ | ⟨-, heq⟩ <;> rw [heq]
  · exact Or.inr ⟨rfl, .refl s⟩
  · exact Or.inl ⟨_, rfl, rfl, rfl, rfl, rfl⟩

/-- Writing back ends with the record that is stored now, or leaves the records alone. -/
theorem writeBack_spec (claimed : Transfer) (p : Transfer) :
    (∃ t, s.transfers.update p = .ok t ∧ (writeBack claimed (.ok p) s).1 = some p ∧
      { s with transfers := t }.Agrees (writeBack claimed (.ok p) s).2) ∨
    ∃ e, s.transfers.update p = .error e ∧ (writeBack claimed (.ok p) s).1 = none ∧
      s.Agrees (writeBack claimed (.ok p) s).2 := by
  cases h : s.transfers.update p with
  | ok t =>
      have hstore : update p s = (.ok (), { s with transfers := t }) :=
        access_transfers_of_ok calm .update (by rw [h]; rfl)
      have heq : writeBack claimed (.ok p) s = _ := bind_eq hstore
      rw [heq]
      exact Or.inl ⟨t, rfl, rfl, .refl _⟩
  | error e =>
      have hstore : update p s = (.error e, s) :=
        access_transfers_of_error calm .update (by rw [h]; rfl)
      have heq : writeBack claimed (.ok p) s = _ := bind_eq hstore
      rw [heq]
      refine Or.inr ⟨e, rfl, ?_⟩
      cases e with
      | conflict _ => exact ⟨rfl, agrees_note _ _ _ _⟩
      | notFound | alreadyExists | rejected | database | unreadable =>
          exact ⟨rfl, agrees_note _ _ _ _⟩

/-- Giving up gives the lease back. -/
theorem giveUp_spec (id holder : String) :
    { s with transfers := s.transfers.release id holder }.Agrees (giveUp id holder s).2 := by
  have hstore : release id holder s =
      (.ok (), { s with transfers := s.transfers.release id holder }) :=
    access_transfers_of_ok calm .release rfl
  have heq : giveUp id holder s = _ := bind_eq hstore
  rw [heq]
  exact .refl _

omit calm in
/-- Concluding for a record that was written back leaves the records alone. -/
theorem agrees_conclude_some (claimed : Transfer) (holder : String) (p : Transfer) :
    s.Agrees (conclude claimed holder (some p) s).2 := by
  simp only [conclude]
  split
  · exact agrees_bind (agrees_tell _ _) (fun _ => .refl) s
  · exact .refl s

/-- Concluding for a record that was not written back gives its lease back. -/
theorem conclude_none_spec (claimed : Transfer) (holder : String) :
    { s with transfers := s.transfers.release claimed.id holder }.Agrees
      (conclude claimed holder none s).2 :=
  giveUp_spec calm claimed.id holder

end Accesses
end SiteM
end Connector
