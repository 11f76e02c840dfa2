import Connector.Proofs.Site.Access

/-!
# What is published of transfers

Of all that is done at a site only the start of a transfer and the conclusion of an attempt that
was written back are published.  The accesses to the records, and the notes, leave the bus as it
is.  Statements:

* `publishes_openTransfer`, `publishes_conclude_some` — what is published, and in which order;
* `publishes_deliver`, `publishes_openCycle`, `publishes_writeBack`, `publishes_conclude_none` —
  nothing else is.
-/

namespace Connector

/-- The bus after the events of transfers were published one after the other. -/
def Bus.tellAll (b : Bus) (es : List TransferEvent) : Bus :=
  es.foldl (fun b e => b.publish (.transfer e)) b

/-- What is told of a record that was claimed and written back. -/
def Transfer.tidings (claimed p : Transfer) : List TransferEvent :=
  if p.stateTimestamp = claimed.stateTimestamp then []
  else
    .stateChanged p.id claimed.state p.state p.stateCount p.stateTimestamp ::
      (SiteM.followUp claimed.state p).toList

/-- From the first site to the second, these events were published. -/
def Site.Publishes (s : Site) (es : List TransferEvent) (t : Site) : Prop :=
  t.bus = s.bus.tellAll es

namespace Site.Publishes

theorem nothing (s : Site) : s.Publishes [] s := rfl

theorem trans {s t u : Site} {es fs : List TransferEvent} (h : s.Publishes es t)
    (h' : t.Publishes fs u) : s.Publishes (es ++ fs) u := by
  unfold Publishes at h h' ⊢
  rw [h', h]
  exact List.foldl_append.symm

end Site.Publishes

namespace SiteM

theorem publishes_note (level : Level) (message : String) (fields : List (String × String))
    (s : Site) : s.Publishes [] (note level message fields s).2 :=
  rfl

/-- An event that nobody listens to is not kept, and neither would the bus keep it. -/
theorem publishes_publish (e : TransferEvent) (s : Site) :
    s.Publishes [e] (publish (.transfer e) s).2 := by
  have heq : publish (.transfer e) s =
      (if s.bus.isHeard then set { s with bus := s.bus.publish (.transfer e) }
        else note .debug "No subscribers listening to event" [] : SiteM Unit) s := rfl
  rw [heq]
  split
  · rfl
  · rename_i hunheard
    show s.bus = s.bus.publish (.transfer e)
    rw [Bus.publish, if_neg hunheard]

theorem publishes_bind {α β : Type} {m : SiteM α} {f : α → SiteM β} {es fs : List TransferEvent}
    (hm : ∀ s : Site, s.Publishes es (m s).2) (hf : ∀ a (s : Site), s.Publishes fs (f a s).2)
    (s : Site) : s.Publishes (es ++ fs) ((m >>= f) s).2 :=
  (hm s).trans (hf _ _)

/-- What is told of a record is its change of state and what follows from it. -/
theorem publishes_tell (prior : Transfer.State) (p : Transfer) (s : Site) :
    s.Publishes (.stateChanged p.id prior p.state p.stateCount p.stateTimestamp ::
      (followUp prior p).toList) (tell prior p s).2 := by
  unfold tell
  split
  all_goals
    refine publishes_bind (publishes_note _ _ _)
      (fun _ => publishes_bind (publishes_publish _) ?_) s
    intro _ s
    cases followUp prior p with
    | some e => exact publishes_publish e s
    | none => exact .nothing s

/-- After an attempt that was written back, its tidings are published. -/
theorem publishes_conclude_some (claimed : Transfer) (holder : String) (p : Transfer) (s : Site) :
    s.Publishes (claimed.tidings p) (conclude claimed holder (some p) s).2 := by
  unfold Transfer.tidings
  by_cases hsame : p.stateTimestamp = claimed.stateTimestamp
  · simp only [conclude, hsame, ne_eq, not_true_eq_false, if_false, if_true]
    exact .nothing s
  · simp only [conclude, hsame, ne_eq, not_false_eq_true, if_false, if_true]
    have htold := publishes_bind (publishes_tell claimed.state p)
      (f := fun _ => (pure true : SiteM Bool)) (fun _ t => .nothing t) s
    rwa [List.append_nil] at htold

section Accesses
variable {s : Site} (calm : s.failing = [])
include calm

/-- The start of a transfer is published if its record was added. -/
theorem publishes_openTransfer (id : String) (role : Transfer.Role) (request : DataRequest) :
    s.Publishes
      (if s.transfers.find? id = none then [.created id role request.agreementId s.now] else [])
      (openTransfer id role request s).2 := by
  cases hfind : s.transfers.find? id with
  | none =>
      obtain ⟨t, hadded⟩ :
          ∃ t, s.transfers.create (.create id role request s.now) = .ok t := by
        simp only [Transfers.create, Transfer.create, hfind]
        exact ⟨_, rfl⟩
      have hstore : storeTransfer (.create id role request s.now) s =
          (.ok (), { s with transfers := t }) :=
        access_transfers_of_ok calm .create (by rw [hadded]; rfl)
      have heq : openTransfer id role request s = _ := (bind_eq rfl).trans (bind_eq hstore)
      rw [heq]
      exact publishes_bind (publishes_note _ _ _)
        (fun _ => publishes_bind (publishes_publish _) fun _ => .nothing) _
  | some p =>
      have hfull : s.transfers.create (.create id role request s.now) =
          .error (.alreadyExists id) := by
        simp only [Transfers.create, Transfer.create, hfind]
      have hstore : storeTransfer (.create id role request s.now) s =
          (.error (.alreadyExists id), s) :=
        access_transfers_of_error calm .create (by rw [hfull]; rfl)
      have heq : openTransfer id role request s = _ := (bind_eq rfl).trans (bind_eq hstore)
      rw [heq]
      exact .nothing s

/-- Of a signal nothing is published. -/
theorem publishes_deliver (id : String) (x : Transfer.Signal) :
    s.Publishes [] (deliver id x s).2 := by
  cases h : s.transfers.signal id x with
  | ok r =>
      have hstore : signal id x s = (.ok r.1, { s with transfers := r.2 }) :=
        access_transfers_of_ok calm .signal h
      have heq : deliver id x s = _ := bind_eq hstore
      rw [heq]
      exact publishes_note _ _ _ _
  | error e =>
      have hstore : signal id x s = (.error e, s) := access_transfers_of_error calm .signal h
      have heq : deliver id x s = _ := bind_eq hstore
      rw [heq]
      exact .nothing s

/-- Of a claim nothing is published. -/
theorem publishes_openCycle (c : Setup) (holder : String) :
    s.Publishes [] (openCycle c holder s).2 := by
  rcases openCycle_cases calm c holder with ⟨-, -, heq⟩ | ⟨-, heq⟩ <;> rw [heq]
  · exact .nothing s
  · exact .nothing _

/-- Before the conclusion nothing is published of what an attempt wrote. -/
theorem publishes_writeBack (claimed : Transfer) (result : Except Transfer.Refusal Transfer) :
    s.Publishes [] (writeBack claimed result s).2 := by
  cases result with
  | error e => exact publishes_note _ _ _ s
  | ok p =>
      cases h : s.transfers.update p with
      | ok t =>
          have hstore : update p s = (.ok (), { s with transfers := t }) :=
            access_transfers_of_ok calm .update (by rw [h]; rfl)
          have heq : writeBack claimed (.ok p) s = _ := bind_eq hstore
          rw [heq]
          exact .nothing s
      | error e =>
          have hstore : update p s = (.error e, s) :=
            access_transfers_of_error calm .update (by rw [h]; rfl)
          have heq : writeBack claimed (.ok p) s = _ := bind_eq hstore
          rw [heq]
          cases e with
          | conflict _ => exact publishes_note _ _ _ s
          | notFound | alreadyExists | rejected | database | unreadable =>
              exact publishes_note _ _ _ s

/-- Of an attempt that was given up nothing is published. -/
theorem publishes_conclude_none (claimed : Transfer) (holder : String) :
    s.Publishes [] (conclude claimed holder none s).2 := by
  have hstore : release claimed.id holder s =
      (.ok (), { s with transfers := s.transfers.release claimed.id holder }) :=
    access_transfers_of_ok calm .release rfl
  have heq : giveUp claimed.id holder s = _ := bind_eq hstore
  have hconclude : conclude claimed holder none s = _ := bind_eq heq
  rw [hconclude]
  exact .nothing s

end Accesses
end SiteM
end Connector
