import Connector.Proofs.World.Jobs

/-!
# The life of a record

A record comes into being by creation, and after that a turn does at most one of four things to
it: a claim takes it on lease, a lease is given back, a signal is taken, or an attempt on just
this record is written back.  Statements:

* `find?_turn`, `find?_turn_of_eq_none` — what a turn does to the record of an id;
* `keepsCopies_run` — a record that was claimed once is stored for good, as the same transfer;
* `everywhere_run` — what holds of new records, and is kept by the four changes and by time, holds
  of every record in every run.
-/

namespace Connector

/-- A later record of a transfer: whose record it is and what was asked for never change. -/
structure Transfer.Succeeds (q p : Transfer) : Prop where
  id_eq : q.id = p.id
  role_eq : q.role = p.role
  createdAt_eq : q.createdAt = p.createdAt
  request_eq : q.request = p.request

namespace Ledger

/-- What a turn that leads to a ledger can make of a record. -/
inductive Change (l' : Ledger) (r : Transfer) : Transfer → Prop where
  | leased {c : Claim} (actionable : r.state ∈ Transfer.State.actionable)
      (claimable : r.isClaimable c.now = true) : Change l' r (r.leased c)
  | released : Change l' r r.withoutLease
  | signalled {x : Transfer.Signal} {q : Transfer} (accepted : r.accept x = .ok (some q)) :
      Change l' r q.bumped
  | attempted {setup : Setup} {now : Instant} {xs : List Exchange} {p : Transfer}
      (attempted : l'.Attempted setup r xs p) (result : Attempt.Result setup r now xs p) :
      Change l' r (p.written r)

variable {l l' : Ledger} {a : Action} {id : String} {r : Transfer}

/-- An access that does not write back makes one of the other three changes. -/
theorem find?_apply_of_ne_update (hl : l.Sound) (hr : l.transfers.find? id = some r)
    (op : Operation) (hop : ∀ p, op ≠ .update p)
    (hstates : ∀ states batch c, op = .claim states batch c →
      states = Transfer.State.actionable) :
    (l.transfers.apply op).find? id = some r ∨
      ∃ r', (l.transfers.apply op).find? id = some r' ∧ Change l' r r' := by
  rcases Transfers.find?_apply hl.isKeyed hr op with ⟨r', heff, hr'⟩ | ⟨-, hr'⟩
  · refine Or.inr ⟨r', hr', ?_⟩
    cases heff with
    | leased chosen =>
        obtain ⟨-, actionable, claimable⟩ := Transfers.mem_chosen chosen
        exact .leased (hstates _ _ _ rfl ▸ actionable) claimable
    | written => exact absurd rfl (hop _)
    | released => exact .released
    | signalled accepted => exact .signalled accepted
  · exact Or.inl hr'

/-- What a step of a job does to the record of an id. -/
theorem find?_step (hl : l.Sound) {i : Nat} {j j' : Job} {t : Transfers}
    (found : l.jobs[i]? = some j) (step : j.Step l.now l.transfers j' t)
    (hr : l.transfers.find? id = some r) :
    t.find? id = some r ∨
      ∃ r', t.find? id = some r' ∧
        Change { l with transfers := t, jobs := l.jobs.set i j' } r r' := by
  cases step with
  | begun | noted | asked | placed | answered | failed | abandoned | told | lost => exact Or.inl hr
  | released phase_eq =>
      exact find?_apply_of_ne_update hl hr (.release _ _) (by simp) (by simp)
  | @persisted p _ phase_eq taken =>
      have hj := hl.jobs j (List.mem_of_getElem? found)
      obtain ⟨hholds, rfl⟩ := (hj.update_eq_ok_iff phase_eq).1 taken
      obtain ⟨now, result⟩ := (hj.reaches_of_running phase_eq).result
      rw [Transfers.find?_put]
      by_cases hid : id = p.id
      · -- The record of the id is the one that was claimed.
        rw [hid, result.continues.id_eq, hholds] at hr
        cases hr
        obtain ⟨hlt, -⟩ := List.getElem?_eq_some_iff.1 found
        refine Or.inr ⟨_, if_pos hid, .attempted ?_ result⟩
        exact ⟨_, List.mem_set hlt _, rfl, rfl, rfl, l.now, false, rfl⟩
      · exact Or.inl (by rw [if_neg hid, hr])

/-- **What a turn does to a record.**  It leaves the record as it is, or changes it in one of four
ways. -/
theorem find?_turn (hl : l.Sound) (h : l.Turn a l') (hr : l.transfers.find? id = some r) :
    l'.transfers.find? id = some r ∨
      ∃ r', l'.transfers.find? id = some r' ∧ Change l' r r' := by
  cases h with
  | still | passed => exact Or.inl hr
  | @created id' role request t _ added =>
      rw [← Transfers.apply_create_of_ok added]
      exact find?_apply_of_ne_update hl hr _ (by simp) (by simp)
  | @signalled id' x p t taken =>
      rw [← Transfers.apply_signal_of_ok taken]
      exact find?_apply_of_ne_update hl hr _ (by simp) (by simp)
  | claimed =>
      exact find?_apply_of_ne_update hl hr (.claim _ _ _) (by simp) (by simp +contextual)
  | worked found _ step => exact find?_step hl found step hr

/-- A record comes into being by creation only, for a request that is in order. -/
theorem find?_turn_of_eq_none (hl : l.Sound) (h : l.Turn a l')
    (hnone : l.transfers.find? id = none) (hr : l'.transfers.find? id = some r) :
    ∃ role request, request.validate = .ok () ∧ r = .create id role request l.now := by
  cases h with
  | still | passed =>
      rw [hnone] at hr
      cases hr
  | @created id' role request t valid added =>
      rw [← Transfers.apply_create_of_ok added] at hr
      obtain ⟨hop, rfl⟩ := Transfers.find?_apply_of_eq_none hl.isKeyed hnone _ hr
      cases hop
      exact ⟨role, request, valid, rfl⟩
  | @signalled id' x p t taken =>
      rw [← Transfers.apply_signal_of_ok taken] at hr
      obtain ⟨hop, -⟩ := Transfers.find?_apply_of_eq_none hl.isKeyed hnone _ hr
      cases hop
  | claimed =>
      obtain ⟨hop, -⟩ := Transfers.find?_apply_of_eq_none hl.isKeyed hnone (.claim _ _ _) hr
      cases hop
  | worked _ _ step =>
      rcases step.access with rfl | ⟨op, hop, rfl⟩
      · rw [hnone] at hr
        cases hr
      · exact absurd (Transfers.find?_apply_of_eq_none hl.isKeyed hnone _ hr).1 (hop r)

/-! ## What never changes -/

theorem Change.succeeds {r' : Transfer} (h : Change l' r r') : r'.Succeeds r := by
  cases h with
  | leased | released => exact ⟨rfl, rfl, rfl, rfl⟩
  | @signalled x q accepted =>
      have hframe := Transfer.accept_frame accepted
      rw [Transfer.bumped, hframe]
      exact ⟨rfl, rfl, rfl, rfl⟩
  | attempted _ result =>
      have hcontinues := result.continues
      exact ⟨hcontinues.id_eq, hcontinues.role_eq, hcontinues.createdAt_eq,
        hcontinues.request_eq⟩

/-- The record that a copy was made of is still stored, as a later record of the transfer. -/
def KeepsCopies (l : Ledger) : Prop :=
  ∀ j ∈ l.jobs, ∃ r, l.transfers.find? j.claimed.id = some r ∧ r.Succeeds j.claimed

theorem keepsCopies_turn (hl : l.Sound) (h : l.Turn a l') (hkeeps : l.KeepsCopies) :
    l'.KeepsCopies := by
  have hold : ∀ j ∈ l.jobs,
      ∃ r, l'.transfers.find? j.claimed.id = some r ∧ r.Succeeds j.claimed := by
    intro j hj
    obtain ⟨r, hr, hsucceeds⟩ := hkeeps j hj
    rcases find?_turn hl h hr with hr' | ⟨r', hr', hchange⟩
    · exact ⟨r, hr', hsucceeds⟩
    · obtain ⟨id_eq, role_eq, createdAt_eq, request_eq⟩ := hchange.succeeds
      exact ⟨r', hr', id_eq.trans hsucceeds.id_eq, role_eq.trans hsucceeds.role_eq,
        createdAt_eq.trans hsucceeds.createdAt_eq, request_eq.trans hsucceeds.request_eq⟩
  intro j' hj'
  rcases h.jobs hj' with hj | ⟨j, hj, step⟩ | ⟨setup, holder, p, hp, heq, rfl⟩
  · exact hold j' hj
  · rw [step.continues.claimed_eq]
    exact hold j hj
  · have hholds := (Transfers.holds_of_mem_claim hl.isKeyed hp).1
    exact ⟨p, heq ▸ hholds, rfl, rfl, rfl, rfl⟩

theorem keepsCopies_run (now : Instant) (capacity : Nat) (liveness : Option Int)
    (actions : List Action) :
    ((World.start now capacity liveness).run actions).ledger.KeepsCopies :=
  World.run_induction (fun hl h => keepsCopies_turn hl h)
    (World.sound_start now capacity liveness) (by simp [KeepsCopies, World.start, World.ledger])
    actions

/-! ## What every record has in common -/

/-- A property of records, in the light of a ledger, that new records have, and that neither time
nor a change takes away. -/
structure IsInvariant (P : Ledger → Transfer → Prop) : Prop where
  created : ∀ (l : Ledger) (id : String) (role : Transfer.Role) (request : DataRequest)
    (now : Instant), request.validate = .ok () → P l (.create id role request now)
  stays : ∀ {l l' : Ledger} {a : Action} {r : Transfer}, l.Turn a l' → P l r → P l' r
  changed : ∀ {l' : Ledger} {r r' : Transfer}, l'.Sound → P l' r → Change l' r r' → P l' r'

/-- The records of a ledger have a property, and so have the copies that were handed out. -/
structure Everywhere (P : Ledger → Transfer → Prop) (l : Ledger) : Prop where
  records : ∀ id r, l.transfers.find? id = some r → P l r
  copies : ∀ j ∈ l.jobs, P l j.claimed

variable {P : Ledger → Transfer → Prop}

theorem everywhere_turn (hP : IsInvariant P) (hl : l.Sound) (h : l.Turn a l')
    (hall : l.Everywhere P) : l'.Everywhere P := by
  have hl' : l'.Sound := sound_turn h hl
  have hrecords : ∀ id r, l'.transfers.find? id = some r → P l' r := by
    intro id r' hr'
    cases hr : l.transfers.find? id with
    | none =>
        obtain ⟨role, request, hvalid, rfl⟩ := find?_turn_of_eq_none hl h hr hr'
        exact hP.created l' id role request l.now hvalid
    | some r =>
        have hstay : P l' r := hP.stays h (hall.records id r hr)
        rcases find?_turn hl h hr with heq | ⟨q, heq, hchange⟩
        · rw [hr'] at heq
          cases heq
          exact hstay
        · rw [hr'] at heq
          cases heq
          exact hP.changed hl' hstay hchange
  refine ⟨hrecords, ?_⟩
  intro j' hj'
  rcases h.jobs hj' with hj | ⟨j, hj, step⟩ | ⟨setup, holder, p, hp, heq, rfl⟩
  · exact hP.stays h (hall.copies j' hj)
  · rw [step.continues.claimed_eq]
    exact hP.stays h (hall.copies j hj)
  · -- A copy that is just handed out is what is stored.
    have hholds := (Transfers.holds_of_mem_claim hl.isKeyed hp).1
    have hfind : l'.transfers.find? p.id = some p := heq ▸ hholds
    exact hrecords p.id p hfind

/-- **What holds of every record.**  An invariant holds of all records and copies in every run. -/
theorem everywhere_run (hP : IsInvariant P) (now : Instant) (capacity : Nat)
    (liveness : Option Int) (actions : List Action) :
    ((World.start now capacity liveness).run actions).ledger.Everywhere P := by
  refine World.run_induction (fun hl h => everywhere_turn hP hl h)
    (World.sound_start now capacity liveness) ?_ actions
  refine ⟨?_, by simp [World.start, World.ledger]⟩
  intro id r hr
  cases hr

end Ledger
end Connector
