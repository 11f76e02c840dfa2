import Connector.Proofs.Store.Copy
import Connector.Proofs.Transfer.Claimability

/-!
# Leases that follow each other

The store keeps one lease for each record, the one that was given last.  A claim takes a record
only if that lease is over by the clock of the claim, and the lease that it gives does not end
before its own instant.  So the end of the lease that is kept moves on from claim to claim, however
the clocks of the claims differ, and it bounds the ends of all those that were given before.

Only the lease that is kept can be dropped: the record is written back, or whoever has it last
gives it back.  With it the bound is gone, for the earlier leases too.  Statements:

* `isHeld_apply`, `isHeld_after` — what one access and a history leave of the bound;
* `lease_of_apply_of_foreign` — signals, and others who give the lease back, leave it alone;
* `leases_exclusive` — whoever is given a record finds the earlier leases over;
* `earlier_lease_forgotten` — a lease that another one followed is forgotten with that one.
-/

namespace Connector

namespace Operation

/-- A lease that the access gives does not end before the instant of the claim. -/
def IsForward : Operation → Prop
  | claim _ _ c => c.now ≤ c.expiresAt
  | create _ | update _ | release _ _ | signal _ _ => True

/-- The access delivers a signal, or gives a lease back in the name of another than the holder. -/
def IsForeignTo (holder : String) : Operation → Prop
  | release _ holder' => holder' ≠ holder
  | signal _ _ => True
  | create _ | claim _ _ _ | update _ => False

end Operation

namespace Transfers

/-- The record of an id is on lease to a holder, until an instant at least. -/
def IsHeld (s : Transfers) (id holder : String) (bound : Instant) : Prop :=
  ∃ r lease, s.find? id = some r ∧ r.lease = some lease ∧ lease.holder = holder ∧
    bound ≤ lease.expiresAt

/-- Who was given the record of an id last, after an access: a claim that takes the record passes
it on. -/
def nextHolder (s : Transfers) (id holder : String) : Operation → String
  | .claim states batch c =>
      if ∃ q ∈ (s.claim states batch c).1, q.id = id then c.holder else holder
  | .create _ | .update _ | .release _ _ | .signal _ _ => holder

/-- An access ends the lease of the holder of the record of an id: the record is written back, or
the holder gives it back. -/
def EndsLease (s : Transfers) (id holder : String) : Operation → Prop
  | .update p => p.id = id ∧ ∃ t, s.update p = .ok t
  | .release id' holder' => id' = id ∧ holder' = holder
  | .create _ | .claim _ _ _ | .signal _ _ => False

/-- In a history the record of an id, which a holder has, is passed on by claims at most: it is not
written back, nor given back by whoever was given it last. -/
def Unended (s : Transfers) (id holder : String) : List Operation → Prop
  | [] => True
  | op :: ops =>
      ¬ s.EndsLease id holder op ∧ (s.apply op).Unended id (s.nextHolder id holder op) ops

variable {s : Transfers} {id holder : String} {bound : Instant} {op : Operation}

/-! ## The lease that is kept -/

/-- A claim keeps the lease that it gives. -/
theorem isHeld_of_mem_claim (hs : s.IsKeyed) {states : List Transfer.State} {batch : Nat}
    {c : Claim} {p : Transfer} (hp : p ∈ (s.claim states batch c).1) :
    (s.apply (.claim states batch c)).IsHeld p.id c.holder c.expiresAt := by
  obtain ⟨hstored, hlease⟩ := holds_of_mem_claim hs hp
  exact ⟨p, c.lease, hstored, hlease, rfl, Int.le_refl _⟩

/-- A claim finds the lease of a record that it chooses over. -/
theorem le_of_mem_chosen {states : List Transfer.State} {batch : Nat} {c : Claim} {p : Transfer}
    (hp : p ∈ s.chosen states batch c) {lease : Lease} (hlease : p.lease = some lease) :
    lease.expiresAt ≤ c.now :=
  (Transfer.isClaimable_iff.1 (mem_chosen hp).2.2).2.1 lease hlease

/-- A claim that takes a record finds the bound on its lease passed. -/
theorem le_of_mem_claim (hs : s.IsKeyed) (h : s.IsHeld id holder bound)
    {states : List Transfer.State} {batch : Nat} {c : Claim} {q : Transfer}
    (hq : q ∈ (s.claim states batch c).1) (hid : q.id = id) : bound ≤ c.now := by
  obtain ⟨r, lease, hr, hlease, -, hbound⟩ := h
  obtain ⟨p, hp, rfl⟩ := mem_claim_iff.1 hq
  -- The record that the claim took is the one stored under the id.
  have hstored := find?_of_mem_chosen hs hp
  rw [show p.id = id from hid, hr] at hstored
  cases hstored
  exact Int.le_trans hbound (le_of_mem_chosen hp hlease)

/-- The holder stays the same under an access that makes nothing of the record. -/
theorem nextHolder_of_no_effect (hs : s.IsKeyed) {r : Transfer} (hr : s.find? id = some r)
    (hno : ∀ r', ¬ Effect s r op r') : s.nextHolder id holder op = holder := by
  cases op with
  | create | update | release | signal => rfl
  | claim states batch c =>
      refine if_neg ?_
      rintro ⟨q, hq, hid⟩
      obtain ⟨p, hp, rfl⟩ := mem_claim_iff.1 hq
      have hstored := find?_of_mem_chosen hs hp
      rw [show p.id = id from hid, hr] at hstored
      cases hstored
      exact hno _ (.leased hp)

/-- **The bound moves on.**  An access that does not end the lease on a record leaves it on lease,
to whoever was given it last, and no shorter than before. -/
theorem isHeld_apply (hs : s.IsKeyed) (h : s.IsHeld id holder bound)
    (hends : ¬ s.EndsLease id holder op) (hforward : op.IsForward) :
    (s.apply op).IsHeld id (s.nextHolder id holder op) bound := by
  obtain ⟨r, lease, hr, hlease, hholder, hbound⟩ := h
  have hid : r.id = id := id_of_find? hs hr
  rcases find?_apply hs hr op with ⟨r', heff, hr'⟩ | ⟨hno, hr'⟩
  · cases heff with
    | @leased states batch c chosen =>
        have htaken : ∃ q ∈ (s.claim states batch c).1, q.id = id :=
          ⟨r.leased c, mem_claim_iff.2 ⟨r, chosen, rfl⟩, hid⟩
        have hover := le_of_mem_chosen chosen hlease
        exact ⟨r.leased c, c.lease, hr', rfl, (if_pos htaken).symm,
          Int.le_trans hbound (Int.le_trans hover hforward)⟩
    | @written p id_eq version_eq holder_eq =>
        have hstored : s.find? p.id = some r := by rw [id_eq, hid, hr]
        exact absurd ⟨id_eq.trans hid, _,
          update_eq_ok_iff.2 ⟨r, hstored, version_eq, holder_eq, rfl⟩⟩ hends
    | @released holder' held =>
        have heq : lease.holder = holder' := by simpa [hlease] using held
        exact absurd ⟨hid, heq.symm.trans hholder⟩ hends
    | signalled accepted =>
        refine ⟨_, lease, hr', ?_, hholder, hbound⟩
        rw [Transfer.bumped, Transfer.accept_frame accepted]
        exact hlease
  · rw [nextHolder_of_no_effect hs hr hno]
    exact ⟨r, lease, hr', hlease, hholder, hbound⟩

/-- A history that does not end the leases on a record leaves it on lease, no shorter than
before. -/
theorem isHeld_after (hs : s.IsKeyed) (h : s.IsHeld id holder bound) {ops : List Operation}
    (hunended : s.Unended id holder ops) (hforward : ∀ op ∈ ops, op.IsForward) :
    ∃ last, (s.after ops).IsHeld id last bound := by
  induction ops generalizing s holder with
  | nil => exact ⟨holder, h⟩
  | cons op ops ih =>
      have hnext := isHeld_apply hs h hunended.1 (hforward op List.mem_cons_self)
      exact ih (isKeyed_apply hs op) hnext hunended.2
        fun later hlater => hforward later (List.mem_cons_of_mem _ hlater)

/-- Signals, and others who give the lease back, leave the lease of a record alone. -/
theorem lease_of_apply_of_foreign (hs : s.IsKeyed) {r : Transfer} (hr : s.find? id = some r)
    {lease : Lease} (hlease : r.lease = some lease) (hforeign : op.IsForeignTo lease.holder) :
    ∃ r', (s.apply op).find? id = some r' ∧ r'.lease = some lease := by
  rcases find?_apply hs hr op with ⟨r', heff, hr'⟩ | ⟨-, hr'⟩
  · refine ⟨r', hr', ?_⟩
    cases heff with
    | leased | written => exact hforeign.elim
    | @released holder held =>
        have heq : lease.holder = holder := by simpa [hlease] using held
        exact absurd heq.symm hforeign
    | signalled accepted =>
        rw [Transfer.bumped, Transfer.accept_frame accepted]
        exact hlease
  · exact ⟨r, hr', hlease⟩

/-! ## Leases of all claims -/

/-- **Leases exclude each other.**  Let a claim hand out a record, let anybody access the store in
any way after that, with clocks that may differ and go backwards, and let a later claim hand out
the same record.  Unless the record was written back in between, or whoever was given it last gave
it back, the lease of the first claim is over at the instant of the later one.  And at every moment
signals, and those who give back a lease that is not theirs, leave the leases of all records as
they are. -/
theorem leases_exclusive (before between : List Operation) (states states' : List Transfer.State)
    (batch batch' : Nat) (c c' : Claim) (p q : Transfer)
    (hp : p ∈ ((empty.after before).claim states batch c).1)
    (hforward : ∀ op ∈ between, op.IsForward) :
    let claimed := (empty.after before).apply (.claim states batch c)
    (claimed.Unended p.id c.holder between →
      q ∈ ((claimed.after between).claim states' batch' c').1 → q.id = p.id →
        c.expiresAt ≤ c'.now) ∧
    ∀ ops id r lease, (empty.after ops).find? id = some r → r.lease = some lease →
      ∀ op, op.IsForeignTo lease.holder →
        ∃ r', ((empty.after ops).apply op).find? id = some r' ∧ r'.lease = some lease := by
  intro claimed
  refine ⟨?_, fun ops id r lease hr hlease op =>
    lease_of_apply_of_foreign (isKeyed_after isKeyed_empty ops) hr hlease⟩
  intro hunended hq hid
  have hbefore : (empty.after before).IsKeyed := isKeyed_after isKeyed_empty before
  have hclaimed : claimed.IsKeyed := isKeyed_apply hbefore _
  obtain ⟨last, hheld⟩ :=
    isHeld_after hclaimed (isHeld_of_mem_claim hbefore hp) hunended hforward
  exact le_of_mem_claim (isKeyed_after hclaimed between) hheld hq hid

/-- A worker claims a new transfer, another one takes it over when that lease is over, a signal and
the first worker's giving back change nothing, and a third one claims it at the end of the second
lease. -/
theorem leases_exclusive_of_three_workers :
    let new := Transfer.create "t" .consumer default ⟨0⟩
    let claim (holder : String) (now : Int) : Operation :=
      .claim Transfer.State.actionable 1 ⟨holder, ⟨now⟩, 60⟩
    let between := [claim "b" 100, .signal "t" .suspend, .release "t" "a"]
    let claimed := (empty.after [.create new]).apply (claim "a" 0)
    let third := Claim.mk "c" ⟨160⟩ 60
    (∃ q ∈ ((claimed.after between).claim Transfer.State.actionable 1 third).1, q.id = "t") ∧
      (⟨60⟩ : Instant) ≤ third.now := by
  intro new claim between claimed third
  have hp : new.leased ⟨"a", ⟨0⟩, 60⟩ ∈
      ((empty.after [.create new]).claim Transfer.State.actionable 1 ⟨"a", ⟨0⟩, 60⟩).1 := by
    decide +kernel
  have hforward : ∀ op ∈ between, op.IsForward := by
    simp [between, claim, Operation.IsForward, Claim.expiresAt]
    decide
  have hunended : claimed.Unended "t" "a" between := by
    refine ⟨id, id, ?_, trivial⟩
    rintro ⟨-, h⟩
    revert h
    decide +kernel
  obtain ⟨q, hq, hid⟩ :
      ∃ q ∈ ((claimed.after between).claim Transfer.State.actionable 1 third).1, q.id = "t" := by
    decide +kernel
  have hlaw := leases_exclusive [.create new] between Transfer.State.actionable
    Transfer.State.actionable 1 1 ⟨"a", ⟨0⟩, 60⟩ third _ q hp hforward
  exact ⟨⟨q, hq, hid⟩, hlaw.1 hunended hq hid⟩

/-- **A lease that another one followed is forgotten with that one.**  A worker has a transfer on
lease until 60; at 100 another one takes it over, and gives it back.  By a clock that shows 50 a
third worker is given the transfer then, though the first lease ends at 60, nothing was written
back, and the first worker gave nothing back. -/
theorem earlier_lease_forgotten :
    let new := Transfer.create "t" .consumer default ⟨0⟩
    let first := Claim.mk "a" ⟨0⟩ 60
    let third := Claim.mk "c" ⟨50⟩ 60
    let between : List Operation :=
      [.claim Transfer.State.actionable 1 ⟨"b", ⟨100⟩, 60⟩, .release "t" "b"]
    let claimed :=
      (empty.after [.create new]).apply (.claim Transfer.State.actionable 1 first)
    (∃ p ∈ ((empty.after [.create new]).claim Transfer.State.actionable 1 first).1,
        p.id = "t") ∧
      (∀ op ∈ between, op.IsForward ∧ (∀ p, op ≠ .update p) ∧ op ≠ .release "t" first.holder) ∧
      (∃ q ∈ ((claimed.after between).claim Transfer.State.actionable 1 third).1, q.id = "t") ∧
      third.now < first.expiresAt := by
  intro new first third between claimed
  refine ⟨by decide +kernel, ?_, by decide +kernel, by decide⟩
  simp [between, first, Operation.IsForward, Claim.expiresAt]
  decide

end Transfers
end Connector
