import Connector.Proofs.Store.Operation

/-!
# Copies handed out by a claim

A claim hands out copies of the records it puts on lease.  What is written back later is a changed
copy, and the store takes it only for the version that is stored and from the holder of the lease.
These two together name the content of a record: a copy is what is stored (`Holds`), or else the
store went on to a later version or dropped the lease at that version (`Outdates`), and no access
leads back.  Statements:

* `holds_or_outdates_apply`, `outdates_apply` — what one access does to the standing of a copy;
* `holds_iff_undisturbed` — through every history, a copy is stored as long as nothing disturbed
  its record since the claim, and outdated from then on;
* `update_iff_undisturbed` — no update is lost, and none is made on what has changed.
-/

namespace Connector
namespace Transfers

/-- The copy is what is stored. -/
def Holds (s : Transfers) (c : Transfer) : Prop := s.find? c.id = some c

/-- The store has gone on from the copy: to a later version, or at its version without lease. -/
def Outdates (s : Transfers) (c : Transfer) : Prop :=
  ∃ r, s.find? c.id = some r ∧ (c.version < r.version ∨ (c.version = r.version ∧ r.lease = none))

/-- An access ends what a claim of the record of an id gave a holder: the record is claimed again,
it is written back, a signal changes it, or the holder gives the lease back. -/
def Disturbs (s : Transfers) (id holder : String) : Operation → Prop
  | .create _ => False
  | .claim states batch c => ∃ q ∈ (s.claim states batch c).1, q.id = id
  | .update p => p.id = id ∧ ∃ t, s.update p = .ok t
  | .release id' holder' => id' = id ∧ holder' = holder
  | .signal id' x => id' = id ∧ ∃ q t, s.signal id' x = .ok (q, t) ∧ t.find? id ≠ s.find? id

/-- No access of a history ends what a claim of the record of an id gave a holder. -/
def Undisturbed (s : Transfers) (id holder : String) : List Operation → Prop
  | [] => True
  | op :: ops => ¬ s.Disturbs id holder op ∧ (s.apply op).Undisturbed id holder ops

/-- A claim stores the copies that it hands out. -/
theorem holds_of_mem_claim {s : Transfers} (hs : s.IsKeyed) {states : List Transfer.State}
    {batch : Nat} {claim : Claim} {c : Transfer} (hc : c ∈ (s.claim states batch claim).1) :
    (s.claim states batch claim).2.Holds c ∧ c.lease = some claim.lease := by
  obtain ⟨p, hp, rfl⟩ := mem_claim_iff.1 hc
  have hstored := find?_of_mem_chosen hs hp
  refine ⟨?_, rfl⟩
  have hfind := find?_claim hs states batch claim p.id
  simpa [Holds, Transfer.leased, hstored, hp] using hfind

/-- What an access makes of a record outdates the copies of that record. -/
theorem Effect.outdates {s t : Transfers} {r r' : Transfer} {op : Operation}
    (h : Effect s r op r') (ht : t.find? r.id = some r') : t.Outdates r := by
  refine ⟨r', ht, ?_⟩
  cases h with
  | leased | written => exact Or.inl (Nat.lt_succ_self _)
  | released => exact Or.inr ⟨rfl, rfl⟩
  | signalled accepted =>
      have hversion := Transfer.version_of_accept accepted
      exact Or.inl (by simp only [Transfer.bumped]; omega)

/-- No access leads back to an outdated copy. -/
theorem outdates_apply {s : Transfers} (hs : s.IsKeyed) {c : Transfer} (h : s.Outdates c)
    (op : Operation) : (s.apply op).Outdates c := by
  obtain ⟨r, hr, hver⟩ := h
  rcases find?_apply hs hr op with ⟨r', heff, hr'⟩ | ⟨-, hr'⟩
  · refine ⟨r', hr', ?_⟩
    have hle : c.version ≤ r.version := by omega
    cases heff with
    | leased => exact Or.inl (Nat.lt_succ_of_le hle)
    | written => exact Or.inl (Nat.lt_succ_of_le hle)
    | released => exact hver.imp id fun heq => ⟨heq.1, rfl⟩
    | signalled accepted =>
        have hversion := Transfer.version_of_accept accepted
        exact Or.inl (by simp only [Transfer.bumped]; omega)
  · exact ⟨r, hr', hver⟩

/-- A copy that is stored stays so under an access, or the access made something of its record. -/
theorem holds_or_outdates_apply {s : Transfers} (hs : s.IsKeyed) {c : Transfer} (h : s.Holds c)
    (op : Operation) :
    ((∀ r', ¬ Effect s c op r') ∧ (s.apply op).Holds c) ∨
      ((∃ r', Effect s c op r') ∧ (s.apply op).Outdates c) := by
  rcases find?_apply hs h op with ⟨r', heff, hr'⟩ | hno
  · exact Or.inr ⟨⟨r', heff⟩, heff.outdates hr'⟩
  · exact Or.inl hno

/-- The store refuses to take back a changed copy that is outdated. -/
theorem update_of_outdates {s : Transfers} {c p : Transfer} (h : s.Outdates c)
    (hid : p.id = c.id) (hversion : p.version = c.version) :
    s.update p = .error (.conflict p.id) := by
  obtain ⟨r, hr, hver⟩ := h
  refine update_eq_conflict (by rw [hid, hr]) ?_
  rintro ⟨heq, hholder⟩
  rcases hver with hlt | ⟨-, hnone⟩
  · omega
  · simp [Transfer.sameHolder, hnone] at hholder

/-- The store takes back a changed copy that is what is stored. -/
theorem update_of_holds {s : Transfers} {c p : Transfer} (h : s.Holds c) (hid : p.id = c.id)
    (hversion : p.version = c.version) (hholder : c.sameHolder p = true) :
    s.update p = .ok ⟨Table.put p.id (p.written c) s.records⟩ :=
  update_eq_ok_iff.2 ⟨c, by rw [hid]; exact h, hversion.symm, hholder, rfl⟩

/-- A copy that is outdated is not what is stored, as far as the copy is on lease. -/
theorem Outdates.not_holds {s : Transfers} {c : Transfer} (h : s.Outdates c)
    (hlease : c.lease.isSome = true) : ¬ s.Holds c := by
  intro hc
  obtain ⟨r, hr, hver⟩ := h
  rw [show s.find? c.id = some c from hc] at hr
  cases hr
  rcases hver with hlt | ⟨-, hnone⟩
  · exact Nat.lt_irrefl _ hlt
  · rw [hnone] at hlease
    cases hlease

/-- For a copy that is stored, the accesses that disturb its claim are those that make something
of its record. -/
theorem disturbs_iff_effect {s : Transfers} (hs : s.IsKeyed) {c : Transfer} (h : s.Holds c)
    {lease : Lease} (hlease : c.lease = some lease) (op : Operation) :
    s.Disturbs c.id lease.holder op ↔ ∃ r', Effect s c op r' := by
  cases op with
  | create p =>
      constructor
      · exact False.elim
      · rintro ⟨_, he⟩
        cases he
  | claim states batch claim =>
      constructor
      · rintro ⟨q, hq, hid⟩
        obtain ⟨p, hp, rfl⟩ := mem_claim_iff.1 hq
        -- The record that the claim took is the one stored under the id, hence the copy.
        have hstored := find?_of_mem_chosen hs hp
        rw [show p.id = c.id from hid, show s.find? c.id = some c from h] at hstored
        cases hstored
        exact ⟨_, .leased hp⟩
      · rintro ⟨_, he⟩
        cases he with
        | leased chosen => exact ⟨_, mem_claim_iff.2 ⟨c, chosen, rfl⟩, rfl⟩
  | update p =>
      constructor
      · rintro ⟨hid, t, ht⟩
        obtain ⟨r, hr, hversion, hholder, -⟩ := update_eq_ok_iff.1 ht
        rw [hid, show s.find? c.id = some c from h] at hr
        cases hr
        exact ⟨_, .written hid hversion hholder⟩
      · rintro ⟨_, he⟩
        cases he with
        | written id_eq version_eq holder_eq =>
            exact ⟨id_eq, _, update_of_holds h id_eq version_eq.symm holder_eq⟩
  | release id holder =>
      constructor
      · rintro ⟨rfl, rfl⟩
        exact ⟨_, .released (by simp [hlease])⟩
      · rintro ⟨_, he⟩
        cases he with
        | released held =>
            have heq : lease.holder = holder := by simpa [hlease] using held
            exact ⟨rfl, heq.symm⟩
  | signal id x =>
      constructor
      · rintro ⟨rfl, q, t, hok, hne⟩
        obtain ⟨r, hr, ⟨-, -, rfl⟩ | ⟨next, hnext, -, -⟩⟩ := signal_eq_ok_iff.1 hok
        · exact absurd rfl hne
        · rw [show s.find? c.id = some c from h] at hr
          cases hr
          exact ⟨_, .signalled hnext⟩
      · rintro ⟨_, he⟩
        cases he with
        | signalled accepted =>
            refine ⟨rfl, _, _, signal_eq_ok_iff.2 ⟨c, h, Or.inr ⟨_, accepted, rfl, rfl⟩⟩, ?_⟩
            rw [find?_put, if_pos rfl, show s.find? c.id = some c from h]
            intro heq
            have hversion := congrArg Transfer.version (Option.some.inj heq)
            rw [← Transfer.version_of_accept accepted] at hversion
            exact absurd hversion (Nat.succ_ne_self _)

theorem outdates_after {s : Transfers} (hs : s.IsKeyed) {c : Transfer} (h : s.Outdates c)
    (ops : List Operation) : (s.after ops).Outdates c := by
  induction ops generalizing s with
  | nil => exact h
  | cons op ops ih => exact ih (isKeyed_apply hs op) (outdates_apply hs h op)

/-- Through every history a copy is what is stored as long as nothing disturbed its claim, and
outdated from then on. -/
theorem holds_iff_undisturbed {s : Transfers} (hs : s.IsKeyed) {c : Transfer} (h : s.Holds c)
    {lease : Lease} (hlease : c.lease = some lease) (ops : List Operation) :
    (s.Undisturbed c.id lease.holder ops ∧ (s.after ops).Holds c) ∨
      (¬ s.Undisturbed c.id lease.holder ops ∧ (s.after ops).Outdates c) := by
  induction ops generalizing s with
  | nil => exact Or.inl ⟨trivial, h⟩
  | cons op ops ih =>
      have hiff := disturbs_iff_effect hs h hlease op
      have hkeyed := isKeyed_apply hs op
      rcases holds_or_outdates_apply hs h op with ⟨hno, hholds⟩ | ⟨heff, hout⟩
      · have hcalm : ¬ s.Disturbs c.id lease.holder op := fun hd =>
          (hiff.1 hd).elim hno
        rcases ih hkeyed hholds with ⟨hrest, hlast⟩ | ⟨hrest, hlast⟩
        · exact Or.inl ⟨⟨hcalm, hrest⟩, hlast⟩
        · exact Or.inr ⟨fun hu => hrest hu.2, hlast⟩
      · exact Or.inr ⟨fun hu => hu.1 (hiff.2 heff), outdates_after hkeyed hout ops⟩

/-- **No update is lost.**  Let a claim hand out a copy, let anybody access the store in any way
after that, and let a record of the id and version of the copy be written back from the holder of
the claim.  It is taken exactly if nothing disturbed the claim meanwhile.  Then what was stored
just before is the copy in every field, what is stored now is the written record, without lease
and one version on, and the other records are as before.  Otherwise there is a conflict, and the
store is left as it is. -/
theorem update_iff_undisturbed (before between : List Operation) (states : List Transfer.State)
    (batch : Nat) (claim : Claim) (c : Transfer)
    (hc : c ∈ ((empty.after before).claim states batch claim).1)
    (p : Transfer) (hid : p.id = c.id) (hversion : p.version = c.version)
    (lease : Lease) (hlease : p.lease = some lease) (hholder : lease.holder = claim.holder) :
    let claimed := (empty.after before).apply (.claim states batch claim)
    let s := claimed.after between
    ((∃ t, s.update p = .ok t) ↔ claimed.Undisturbed c.id claim.holder between) ∧
      (claimed.Undisturbed c.id claim.holder between →
        s.find? c.id = some c ∧
          (s.apply (.update p)).find? c.id =
            some { p with lease := none, version := c.version + 1 } ∧
          ∀ id, id ≠ c.id → (s.apply (.update p)).find? id = s.find? id) ∧
      (¬ claimed.Undisturbed c.id claim.holder between →
        s.update p = .error (.conflict c.id) ∧ s.apply (.update p) = s) := by
  intro claimed s
  have hbefore : (empty.after before).IsKeyed := isKeyed_after isKeyed_empty before
  obtain ⟨hholds, hgiven⟩ := holds_of_mem_claim hbefore hc
  have hsame : c.sameHolder p = true := by
    simp [Transfer.sameHolder, hgiven, hlease, hholder, Claim.lease]
  rcases holds_iff_undisturbed (isKeyed_claim hbefore states batch claim) hholds hgiven between
    with ⟨hcalm, hstored⟩ | ⟨hdisturbed, hout⟩
  · have hok : s.update p = .ok ⟨Table.put p.id (p.written c) s.records⟩ :=
      update_of_holds hstored hid hversion hsame
    refine ⟨iff_of_true ⟨_, hok⟩ hcalm, fun _ => ⟨hstored, ?_, ?_⟩, fun h => absurd hcalm h⟩
    · simp only [apply, hok, find?_put, hid, if_true, Transfer.written]
    · intro id hne
      simp only [apply, hok, find?_put, hid, hne, if_false]
  · have hconflict : s.update p = .error (.conflict p.id) :=
      update_of_outdates hout hid hversion
    refine ⟨iff_of_false ?_ hdisturbed, fun h => absurd h hdisturbed, fun _ => ?_⟩
    · rintro ⟨t, ht⟩
      rw [hconflict] at ht
      cases ht
    · exact ⟨by rw [hconflict, hid], by simp only [apply, hconflict]⟩

/-- A worker claims a new transfer, another one gives back a lease that it does not have, and the
first one writes the transfer back. -/
theorem update_after_foreign_release :
    let new := Transfer.create "t" .consumer default ⟨0⟩
    let claim : Claim := ⟨"w", ⟨10⟩, 100⟩
    let c := new.leased claim
    let claimed := (empty.after [.create new]).apply (.claim Transfer.State.actionable 1 claim)
    c ∈ ((empty.after [.create new]).claim Transfer.State.actionable 1 claim).1 ∧
      claimed.Undisturbed "t" "w" [.release "t" "v"] ∧
      ∃ t, (claimed.after [.release "t" "v"]).update { c with state := .requesting } = .ok t := by
  intro new claim c claimed
  have hc : c ∈ ((empty.after [.create new]).claim Transfer.State.actionable 1 claim).1 := by
    decide +kernel
  have hcalm : claimed.Undisturbed "t" "w" [.release "t" "v"] :=
    ⟨fun h => absurd h.2 (by decide), trivial⟩
  have hlaw := update_iff_undisturbed [.create new] [.release "t" "v"] Transfer.State.actionable 1
    claim c hc { c with state := .requesting } rfl rfl claim.lease rfl rfl
  exact ⟨hc, hcalm, hlaw.1.2 hcalm⟩

end Transfers
end Connector
