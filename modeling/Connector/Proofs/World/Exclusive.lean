import Connector.Proofs.Config.Validation
import Connector.Proofs.Transfer.Claimability
import Connector.Proofs.World.Timing

/-!
# Attempts exclude each other

Nothing but its lease keeps others from a transfer that is being attempted, and leases end by
themselves.  In a punctual run an attempt ends before its lease does, and as long as it goes on the
record carries just that lease: nobody else can claim it, and nobody else's write or release
touches it.  Statements:

* `Ledger.IsExclusive` — what keeps attempts apart;
* `isExclusive_turn` — every punctual turn keeps it up;
* `attempts_exclusive` — the attempts of a punctual run end before their leases, and those on one
  transfer follow each other.
-/

namespace Connector

/-- Replacing a member keeps a list in order if the new member has the place of the old one. -/
theorem pairwise_set {α : Type} {R : α → α → Prop} {as : List α} {i : Nat} {a b : α}
    (h : as.Pairwise R) (ha : as[i]? = some a) (hbefore : ∀ x, R x a → R x b)
    (hafter : ∀ x, R a x → R b x) : (as.set i b).Pairwise R := by
  induction as generalizing i with
  | nil => exact h
  | cons x rest ih =>
      obtain ⟨hx, hrest⟩ := List.pairwise_cons.1 h
      cases i with
      | zero =>
          cases ha
          exact List.pairwise_cons.2 ⟨fun y hy => hafter y (hx y hy), hrest⟩
      | succ i =>
          have ha' : rest[i]? = some a := ha
          refine List.pairwise_cons.2 ⟨?_, ih hrest ha'⟩
          intro y hy
          rcases List.mem_or_eq_of_mem_set hy with hy | rfl
          · exact hx y hy
          · exact hbefore x (hx a (List.mem_of_getElem? ha'))

namespace Job

/-- If two attempts are on one transfer, the one has ended when the other begins. -/
def Before (j j' : Job) : Prop :=
  j.claimed.id = j'.claimed.id → ∃ t, j.endedAt? = some t ∧ t ≤ j'.claimedAt

variable {now : Instant} {s t : Transfers} {j j' x : Job}

theorem Before.continues (h : x.Before j) (hj : j'.Continues j) : x.Before j' := by
  intro hid
  rw [hj.claimed_eq] at hid
  rw [hj.claimedAt_eq]
  exact h hid

theorem Before.step (h : j.Before x) (step : j.Step now s j' t) (present : j.lostAt = none) :
    j'.Before x := by
  intro hid
  rw [step.continues.claimed_eq] at hid
  obtain ⟨u, hu, hle⟩ := h hid
  exact ⟨u, step.endedAt? present hu, hle⟩

/-- A step leaves all records alone, or ends an attempt that went on. -/
theorem Step.eq_or_ends (h : j.Step now s j' t) (present : j.lostAt = none) :
    t = s ∨ (j.IsOpen ∧ j'.endedAt? = some now) := by
  cases h with
  | persisted phase_eq | released phase_eq =>
      have going : j.IsOpen := by rw [IsOpen, Job.endedAt?, phase_eq, present]
      exact Or.inr ⟨going, rfl⟩
  | begun | noted | asked | placed | answered | failed | abandoned | told | lost => exact Or.inl rfl

/-- A step of an attempt leaves the records of the other transfers alone. -/
theorem Step.find?_of_ne (h : j.Step now s j' t) (hs : s.IsKeyed) (hj : j.Sound s) {id : String}
    (hid : id ≠ j.claimed.id) : t.find? id = s.find? id := by
  cases h with
  | @persisted p _ phase_eq taken =>
      obtain ⟨-, rfl⟩ := (hj.update_eq_ok_iff phase_eq).1 taken
      obtain ⟨_, result⟩ := (hj.reaches_of_running phase_eq).result
      have hp : id ≠ p.id := by rwa [result.continues.id_eq]
      rw [Transfers.find?_put, if_neg hp]
  | released =>
      have hop : (Operation.release j.claimed.id j.holder).subject? = some j.claimed.id := rfl
      exact Transfers.find?_apply_of_subject_ne hs hop hid
  | begun | noted | asked | placed | answered | failed | abandoned | told | lost => rfl

/-- The lease of an attempt that keeps to its time lasts longer than the attempt does so far. -/
theorem IsTimed.lasts {o : Config.Orchestration} (timed : j.IsTimed o now) (sound : j.Sound s)
    (hlonger : (o.dispatchTimeout.nanos : Int) < o.leaseDuration.toDistance) :
    ∃ lease, j.claimed.lease = some lease ∧ j.claimedAt ≤ j.endedAt?.getD now ∧
      j.endedAt?.getD now < lease.expiresAt := by
  refine ⟨_, sound.lease_eq, ?_⟩
  have hexpires : (SiteM.claimOf j.setup j.holder j.claimedAt).lease.expiresAt.nanos =
      j.claimedAt.nanos + o.leaseDuration.toDistance := by
    rw [← timed.setup_eq]
    rfl
  show j.claimedAt.nanos ≤ (j.endedAt?.getD now).nanos ∧
    (j.endedAt?.getD now).nanos < Instant.nanos _
  rw [hexpires]
  cases hended : j.endedAt? with
  | none =>
      have hlimit := timed.going hended
      have hstart := timed.claimedAt_le
      simp only [Option.getD_none]
      omega
  | some u =>
      obtain ⟨hstart, -, hlimit⟩ := timed.ended u hended
      simp only [Option.getD_some]
      omega

end Job

namespace Ledger

/-- Whether an action keeps to time: all workers have one configuration, and time goes on only if
nothing is late then. -/
def isPunctual (o : Config.Orchestration) (l : Ledger) : Action → Bool
  | .claim setup _ => decide (setup.orchestration = o)
  | .pass t => decide (l.now.nanos ≤ t.nanos) && l.jobs.all (Job.isPatient o.dispatchTimeout t)
  | .create _ _ _ | .deliver _ _ | .advance _ _ | .answer _ _ | .lose _ | .upkeep _ => true

/-- What keeps attempts apart: they keep to their time, as long as one goes on its lease is the
one that is stored, and those on one transfer follow each other. -/
structure IsExclusive (o : Config.Orchestration) (l : Ledger) : Prop where
  timed : ∀ j ∈ l.jobs, j.IsTimed o l.now
  leased : ∀ j ∈ l.jobs, j.IsOpen →
    ∃ r, l.transfers.find? j.claimed.id = some r ∧ r.lease = j.claimed.lease
  ordered : l.jobs.Pairwise Job.Before

variable {o : Config.Orchestration} {l l' : Ledger} {a : Action} {j : Job}

/-- The jobs of one ledger are kept apart as long as the records stored for them carry the same
leases. -/
theorem IsExclusive.keep (h : l.IsExclusive o) {t : Transfers}
    (ht : ∀ id r, l.transfers.find? id = some r →
      ∃ r', t.find? id = some r' ∧ r'.lease = r.lease) :
    IsExclusive o { l with transfers := t } where
  timed := h.timed
  leased j hj going := by
    obtain ⟨r, hr, hlease⟩ := h.leased j hj going
    obtain ⟨r', hr', hlease'⟩ := ht _ r hr
    exact ⟨r', hr', hlease'.trans hlease⟩
  ordered := h.ordered

section Claims
variable (hl : l.Sound) (hlonger : (o.dispatchTimeout.nanos : Int) < o.leaseDuration.toDistance)
include hl hlonger

/-- Nobody can claim a transfer while an attempt on it goes on. -/
theorem IsExclusive.not_isClaimable (h : l.IsExclusive o) (hj : j ∈ l.jobs) (going : j.IsOpen)
    {r : Transfer} (hr : l.transfers.find? j.claimed.id = some r) :
    r.isClaimable l.now = false := by
  obtain ⟨r', hr', hlease⟩ := h.leased j hj going
  obtain rfl : r = r' := Option.some.inj (hr.symm.trans hr')
  obtain ⟨lease, hj_lease, -, hlasts⟩ := (h.timed j hj).lasts (hl.jobs j hj) hlonger
  rw [show j.endedAt? = none from going, Option.getD_none] at hlasts
  rw [Bool.eq_false_iff]
  intro claimable
  have hfree := (Transfer.isClaimable_iff.1 claimable).2.1
  exact absurd (hfree lease (hlease.trans hj_lease)) (Int.not_le.2 hlasts)

/-- A claim chooses no transfer that is being attempted. -/
theorem IsExclusive.id_ne_of_mem_chosen (h : l.IsExclusive o) (hj : j ∈ l.jobs)
    (going : j.IsOpen) {states : List Transfer.State} {batch : Nat} {c : Claim}
    (hnow : c.now = l.now) {p : Transfer} (hp : p ∈ l.transfers.chosen states batch c) :
    p.id ≠ j.claimed.id := by
  intro hid
  obtain ⟨hstored, -, hclaimable⟩ := Transfers.mem_chosen hp
  have hfind := (Transfers.mem_values_iff hl.isKeyed).1 hstored
  rw [hid] at hfind
  rw [hnow, h.not_isClaimable hl hlonger hj going hfind] at hclaimable
  cases hclaimable

/-- A claim leaves a transfer that is being attempted alone. -/
theorem IsExclusive.find?_claimOf (h : l.IsExclusive o) (hj : j ∈ l.jobs) (going : j.IsOpen)
    (setup : Setup) (holder : String) {r : Transfer}
    (hr : l.transfers.find? j.claimed.id = some r) :
    (l.claimOf setup holder).2.find? j.claimed.id = some r := by
  have hfree : ¬ r ∈ l.transfers.chosen Transfer.State.actionable
      setup.orchestration.batchSize (SiteM.claimOf setup holder l.now) := by
    intro hmem
    have hid := Transfers.id_of_find? hl.isKeyed hr
    exact h.id_ne_of_mem_chosen hl hlonger hj going rfl hmem hid
  have hfind := Transfers.find?_claim hl.isKeyed Transfer.State.actionable
    setup.orchestration.batchSize (SiteM.claimOf setup holder l.now) j.claimed.id
  rw [hr, Option.map_some, if_neg hfree] at hfind
  exact hfind

/-- A claim keeps attempts apart. -/
theorem IsExclusive.claim (h : l.IsExclusive o) {setup : Setup}
    (hsetup : setup.orchestration = o) (holder : String) :
    IsExclusive o { l with
      transfers := (l.claimOf setup holder).2
      jobs := l.jobs ++ (l.claimOf setup holder).1.map (.fresh setup holder l.now) } := by
  refine ⟨?_, ?_, ?_⟩
  · intro j hj
    rcases List.mem_append.1 hj with hj | hj
    · exact h.timed j hj
    · obtain ⟨p, -, rfl⟩ := List.mem_map.1 hj
      exact Job.isTimed_fresh hsetup
  · intro j hj going
    rcases List.mem_append.1 hj with hj | hj
    · obtain ⟨r, hr, hlease⟩ := h.leased j hj going
      exact ⟨r, h.find?_claimOf hl hlonger hj going setup holder hr, hlease⟩
    · obtain ⟨p, hp, rfl⟩ := List.mem_map.1 hj
      exact ⟨p, (Transfers.holds_of_mem_claim hl.isKeyed hp).1, rfl⟩
  · refine List.pairwise_append.2 ⟨h.ordered, ?_, ?_⟩
    · -- No two of the new attempts are on one transfer.
      refine List.pairwise_map.2 ((Transfers.pairwise_id_claim hl.isKeyed _ _ _).imp ?_)
      exact fun hne hid => absurd hid hne
    · intro j hj j' hj' hid
      obtain ⟨p, hp, rfl⟩ := List.mem_map.1 hj'
      obtain ⟨q, hq, rfl⟩ := Transfers.mem_claim_iff.1 hp
      cases hended : j.endedAt? with
      | none =>
          have hne := h.id_ne_of_mem_chosen hl hlonger hj hended rfl hq
          exact absurd hid.symm hne
      | some t => exact ⟨t, rfl, ((h.timed j hj).ended t hended).2.1⟩

end Claims

/-- Two attempts on one transfer do not both go on. -/
theorem IsExclusive.eq_of_isOpen (h : l.IsExclusive o) {i k : Nat} {j j' : Job}
    (hj : l.jobs[i]? = some j) (hj' : l.jobs[k]? = some j') (going : j.IsOpen)
    (going' : j'.IsOpen) (hid : j.claimed.id = j'.claimed.id) : i = k := by
  obtain ⟨hi, rfl⟩ := List.getElem?_eq_some_iff.1 hj
  obtain ⟨hk, rfl⟩ := List.getElem?_eq_some_iff.1 hj'
  have hordered := List.pairwise_iff_getElem.1 h.ordered
  rcases Nat.lt_trichotomy i k with hlt | heq | hlt
  · obtain ⟨t, ht, -⟩ := hordered i k hi hk hlt hid
    exact absurd (ht.symm.trans going) (Option.some_ne_none _)
  · exact heq
  · obtain ⟨t, ht, -⟩ := hordered k i hk hi hlt hid.symm
    exact absurd (ht.symm.trans going') (Option.some_ne_none _)

/-- A step keeps attempts apart: it concerns no other transfer that is being attempted. -/
theorem IsExclusive.step (h : l.IsExclusive o) (hl : l.Sound) {i : Nat} {j j' : Job}
    {t : Transfers} (found : l.jobs[i]? = some j) (present : j.lostAt = none)
    (step : j.Step l.now l.transfers j' t) :
    IsExclusive o { l with transfers := t, jobs := l.jobs.set i j' } := by
  have hmem : j ∈ l.jobs := List.mem_of_getElem? found
  have hsound := hl.jobs j hmem
  refine ⟨?_, ?_, ?_⟩
  · intro x hx
    rcases List.mem_or_eq_of_mem_set hx with hx | rfl
    · exact h.timed x hx
    · exact step.isTimed present hsound.isCourse (h.timed j hmem)
  · intro x hx going
    obtain ⟨k, hk⟩ := List.getElem?_of_mem hx
    by_cases hik : i = k
    · subst hik
      obtain ⟨hlt, -⟩ := List.getElem?_eq_some_iff.1 found
      rw [List.getElem?_set_self hlt] at hk
      cases hk
      rw [step.continues.claimed_eq]
      rcases step.eq_or_ends present with rfl | ⟨-, hends⟩
      · exact h.leased j hmem (step.isOpen present going)
      · exact absurd (hends.symm.trans going) (Option.some_ne_none _)
    · rw [List.getElem?_set_ne hik] at hk
      obtain ⟨r, hr, hlease⟩ := h.leased x (List.mem_of_getElem? hk) going
      refine ⟨r, ?_, hlease⟩
      rcases step.eq_or_ends present with rfl | ⟨hgoing, -⟩
      · exact hr
      · have hid : x.claimed.id ≠ j.claimed.id :=
          fun hid => hik (h.eq_of_isOpen found hk hgoing going hid.symm)
        rw [step.find?_of_ne hl.isKeyed hsound hid, hr]
  · exact pairwise_set h.ordered found (fun x hx => hx.continues step.continues)
      (fun x hx => hx.step step present)

/-- An access that creates a record or delivers a signal leaves all leases alone. -/
theorem lease_of_apply (hl : l.Sound) {op : Operation}
    (hop : (∃ p, op = .create p) ∨ ∃ id x, op = .signal id x) (id : String) (r : Transfer)
    (hr : l.transfers.find? id = some r) :
    ∃ r', (l.transfers.apply op).find? id = some r' ∧ r'.lease = r.lease := by
  rcases Transfers.find?_apply hl.isKeyed hr op with ⟨r', heff, hr'⟩ | ⟨-, hr'⟩
  · refine ⟨r', hr', ?_⟩
    cases heff with
    | signalled accepted => rw [Transfer.bumped, Transfer.accept_frame accepted]
    | leased | written | released => simp at hop
  · exact ⟨r, hr', rfl⟩

/-- Every punctual turn keeps attempts apart. -/
theorem isExclusive_turn (hl : l.Sound)
    (hlonger : (o.dispatchTimeout.nanos : Int) < o.leaseDuration.toDistance) (h : l.Turn a l')
    (punctual : l.isPunctual o a = true) (hall : l.IsExclusive o) : l'.IsExclusive o := by
  cases h with
  | still => exact hall
  | created _ added =>
      rw [← Transfers.apply_create_of_ok added]
      exact hall.keep (lease_of_apply hl (Or.inl ⟨_, rfl⟩))
  | signalled taken =>
      rw [← Transfers.apply_signal_of_ok taken]
      exact hall.keep (lease_of_apply hl (Or.inr ⟨_, _, rfl⟩))
  | @claimed setup holder => exact hall.claim hl hlonger (of_decide_eq_true punctual) holder
  | worked found present step => exact hall.step hl found present step
  | passed t =>
      obtain ⟨hlater, hpatient⟩ := (Bool.and_eq_true_iff).1 punctual
      refine ⟨?_, hall.leased, hall.ordered⟩
      intro j hj
      exact Job.isTimed_pass (hall.timed j hj) (of_decide_eq_true hlater)
        (List.all_eq_true.1 hpatient j hj)

end Ledger

namespace World

/-- Whether a run keeps to time. -/
def keepsTime (o : Config.Orchestration) (w : World) : List Action → Bool
  | [] => true
  | a :: rest => w.ledger.isPunctual o a && keepsTime o (w.act a) rest

/-- A punctual run keeps attempts apart. -/
theorem isExclusive_run {o : Config.Orchestration}
    (hlonger : (o.dispatchTimeout.nanos : Int) < o.leaseDuration.toDistance) {w : World}
    (hw : w.Sound) (hall : w.ledger.IsExclusive o) (actions : List Action)
    (punctual : w.keepsTime o actions = true) : (w.run actions).ledger.IsExclusive o := by
  induction actions generalizing w with
  | nil => exact hall
  | cons a rest ih =>
      obtain ⟨hnow, hlater⟩ := (Bool.and_eq_true_iff).1 punctual
      obtain ⟨hturn, -⟩ := turns_act hw.calm a
      have hnext := Ledger.isExclusive_turn hw.ledger hlonger hturn hnow hall
      exact ih (sound_act hw a) hnext hlater

/-- A punctual run of workers whose configuration is in order, with leases that are not cut, keeps
attempts apart. -/
theorem isExclusive_run_of_validate {m : Config.Manifest} (valid : m.validate = .ok ())
    (uncut : m.spec.orchestrator.leaseDuration.toDistance =
      m.spec.orchestrator.leaseDuration.nanos)
    {now : Instant} {capacity : Nat} {liveness : Option Int} {actions : List Action}
    (punctual : (start now capacity liveness).keepsTime m.spec.orchestrator actions = true) :
    ((start now capacity liveness).run actions).ledger.IsExclusive m.spec.orchestrator := by
  have hlonger : (m.spec.orchestrator.dispatchTimeout.nanos : Int) <
      m.spec.orchestrator.leaseDuration.toDistance := by
    rw [uncut]
    exact Int.ofNat_lt.2 (Config.dispatchTimeout_lt_of_validate valid)
  have hempty : (start now capacity liveness).ledger.IsExclusive m.spec.orchestrator :=
    ⟨by simp [start, ledger], by simp [start, ledger], List.Pairwise.nil⟩
  exact isExclusive_run hlonger (sound_start now capacity liveness) hempty actions punctual

/-- **Attempts exclude each other.**  Let the workers have a configuration that is in order, whose
leases are not so long that they are cut, and let a run be punctual.  Then every attempt makes one
call at most and ends before the lease that it was given, as far as it has come; and of two
attempts on one transfer the first has ended when the second begins. -/
theorem attempts_exclusive (m : Config.Manifest) (valid : m.validate = .ok ())
    (uncut : m.spec.orchestrator.leaseDuration.toDistance =
      m.spec.orchestrator.leaseDuration.nanos)
    (now : Instant) (capacity : Nat) (liveness : Option Int) (actions : List Action)
    (punctual : (start now capacity liveness).keepsTime m.spec.orchestrator actions = true) :
    let w := (start now capacity liveness).run actions
    (∀ j ∈ w.jobs, j.calls.length ≤ 1 ∧
      ∃ lease, j.claimed.lease = some lease ∧ j.claimedAt ≤ j.endedAt?.getD w.site.now ∧
        j.endedAt?.getD w.site.now < lease.expiresAt) ∧
    w.jobs.Pairwise fun j j' => j.claimed.id = j'.claimed.id →
      ∃ t, j.endedAt? = some t ∧ t ≤ j'.claimedAt := by
  intro w
  have hstart := sound_start now capacity liveness
  have hw : w.Sound := sound_run hstart actions
  have hlonger : (m.spec.orchestrator.dispatchTimeout.nanos : Int) <
      m.spec.orchestrator.leaseDuration.toDistance := by
    rw [uncut]
    exact Int.ofNat_lt.2 (Config.dispatchTimeout_lt_of_validate valid)
  have hempty : (start now capacity liveness).ledger.IsExclusive m.spec.orchestrator :=
    ⟨by simp [start, ledger], by simp [start, ledger], List.Pairwise.nil⟩
  have hall : w.ledger.IsExclusive m.spec.orchestrator :=
    isExclusive_run hlonger hstart hempty actions punctual
  refine ⟨?_, hall.ordered⟩
  intro j hj
  have hsound := hw.ledger.jobs j hj
  exact ⟨Job.calls_le_one hsound.isCourse, (hall.timed j hj).lasts hsound hlonger⟩

/-- Two workers take turns at a transfer.  While the one waits for an answer, for as long as it
may, the other claims in vain. -/
theorem attempts_exclusive_of_two_workers :
    let m : Config.Manifest := .standard "h"
    let request : DataRequest :=
      ⟨"r", "a", "s", "c", "http://c", "p", ⟨"blob", []⟩, ⟨"http", []⟩, []⟩
    let setup : Setup := ⟨m.spec.connector, m.spec.orchestrator⟩
    let oracle : (q : Inquiry) → q.Answer
      | .judge _ _ => Decision.deny []
      | .select _ => Except.error .clock
      | .find _ => Except.ok none
    let actions : List Action := [.create "t" .consumer request,
      .claim setup "v", .advance 0 oracle, .advance 0 oracle,
      .claim setup "w", .advance 1 oracle, .advance 1 oracle,
      .pass ⟨30000000000⟩, .claim setup "v",
      .answer 1 fun _ => none, .advance 1 oracle, .advance 1 oracle, .pass ⟨40000000000⟩,
      .claim setup "v"]
    let w := (start ⟨0⟩ 16 none).run actions
    m.validate = .ok () ∧ (start ⟨0⟩ 16 none).keepsTime m.spec.orchestrator actions = true ∧
    w.jobs.map (fun j => (j.claimed.id, j.holder, j.calls.length)) =
      [("t", "v", 0), ("t", "w", 1), ("t", "v", 0)] ∧
    w.jobs.Pairwise fun j j' => j.claimed.id = j'.claimed.id →
      ∃ t, j.endedAt? = some t ∧ t ≤ j'.claimedAt := by
  intro m request setup oracle actions w
  have hfault : m.fault? = none := by decide +kernel
  have valid : m.validate = .ok () := by rw [Config.Manifest.validate, hfault]
  have uncut : m.spec.orchestrator.leaseDuration.toDistance =
      m.spec.orchestrator.leaseDuration.nanos := by decide +kernel
  have punctual : (start ⟨0⟩ 16 none).keepsTime m.spec.orchestrator actions = true := by
    decide +kernel
  have hjobs : w.jobs.map (fun j => (j.claimed.id, j.holder, j.calls.length)) =
      [("t", "v", 0), ("t", "w", 1), ("t", "v", 0)] := by decide +kernel
  exact ⟨valid, punctual, hjobs,
    (attempts_exclusive m valid uncut ⟨0⟩ 16 none actions punctual).2⟩

end World
end Connector
