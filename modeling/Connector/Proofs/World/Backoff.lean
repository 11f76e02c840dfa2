import Connector.Proofs.Worker.Urgency
import Connector.Proofs.World.Claimability
import Connector.Proofs.World.InTurn

/-!
# Transfers that are left alone

After a failure that may pass a record says until when it is to be left alone.  Before that instant
it is claimed for urgent matters only, about which nobody outside is asked, and which take the
transfer out of its state.  Hence, as long as it stays in the state, whoever claimed it since the
failure calls nobody; and whoever had claimed it before can no longer write.  The attempt that
failed was the last one that was claimed, so that the others had placed their calls by then, unless
they were overtaken on the way; and where workers take turns nobody is.  Statements:

* `isUrgent_of_early` — what is claimed before its time is urgent;
* `silent_of_isUrgent` — a job on an urgent record calls nobody;
* `isLeftAlone_of_writing`, `IsLeftAlone.act`, `IsLeftAlone.run` — what holds of the jobs from the
  failure on, as long as the transfer stays and its time has not come;
* `backoff_honoured` — no call is made before its time;
* `nobody_called_of_punctual` — nor where workers come between each other, if they are punctual.
-/

namespace Connector

/-- What is claimed before its time is urgent. -/
theorem Transfer.isUrgent_of_early {r : Transfer} {t u : Instant}
    (claimable : r.isClaimable t = true) (ht : r.retryAt = some u) (early : t < u) :
    r.isUrgent = true := by
  obtain ⟨-, -, urgent | due⟩ := isClaimable_iff.1 claimable
  · exact urgent
  · exact absurd (due u ht) (Int.not_le.2 early)

theorem Transfer.StandsAs.retryAt_eq {r q : Transfer} (h : r.StandsAs q) :
    r.retryAt = q.retryAt := by
  unfold StandsAs at h
  rw [h]

namespace Job

variable {now : Instant} {s t : Transfers} {j j' : Job}

/-- A job on an urgent record has called nobody, and is not about to. -/
theorem silent_of_isUrgent (course : j.IsCourse) (urgent : j.claimed.isUrgent = true) :
    j.calls = [] ∧ j.placing? = none := by
  have silent : ∀ {rest}, j.Reaches rest →
      Exchange.calls j.exchanges = [] ∧ ∀ k next, rest ≠ .call k next := by
    rintro rest ⟨b, hcourse⟩
    exact hcourse.silent
      (Attempt.callsWithin_on_of_isUrgent (fun _ => False) j.setup b urgent)
  unfold IsCourse at course
  unfold calls placing?
  cases hphase : j.phase with
  | fresh =>
      rw [hphase] at course
      simp [course]
  | running rest =>
      rw [hphase] at course
      obtain ⟨hcalls, hrest⟩ := silent course
      refine ⟨by simp [hcalls], ?_⟩
      cases rest with
      | call k next => exact absurd rfl (hrest k next)
      | done | note | ask => rfl
  | calling k since next =>
      rw [hphase] at course
      exact absurd rfl ((silent course).2 k next)
  | persisted p u isTold =>
      rw [hphase] at course
      simp [(silent course).1]
  | yielding | released u =>
      rw [hphase] at course
      obtain ⟨result, hreaches⟩ := course
      simp [(silent hreaches).1]

end Job

namespace World

variable {o : Config.Orchestration} {w : World} {a : Action} {i n : Nat} {j j' : Job}
  {id : String} {r : Transfer} {s : Transfer.State} {u : Instant} {x : Writing}

theorem outdates_act (hw : w.Sound) {c : Transfer} (h : w.site.transfers.Outdates c) (a : Action) :
    (w.act a).site.transfers.Outdates c := by
  rw [transfers_act hw.calm a]
  exact Transfers.outdates_after hw.ledger.isKeyed h _

/-- A copy that was handed out is not what is stored once the lease is off. -/
theorem outdates_of_unleased (hw : w.Sound) (hr : w.find? id = some r) (unleased : r.lease = none)
    (hj : j ∈ w.jobs) (hid : j.claimed.id = id) : w.site.transfers.Outdates j.claimed := by
  have hsound := hw.ledger.jobs j hj
  refine hsound.copy.resolve_left fun hholds => ?_
  have heq : some j.claimed = some r := (hid ▸ hholds : w.find? id = some j.claimed).symm.trans hr
  cases heq
  cases hsound.lease_eq.symm.trans unleased

/-- An instant has not come yet, and a transfer is in a state. -/
def staysUntil (id : String) (s : Transfer.State) (u : Instant) (w : World) : Bool :=
  decide (w.site.now < u) && (w.find? id).any (·.state == s)

theorem staysUntil_iff :
    w.staysUntil id s u = true ↔ w.site.now < u ∧ ∃ r, w.find? id = some r ∧ r.state = s := by
  simp [staysUntil, Option.any_eq_true]

/-- A transfer is in a state and to be left alone until an instant.  What was handed out of it to
the first jobs, so many of them, is outdated; and to the others it was handed out for urgent
matters. -/
structure IsLeftAlone (id : String) (s : Transfer.State) (u : Instant) (n : Nat) (w : World) :
    Prop where
  waits : ∃ r, w.find? id = some r ∧ r.state = s ∧ r.retryAt = some u
  grown : n ≤ w.jobs.length
  outdated : ∀ i j, i < n → w.jobs[i]? = some j → j.claimed.id = id →
    w.site.transfers.Outdates j.claimed
  urgent : ∀ i j, n ≤ i → w.jobs[i]? = some j → j.claimed.id = id → j.claimed.isUrgent = true

/-- What is written back is stored without a lease. -/
theorem find?_act_of_writing? (hw : w.Sound) (hx : w.writing? id a = some x) :
    ∃ r, (w.act a).find? id = some (x.result.written r) := by
  cases hr : w.find? id with
  | none =>
      rw [writing?_of_find?_eq_none hr] at hx
      cases hx
  | some r => exact ⟨r, (of_writing?_eq_some hw hr hx).2.1⟩

/-- A transfer is left alone from the moment on that this is written to its record. -/
theorem isLeftAlone_of_writing (hw : w.Sound) (hx : w.writing? id a = some x)
    (hretry : x.result.retryAt = some u) :
    (w.act a).IsLeftAlone id x.result.state u w.jobs.length := by
  obtain ⟨r, hr⟩ := find?_act_of_writing? hw hx
  refine ⟨⟨_, hr, rfl, hretry⟩, length_le_act hw a, fun i j _ hj hid => ?_, fun i j hi hj _ => ?_⟩
  · exact outdates_of_unleased (sound_act hw a) hr rfl (List.mem_of_getElem? hj) hid
  · -- Who writes does not claim.
    obtain ⟨setup, holder, p, rfl, -⟩ := claimed_of_new hw (List.getElem?_eq_none_iff.2 hi) hj
    cases hx

/-- Nothing is written to a transfer that is left alone, unless it leaves its state. -/
theorem IsLeftAlone.not_written (h : w.IsLeftAlone id s u n) (hw : w.Sound)
    (hjobs : w.ledger.HandsOutActionable) (hx : w.writing? id a = some x) :
    x.result.state ≠ s := by
  obtain ⟨r, hr, rfl, -⟩ := h.waits
  obtain ⟨hclaimed, -, -, j, hj, p, hphase, rfl⟩ := of_writing?_eq_some hw hr hx
  obtain rfl : j.claimed = r := hclaimed
  have hid : j.claimed.id = id := Transfers.id_of_find? hw.ledger.isKeyed hr
  have hsound := hw.ledger.jobs j hj
  obtain ⟨i, hi⟩ := List.getElem?_of_mem hj
  by_cases hin : i < n
  · have hholds : w.site.transfers.Holds j.claimed := by
      rw [← hid] at hr
      exact hr
    have hlease : j.claimed.lease.isSome = true := by rw [hsound.lease_eq]; rfl
    exact absurd hholds ((h.outdated i j hin hi hid).not_holds hlease)
  · have urgent := h.urgent i j (Nat.le_of_not_lt hin) hi hid
    obtain ⟨b, hyields⟩ := hsound.reaches_of_running hphase
    obtain ⟨step, t, hne, hpasses⟩ := Attempt.passes_of_isUrgent (hjobs j hj) urgent hyields
    exact Transfer.State.next?_ne hpasses.edge hne

/-- What is claimed of a transfer that is left alone is claimed for urgent matters. -/
theorem IsLeftAlone.isUrgent_of_claim (h : w.IsLeftAlone id s u n) (hw : w.Sound)
    (early : w.site.now < u) {setup : Setup} {holder : String} {p : Transfer}
    (hp : p ∈ (w.ledger.claimOf setup holder).1) (hid : p.id = id) : p.isUrgent = true := by
  obtain ⟨r, hr, -, hretry⟩ := h.waits
  obtain ⟨q, hq, rfl⟩ := Transfers.mem_claim_iff.1 hp
  obtain ⟨-, -, claimable⟩ := Transfers.mem_chosen hq
  have hstored : w.find? q.id = some q := Transfers.find?_of_mem_chosen hw.ledger.isKeyed hq
  rw [show q.id = id from hid, hr] at hstored
  cases hstored
  have urgent : r.isUrgent = true := Transfer.isUrgent_of_early claimable hretry early
  exact urgent

/-- **A transfer goes on to be left alone** by whatever happens before its time, as long as it stays
in its state. -/
theorem IsLeftAlone.act (h : w.IsLeftAlone id s u n) (hw : w.Sound)
    (hjobs : w.ledger.HandsOutActionable) (before : w.staysUntil id s u = true)
    (after : (w.act a).staysUntil id s u = true) : (w.act a).IsLeftAlone id s u n where
  waits := by
    obtain ⟨r, hr, hstate, hretry⟩ := h.waits
    obtain ⟨-, q, hq, hq_state⟩ := staysUntil_iff.1 after
    rcases find?_act_writing hw hr a with ⟨x, hx, -, hr'⟩ | ⟨-, r', hr', hstands, -⟩
    · cases hq.symm.trans hr'
      exact absurd hq_state (h.not_written hw hjobs hx)
    · exact ⟨r', hr', hstands.state_eq.trans hstate, hstands.retryAt_eq.trans hretry⟩
  grown := Nat.le_trans h.grown (length_le_act hw a)
  outdated i j' hi hj' hid := by
    have hj := List.getElem?_eq_getElem (Nat.lt_of_lt_of_le hi h.grown)
    have heq := claimed_eq_act hw hj hj'
    rw [heq] at hid ⊢
    exact outdates_act hw (h.outdated i _ hi hj hid) a
  urgent i j' hi hj' hid := by
    cases hj : w.jobs[i]? with
    | some j =>
        have heq := claimed_eq_act hw hj hj'
        rw [heq] at hid ⊢
        exact h.urgent i j hi hj hid
    | none =>
        obtain ⟨setup, holder, p, -, hp, rfl⟩ := claimed_of_new hw hj hj'
        exact h.isUrgent_of_claim hw (staysUntil_iff.1 before).1 hp hid

theorem IsLeftAlone.run {actions : List Action} (h : w.IsLeftAlone id s u n) (hw : w.Sound)
    (hjobs : ∀ played, (w.run played).ledger.HandsOutActionable)
    (stays : Throughout (·.staysUntil id s u = true) w actions) :
    (w.run actions).IsLeftAlone id s u n := by
  induction actions generalizing w with
  | nil => exact h
  | cons a rest ih =>
      obtain ⟨stays_now, stays_later⟩ := throughout_cons_iff.1 stays
      have hnext := h.act hw (hjobs []) stays_now (stays_later [] List.nil_prefix)
      exact ih hnext (sound_act hw a) (fun played => hjobs (a :: played)) stays_later

/-- As long as a transfer is left alone, whoever claims it calls nobody. -/
theorem IsLeftAlone.silent (h : w.IsLeftAlone id s u n) (hw : w.Sound) (hi : n ≤ i)
    (hj : w.jobs[i]? = some j) (hid : j.claimed.id = id) : j.calls = [] ∧ j.placing? = none :=
  Job.silent_of_isUrgent (hw.ledger.jobs j (List.mem_of_getElem? hj)).isCourse
    (h.urgent i j hi hj hid)

/-- Who is not about to call places no call. -/
theorem placed?_eq_none (hjob : w.job? i = some j) (hplacing : j.placing? = none)
    (oracle : (q : Inquiry) → q.Answer) : w.placed? (.advance i oracle) = none := by
  rw [placed?, hjob, Option.bind_some, hplacing]

/-! ## From the start -/

section Start
variable {now : Instant} {capacity : Nat} {liveness : Option Int} {before after : List Action}
  (hx : ((start now capacity liveness).run before).writing? id a = some x)
include hx

/-- What was written leaves the transfer alone in whatever follows, as long as it stays. -/
theorem isLeftAlone_run_of_writing (hretry : x.result.retryAt = some u)
    (stays : Throughout (·.staysUntil id x.result.state u = true)
      (((start now capacity liveness).run before).act a) after) :
    ((((start now capacity liveness).run before).act a).run after).IsLeftAlone id x.result.state u
      ((start now capacity liveness).run before).jobs.length := by
  have hw := sound_run (sound_start now capacity liveness) before
  refine (isLeftAlone_of_writing hw hx hretry).run (sound_act hw a) (fun played => ?_) stays
  rw [← run_cons, ← run_append]
  exact actionable_run now capacity liveness _

end Start

/-! ## Who had claimed the transfer before -/

/-- Once the lease is off, no attempt on the transfer goes on. -/
theorem not_isOpen_of_unleased (hw : w.Sound) (hall : w.ledger.IsExclusive o)
    (hr : w.find? id = some r) (unleased : r.lease = none) (hj : j ∈ w.jobs)
    (hid : j.claimed.id = id) : ¬ j.IsOpen := by
  intro going
  obtain ⟨q, hq, hlease⟩ := hall.leased j hj going
  rw [hid, show w.ledger.transfers.find? id = some r from hr] at hq
  cases hq
  cases (unleased.symm.trans hlease).trans (hw.ledger.jobs j hj).lease_eq

/-- A punctual run has been punctual all along. -/
theorem keepsTime_append {before after : List Action} :
    w.keepsTime o (before ++ after) = true ↔
      w.keepsTime o before = true ∧ (w.run before).keepsTime o after = true := by
  induction before generalizing w with
  | nil => simp [keepsTime]
  | cons a rest ih => simp only [List.cons_append, keepsTime, Bool.and_eq_true, ih, run_cons,
      and_assoc]

/-- Workers need not take turns if the run is punctual, their configuration is in order and their
leases are not cut: the attempt that was written back was the last one that went on. -/
theorem nobody_called_of_punctual {m : Config.Manifest} (valid : m.validate = .ok ())
    (uncut : m.spec.orchestrator.leaseDuration.toDistance =
      m.spec.orchestrator.leaseDuration.nanos)
    {now : Instant} {capacity : Nat} {liveness : Option Int} {before after : List Action}
    (punctual : (start now capacity liveness).keepsTime m.spec.orchestrator
      (before ++ a :: after) = true)
    (hx : ((start now capacity liveness).run before).writing? id a = some x)
    (hretry : x.result.retryAt = some u)
    (stays : Throughout (·.staysUntil id x.result.state u = true)
      (((start now capacity liveness).run before).act a) after)
    (hjob : ((((start now capacity liveness).run before).act a).run after).job? i = some j)
    (hid : j.claimed.id = id) (oracle : (q : Inquiry) → q.Answer) :
    ((((start now capacity liveness).run before).act a).run after).placed? (.advance i oracle) =
      none := by
  have hw := sound_run (sound_start now capacity liveness) before
  have hact := sound_act hw a
  have hv := sound_run hact after
  have halone := isLeftAlone_run_of_writing hx hretry stays
  rw [List.append_cons, keepsTime_append] at punctual
  have hall := isExclusive_run_of_validate valid uncut punctual.1
  rw [run_append] at hall
  obtain ⟨r, hr⟩ := find?_act_of_writing? hw hx
  obtain ⟨hj, -⟩ := job?_eq_some_iff.1 hjob
  by_cases hi : i < ((start now capacity liveness).run before).jobs.length
  · obtain ⟨k, hk⟩ : ∃ k, (((start now capacity liveness).run before).act a).jobs[i]? = some k :=
      ⟨_, List.getElem?_eq_getElem (Nat.lt_of_lt_of_le hi (length_le_act hw a))⟩
    obtain ⟨j', hj', hclaimed, stays_past⟩ := exists_job_run hact hk after
    cases hj.symm.trans hj'
    rw [hclaimed] at hid
    have ended := not_isOpen_of_unleased hact hall hr rfl (List.mem_of_getElem? hk) hid
    have past := stays_past (Job.not_isOnWay_of_ended ended)
    exact placed?_eq_none hjob (placing?_eq_none hv hjob past) oracle
  · exact placed?_eq_none hjob (halone.silent hv (Nat.le_of_not_lt hi) hj hid).2 oracle

end World
end Connector
