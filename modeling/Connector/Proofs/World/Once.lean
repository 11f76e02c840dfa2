import Connector.Proofs.Config.Validation
import Connector.Proofs.World.Access
import Connector.Proofs.World.Steady
import Mathlib.Data.List.Nodup

/-!
# Everything happens once

Whoever accepts a call is committed to it once, in a punctual run that is left alone: what the call
was for is written back at that very instant, and no later attempt comes back to the state in which
that call is made.  Statements:

* `commitments_nodup` — nobody is committed to the same twice;
* `isFollowedUp` — an update to the state that follows comes after every call that was accepted;
* `effects_happen_once` — of every such run.
-/

namespace Connector

/-- A transfer for which a commitment is sought, or on which it was made, is under way. -/
theorem Commitment.position_eq {k : Commitment} {p : Transfer} {s : Transfer.State}
    (hs : s = k.source ∨ s = k.target) (hstate : p.state = s) : p.position = s := by
  have hne : s ≠ .suspended := by
    rcases hs with rfl | rfl
    · cases k <;> decide
    · cases k <;> decide
  exact Transfer.position_eq_of hne (Or.inl hstate)

namespace World

variable {w : World} {i : Nat} {j : Job}

/-- What was committed to, by all attempts. -/
def commitments (w : World) : List (String × Commitment) :=
  w.jobs.flatMap fun j => Exchange.commitments j.exchanges

/-- A commitment is one to an accepted call. -/
theorem exists_call_of_mem_commitments {xs : List Exchange} {id : String} {k : Commitment}
    (h : (id, k) ∈ Exchange.commitments xs) :
    ∃ c answer t, .call c answer t ∈ xs ∧
      (Exchange.call c answer t).commitment? = some (id, k) := by
  obtain ⟨x, hx, hcommitment⟩ := List.mem_filterMap.1 h
  cases x with
  | inquiry q answer => cases hcommitment
  | call c answer t => exact ⟨c, answer, t, hx, hcommitment⟩

/-- Of two attempts on one transfer that keep their word the later one does not commit anybody to
what the earlier one did. -/
theorem commitments_disjoint {now : Instant} {j j' : Job} (hj : j.KeepsWord now)
    (hj' : j'.KeepsWord now) (hbefore : j.Before j')
    (hle : j.claimed.id = j'.claimed.id → ∀ p t isTold, j.phase = .persisted p t isTold →
      p.position.index ≤ j'.claimed.position.index) :
    List.Disjoint (Exchange.commitments j.exchanges) (Exchange.commitments j'.exchanges) := by
  rintro ⟨id, k⟩ hk hk'
  obtain ⟨c, answer, t, hx, haccepted⟩ := exists_call_of_mem_commitments hk
  obtain ⟨c', answer', t', hx', haccepted'⟩ := exists_call_of_mem_commitments hk'
  obtain ⟨hid, -, p, htarget, hsettled⟩ := hj c answer t hx id k haccepted
  obtain ⟨hid', hsource, -⟩ := hj' c' answer' t' hx' id k haccepted'
  have hsame := hid.symm.trans hid'
  rcases hsettled with ⟨isTold, hphase⟩ | ⟨present, -, rest, hphase, -⟩
  · -- The later attempt would have begun behind what the earlier one had written.
    have horder := hle hsame p t isTold hphase
    have hlt := k.index_source_lt
    rw [Commitment.position_eq (Or.inr rfl) htarget,
      Commitment.position_eq (Or.inl rfl) hsource] at horder
    exact absurd hlt (Nat.not_lt_of_le horder)
  · obtain ⟨u, hu, -⟩ := hbefore hsame
    rw [Job.endedAt?, hphase, present] at hu
    cases hu

/-- Nobody is committed to the same twice. -/
theorem commitments_nodup {o : Config.Orchestration} (hw : w.Sound)
    (hall : w.ledger.IsExclusive o) (hsteady : w.ledger.IsSteady) : w.commitments.Nodup := by
  refine List.nodup_flatMap.2 ⟨?_, ?_⟩
  · intro j hj
    have hcalls : (Exchange.calls j.exchanges).length ≤ 1 := by
      have hall := Job.calls_le_one (hw.ledger.jobs j hj).isCourse
      rw [Job.calls, List.length_append] at hall
      omega
    have hlength := Nat.le_trans (Exchange.length_commitments_le j.exchanges) hcalls
    rcases hlist : Exchange.commitments j.exchanges with _ | ⟨x, _ | ⟨y, rest⟩⟩
    · exact List.nodup_nil
    · exact List.nodup_singleton x
    · rw [hlist] at hlength
      simp at hlength
  · refine (hall.ordered.and hsteady.ordered).imp_of_mem ?_
    rintro j j' hj hj' ⟨hbefore, hle⟩
    exact commitments_disjoint (hsteady.wordKept j hj) (hsteady.wordKept j' hj') hbefore hle

/-- A job that has something to note goes on at once. -/
theorem act_advance_of_note (hjob : w.job? i = some j) {n : Note} {rest : Attempt}
    (hphase : j.phase = .running (.note n rest)) (oracle : (q : Inquiry) → q.Answer) :
    ∃ s, w.act (.advance i oracle) = ⟨s, w.jobs.set i (j.inPhase (.running rest))⟩ ∧
      w.site.Agrees s := by
  refine ⟨_, ?_, SiteM.agrees_note n.level n.message n.fields w.site⟩
  show w.onJob i (fun j => j.advance oracle) = _
  simp only [onJob, hjob, Job.advance, hphase]
  rfl

/-- A job that has come to a record that the store takes has written it back after a few steps of
its own. -/
theorem settles_by_advancing (calm : w.site.failing = []) (hj : w.jobs[i]? = some j)
    (present : j.lostAt = none) {rest : Attempt} (hphase : j.phase = .running rest) {p : Transfer}
    (hyields : rest.Yields [] p) {t : Transfers} (taken : w.site.transfers.update p = .ok t)
    (oracle : (q : Inquiry) → q.Answer) :
    ∃ n j', (w.run (List.replicate n (.advance i oracle))).jobs[i]? = some j' ∧
      j'.phase = .persisted p w.site.now false := by
  have hjob : w.job? i = some j := job?_eq_some_iff.2 ⟨hj, present⟩
  obtain ⟨hlt, -⟩ := List.getElem?_eq_some_iff.1 hj
  -- Nobody is asked any more; all that can come before the end are notes.
  induction rest generalizing w j with
  | done result =>
      obtain ⟨-, rfl⟩ := Attempt.yields_done_iff.1 hyields
      refine ⟨1, j.inPhase (.persisted p w.site.now false), ?_, rfl⟩
      show (w.onJob i fun j => j.advance oracle).jobs[i]? = _
      simp only [onJob, hjob, advance_of_taken calm hphase taken oracle]
      exact List.getElem?_set_self hlt
  | note n rest ih =>
      obtain ⟨s, hact, hagrees⟩ := act_advance_of_note hjob hphase oracle
      obtain ⟨transfers_eq, now_eq, failing_eq⟩ := hagrees
      have hi : (w.jobs.set i (j.inPhase (.running rest)))[i]? = some (j.inPhase (.running rest)) :=
        List.getElem?_set_self hlt
      have hlt' : i < (w.jobs.set i (j.inPhase (.running rest))).length := by
        rwa [List.length_set]
      obtain ⟨m, j', hj', hphase'⟩ := ih (w := ⟨s, _⟩) (failing_eq.trans calm) hi present rfl
        (Attempt.yields_note_iff.1 hyields) (transfers_eq ▸ taken)
        (job?_eq_some_iff.2 ⟨hi, present⟩) hlt'
      refine ⟨m + 1, j', ?_, ?_⟩
      · rw [List.replicate_succ, run_cons, hact]
        exact hj'
      · rw [hphase', now_eq]
  | ask =>
      obtain ⟨_, _, hxs, -⟩ := Attempt.yields_ask_iff.1 hyields
      cases hxs
  | call =>
      obtain ⟨_, _, _, hxs, -⟩ := Attempt.yields_call_iff.1 hyields
      cases hxs

/-- An update of a transfer to the state that a commitment leads to follows on what a job was
answered at an instant: the job has written the record back at that instant, and the transfer has
not gone back since; or it is that instant still, and a few steps of the job write it. -/
def IsFollowedUp (w : World) (i : Nat) (j : Job) (t : Instant) (id : String) (k : Commitment) :
    Prop :=
  ∃ p : Transfer, p.id = id ∧ p.state = k.target ∧
    (((∃ isTold, j.phase = .persisted p t isTold) ∧
        ∃ r, w.find? id = some r ∧ k.target.index ≤ r.position.index) ∨
      (w.site.now = t ∧ ∀ oracle, ∃ n j',
        (w.run (List.replicate n (.advance i oracle))).jobs[i]? = some j' ∧
          j'.phase = .persisted p t false))

/-- A job that keeps its word follows it up. -/
theorem isFollowedUp (hw : w.Sound) (hsteady : w.ledger.IsSteady) (hj : w.jobs[i]? = some j)
    {c : Call} {answer : Option c.Answer} {t : Instant} (hx : .call c answer t ∈ j.exchanges)
    {id : String} {k : Commitment}
    (haccepted : (Exchange.call c answer t).commitment? = some (id, k)) :
    j.claimed.id = id ∧ j.claimed.state = k.source ∧ w.IsFollowedUp i j t id k := by
  have hmem : j ∈ w.ledger.jobs := List.mem_of_getElem? hj
  have hsound := hw.ledger.jobs j hmem
  obtain ⟨rfl, hsource, p, htarget, hsettled⟩ := hsteady.wordKept j hmem c answer t hx id k
    haccepted
  have hreaches := hsettled.reaches hsound.isCourse
  obtain ⟨_, hresult⟩ := hreaches.result
  refine ⟨rfl, hsource, p, hresult.continues.id_eq, htarget, ?_⟩
  rcases hsettled with ⟨isTold, hphase⟩ | ⟨present, hnow, rest, hphase, hyields⟩
  · obtain ⟨r, hr, hle⟩ := hsteady.kept j hmem p t isTold hphase
    have hp : p.position = k.target := Commitment.position_eq (Or.inr rfl) htarget
    exact Or.inl ⟨⟨isTold, hphase⟩, r, hr, hp ▸ hle⟩
  · have going : j.IsOpen := by rw [Job.IsOpen, Job.endedAt?, hphase, present]
    have taken := (hsound.update_eq_ok_iff_of_reaches hreaches).2
      ⟨hsteady.copies j hmem going, rfl⟩
    refine Or.inr ⟨hnow, fun oracle => ?_⟩
    rw [← hnow]
    exact settles_by_advancing hw.calm hj present hphase hyields taken oracle

/-- **Everything happens once.**  Let the workers have a configuration that is in order, whose
leases are not so long that they are cut, and let a run be punctual and left alone.  Then nobody is
committed twice to the same: for a transfer the other side accepts one opening, one completion and
one termination at most, and no more than one start of its flow is answered with a handle.  An
update to the state that follows comes after every call that was accepted; and the store takes every
update that a worker asks for. -/
theorem effects_happen_once (m : Config.Manifest) (valid : m.validate = .ok ())
    (uncut : m.spec.orchestrator.leaseDuration.toDistance =
      m.spec.orchestrator.leaseDuration.nanos)
    (now : Instant) (capacity : Nat) (liveness : Option Int) (actions : List Action)
    (punctual : (start now capacity liveness).keepsTime m.spec.orchestrator actions = true)
    (alone : (start now capacity liveness).isLeftAlone actions = true) :
    let w := (start now capacity liveness).run actions
    w.commitments.Nodup ∧
    (∀ i j, w.jobs[i]? = some j → ∀ c answer t, .call c answer t ∈ j.exchanges →
      ∀ id k, (Exchange.call c answer t).commitment? = some (id, k) →
        j.claimed.id = id ∧ j.claimed.state = k.source ∧ w.IsFollowedUp i j t id k) ∧
    ∀ a p, w.access? a = some (.update p) → ∃ s, w.site.transfers.update p = .ok s := by
  intro w
  have hstart := sound_start now capacity liveness
  have hw : w.Sound := sound_run hstart actions
  have hlonger : (m.spec.orchestrator.dispatchTimeout.nanos : Int) <
      m.spec.orchestrator.leaseDuration.toDistance := by
    rw [uncut]
    exact Int.ofNat_lt.2 (Config.dispatchTimeout_lt_of_validate valid)
  have hempty : (start now capacity liveness).ledger.IsExclusive m.spec.orchestrator :=
    ⟨by simp [start, ledger], by simp [start, ledger], List.Pairwise.nil⟩
  have hquiet : (start now capacity liveness).ledger.IsSteady :=
    ⟨by simp [start, ledger], by simp [start, ledger], by simp [start, ledger], List.Pairwise.nil,
      by simp [start, ledger]⟩
  have hall : w.ledger.IsExclusive m.spec.orchestrator :=
    isExclusive_run hlonger hstart hempty actions punctual
  have hsteady : w.ledger.IsSteady :=
    isSteady_run hlonger hstart hempty (isCoherent_run now capacity liveness [])
      (actionable_run now capacity liveness []) hquiet actions punctual alone
  refine ⟨commitments_nodup hw hall hsteady, ?_, ?_⟩
  · intro i j hj c answer t hx id k haccepted
    exact isFollowedUp hw hsteady hj hx haccepted
  · intro a p hop
    cases makes_of_access? hop with
    | @written i oracle j _ hjob hphase =>
        obtain ⟨found, present⟩ := job?_eq_some_iff.1 hjob
        exact hsteady.taken hw.ledger (List.mem_of_getElem? found) present hphase

/-- The other side accepts the opening of a transfer as late as it may, while a second worker claims
in vain. -/
theorem effects_happen_once_of_two_workers :
    let m : Config.Manifest := .standard "h"
    let request : DataRequest :=
      ⟨"r", "a", "s", "c", "http://c", "p", ⟨"blob", []⟩, ⟨"http", []⟩, []⟩
    let setup : Setup := ⟨m.spec.connector, m.spec.orchestrator⟩
    let oracle : (q : Inquiry) → q.Answer
      | .judge _ _ => Decision.deny []
      | .select _ => Except.error .clock
      | .find _ => Except.ok none
    let reply : (c : Call) → Option c.Answer
      | .send _ => some (.ok ())
      | _ => none
    let actions : List Action := [.create "t" .consumer request,
      .claim setup "v", .advance 0 oracle, .advance 0 oracle,
      .claim setup "w", .advance 1 oracle, .advance 1 oracle,
      .pass ⟨30000000000⟩, .claim setup "v", .answer 1 reply]
    let w := (start ⟨0⟩ 16 none).run actions
    m.validate = .ok () ∧ (start ⟨0⟩ 16 none).keepsTime m.spec.orchestrator actions = true ∧
    (start ⟨0⟩ 16 none).isLeftAlone actions = true ∧
    w.commitments = [("t", .opening)] ∧ w.commitments.Nodup ∧
    (∃ i j t, w.jobs[i]? = some j ∧ w.IsFollowedUp i j t "t" .opening) ∧
    ∃ p s, w.access? (.advance 1 oracle) = some (.update p) ∧
      w.site.transfers.update p = .ok s := by
  intro m request setup oracle reply actions w
  have hfault : m.fault? = none := by decide +kernel
  have valid : m.validate = .ok () := by rw [Config.Manifest.validate, hfault]
  have uncut : m.spec.orchestrator.leaseDuration.toDistance =
      m.spec.orchestrator.leaseDuration.nanos := by decide +kernel
  have punctual : (start ⟨0⟩ 16 none).keepsTime m.spec.orchestrator actions = true := by
    decide +kernel
  have alone : (start ⟨0⟩ 16 none).isLeftAlone actions = true := by decide +kernel
  have hcommitments : w.commitments = [("t", .opening)] := by decide +kernel
  obtain ⟨hnodup, hfollowed, htaken⟩ :=
    effects_happen_once m valid uncut ⟨0⟩ 16 none actions punctual alone
  refine ⟨valid, punctual, alone, hcommitments, hnodup, ?_, ?_⟩
  · have hmem : ("t", Commitment.opening) ∈ w.commitments := by
      rw [hcommitments]
      exact List.mem_singleton.2 rfl
    obtain ⟨j, hj, hk⟩ := List.mem_flatMap.1 hmem
    obtain ⟨i, hi⟩ := List.getElem?_of_mem hj
    obtain ⟨c, answer, t, hx, haccepted⟩ := exists_call_of_mem_commitments hk
    exact ⟨i, j, t, hi, (hfollowed i j hi c answer t hx _ _ haccepted).2.2⟩
  · have hupdate : ∃ p, w.access? (.advance 1 oracle) = some (.update p) := by
      have hsome : ((w.access? (.advance 1 oracle)).bind fun
          | .update p => some p
          | _ => none).isSome = true := by decide +kernel
      obtain ⟨p, hp⟩ := Option.isSome_iff_exists.1 hsome
      obtain ⟨op, hop, heq⟩ := Option.bind_eq_some_iff.1 hp
      cases op with
      | update q => exact ⟨q, hop⟩
      | _ => cases heq
    obtain ⟨p, hp⟩ := hupdate
    obtain ⟨s, hs⟩ := htaken _ p hp
    have hw : w = (start ⟨0⟩ 16 none).run actions := rfl
    rw [← hw] at hs
    exact ⟨p, s, hp, hs⟩

end World
end Connector
