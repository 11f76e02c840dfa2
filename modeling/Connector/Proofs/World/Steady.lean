import Connector.Proofs.Worker.Commitment
import Connector.Proofs.World.Coherence
import Connector.Proofs.World.Exclusive

/-!
# Runs that are left alone

In a punctual run that nobody interferes with, the copy on which an attempt goes on is what is
stored, so that the store takes whatever a worker writes back; and an attempt whose call was
accepted is written back at that very instant.  Interference is a signal to a transfer, or the loss
of a worker with its attempt.  Statements:

* `Step.keepsWord` — an accepted call leads to a result that is written back;
* `position_turn` — no transfer goes back behind where it stands;
* `isSteady_turn`, `isSteady_run` — copies, attempts and what was written stay in order.
-/

namespace Connector

namespace Job

/-- The result of the attempt is written back since an instant, or will be at that instant. -/
def IsSettled (now t : Instant) (p : Transfer) (j : Job) : Prop :=
  (∃ isTold, j.phase = .persisted p t isTold) ∨
    (j.lostAt = none ∧ now = t ∧ ∃ rest, j.phase = .running rest ∧ rest.Yields [] p)

/-- Whoever was committed by the attempt finds the transfer in the state that follows, now or
presently. -/
def KeepsWord (now : Instant) (j : Job) : Prop :=
  ∀ c answer t, .call c answer t ∈ j.exchanges →
    ∀ id k, (Exchange.call c answer t).commitment? = some (id, k) →
      id = j.claimed.id ∧ j.claimed.state = k.source ∧
        ∃ p, p.state = k.target ∧ j.IsSettled now t p

variable {now t : Instant} {s s' : Transfers} {j j' : Job} {p : Transfer}

theorem IsSettled.reaches (h : j.IsSettled now t p) (course : j.IsCourse) :
    j.Reaches (.done (.ok p)) := by
  unfold IsCourse at course
  rcases h with ⟨_, hphase⟩ | ⟨-, -, rest, hphase, hyields⟩
  · rw [hphase] at course
    exact course
  · rw [hphase] at course
    have hreaches := course.trans hyields j.phase
    rw [List.append_nil] at hreaches
    exact hreaches

/-- A settled attempt stays settled, unless it is refused by the store or lost for no reason. -/
theorem Step.isSettled (h : j.Step now s j' s')
    (taken : ∀ q, j.phase = .running (.done (.ok q)) → ∃ u, s.update q = .ok u)
    (kept : j'.lostAt = none ∨ j.phase = .running (.done (.error .clock)))
    (hj : j.IsSettled now t p) : j'.IsSettled now t p := by
  rcases hj with ⟨isTold, hphase⟩ | ⟨present, hnow, rest, hphase, hyields⟩
  · cases h with
    | told phase_eq =>
        cases hphase.symm.trans phase_eq
        exact Or.inl ⟨true, rfl⟩
    | lost => exact Or.inl ⟨isTold, hphase⟩
    | begun phase_eq | noted phase_eq | asked phase_eq | placed phase_eq | answered phase_eq
    | failed phase_eq | persisted phase_eq | abandoned phase_eq | released phase_eq =>
        cases hphase.symm.trans phase_eq
  · cases h with
    | noted phase_eq =>
        cases hphase.symm.trans phase_eq
        exact Or.inr ⟨present, hnow, _, rfl, Attempt.yields_note_iff.1 hyields⟩
    | persisted phase_eq =>
        cases hphase.symm.trans phase_eq
        obtain ⟨-, heq⟩ := Attempt.yields_done_iff.1 hyields
        cases heq
        exact Or.inl ⟨false, by rw [← hnow]; rfl⟩
    | abandoned phase_eq refused =>
        obtain ⟨u, hu⟩ := taken _ phase_eq
        cases hu.symm.trans refused
    | asked phase_eq =>
        cases hphase.symm.trans phase_eq
        obtain ⟨_, _, hxs, -⟩ := Attempt.yields_ask_iff.1 hyields
        cases hxs
    | placed phase_eq =>
        cases hphase.symm.trans phase_eq
        obtain ⟨_, _, _, hxs, -⟩ := Attempt.yields_call_iff.1 hyields
        cases hxs
    | failed phase_eq =>
        cases hphase.symm.trans phase_eq
        cases (Attempt.yields_done_iff.1 hyields).2
    | lost =>
        rcases kept with hkept | hclock
        · cases hkept
        · cases hphase.symm.trans hclock
          cases (Attempt.yields_done_iff.1 hyields).2
    | begun phase_eq | answered phase_eq | told phase_eq | released phase_eq =>
        cases hphase.symm.trans phase_eq

/-- An attempt goes on to keep its word. -/
theorem Step.keepsWord (h : j.Step now s j' s') (course : j.IsCourse)
    (taken : ∀ q, j.phase = .running (.done (.ok q)) → ∃ u, s.update q = .ok u)
    (kept : j'.lostAt = none ∨ j.phase = .running (.done (.error .clock)))
    (hj : j.KeepsWord now) : j'.KeepsWord now := by
  intro c answer t hx id k haccepted
  rw [h.continues.claimed_eq]
  rcases h.mem_exchanges hx with hx | ⟨since, next, hphase, rfl, hphase'⟩
  · obtain ⟨hid, hsource, p, htarget, hsettled⟩ := hj c answer t hx id k haccepted
    exact ⟨hid, hsource, p, htarget, h.isSettled taken kept hsettled⟩
  · rw [IsCourse, hphase] at course
    obtain ⟨_, hcourse⟩ := course
    obtain ⟨hid, hsource, p, hyields, htarget⟩ := hcourse.commits haccepted
    have present' : j'.lostAt = none := by
      rcases kept with hkept | hclock
      · exact hkept
      · cases hphase.symm.trans hclock
    exact ⟨hid, hsource, p, htarget, Or.inr ⟨present', rfl, _, hphase', hyields⟩⟩

end Job

namespace Ledger

variable {l l' : Ledger} {a : Action} {id : String} {r : Transfer}

/-- No turn takes a transfer back behind where it stands. -/
theorem position_turn (hl : l.Sound) (hall : l.Everywhere fun _ r => r.IsCoherent)
    (h : l.Turn a l') (hr : l.transfers.find? id = some r) :
    ∃ r', l'.transfers.find? id = some r' ∧ r.position.index ≤ r'.position.index := by
  rcases find?_turn hl h hr with hsame | ⟨r', hr', hchange⟩
  · exact ⟨r, hsame, Nat.le_refl _⟩
  · refine ⟨r', hr', ?_⟩
    cases hchange with
    | leased | released => exact Nat.le_refl _
    | @signalled x q accepted =>
        rw [Transfer.bumped, Transfer.accept_frame accepted]
        exact Nat.le_refl _
    | attempted _ result =>
        rcases result.passes_or_idle with ⟨s, t, hpasses, -⟩ | ⟨rfl, -⟩
        · exact hpasses.position_le (hall.records id r hr)
        · exact Nat.le_refl _

/-- What holds of the jobs while nobody interferes. -/
structure IsSteady (l : Ledger) : Prop where
  /-- As long as an attempt goes on, its copy is what is stored. -/
  copies : ∀ j ∈ l.jobs, j.IsOpen → l.transfers.Holds j.claimed
  /-- No attempt is given up. -/
  unbroken : ∀ j ∈ l.jobs, j.phase ≠ .yielding ∧ ∀ t, j.phase ≠ .released t
  /-- No transfer goes back behind what was written. -/
  kept : ∀ j ∈ l.jobs, ∀ p t isTold, j.phase = .persisted p t isTold →
    ∃ r, l.transfers.find? j.claimed.id = some r ∧ p.position.index ≤ r.position.index
  /-- Later attempts begin where earlier ones ended, or further on. -/
  ordered : l.jobs.Pairwise fun j j' => j.claimed.id = j'.claimed.id →
    ∀ p t isTold, j.phase = .persisted p t isTold →
      p.position.index ≤ j'.claimed.position.index
  wordKept : ∀ j ∈ l.jobs, j.KeepsWord l.now

/-- The jobs of a ledger stay in order as long as the records stored for them are the same. -/
theorem IsSteady.keep (h : l.IsSteady) {t : Transfers}
    (ht : ∀ id r, l.transfers.find? id = some r → t.find? id = some r) :
    IsSteady { l with transfers := t } where
  copies j hj going := ht _ _ (h.copies j hj going)
  unbroken := h.unbroken
  kept j hj p u isTold hphase := by
    obtain ⟨r, hr, hle⟩ := h.kept j hj p u isTold hphase
    exact ⟨r, ht _ _ hr, hle⟩
  ordered := h.ordered
  wordKept := h.wordKept

/-- Time passes only while every attempt that goes on waits for an answer. -/
theorem IsSteady.pass (h : l.IsSteady) {limit : Span} {u : Instant}
    (patient : ∀ j ∈ l.jobs, j.isPatient limit u = true) : IsSteady { l with now := u } where
  copies := h.copies
  unbroken := h.unbroken
  kept := h.kept
  ordered := h.ordered
  wordKept j hj c answer t hx id k haccepted := by
    obtain ⟨hid, hsource, p, htarget, hsettled⟩ := h.wordKept j hj c answer t hx id k haccepted
    refine ⟨hid, hsource, p, htarget, ?_⟩
    rcases hsettled with hwritten | ⟨present, -, rest, hphase, -⟩
    · exact Or.inl hwritten
    · have going : j.IsOpen := by rw [Job.IsOpen, Job.endedAt?, hphase, present]
      obtain ⟨since, hsince, -⟩ := Job.waits_of_isPatient (patient j hj) going
      rw [Job.waitsSince?, hphase] at hsince
      cases hsince

section Claims
variable {o : Config.Orchestration} (hl : l.Sound)
  (hlonger : (o.dispatchTimeout.nanos : Int) < o.leaseDuration.toDistance)
include hl hlonger

/-- A claim keeps the jobs in order. -/
theorem IsSteady.claim (h : l.IsSteady) (hall : l.IsExclusive o) (setup : Setup)
    (holder : String) :
    IsSteady { l with
      transfers := (l.claimOf setup holder).2
      jobs := l.jobs ++ (l.claimOf setup holder).1.map (.fresh setup holder l.now) } := by
  refine ⟨?_, ?_, ?_, ?_, ?_⟩
  · intro j hj going
    rcases List.mem_append.1 hj with hj | hj
    · exact hall.find?_claimOf hl hlonger hj going setup holder (h.copies j hj going)
    · obtain ⟨p, hp, rfl⟩ := List.mem_map.1 hj
      exact (Transfers.holds_of_mem_claim hl.isKeyed hp).1
  · intro j hj
    rcases List.mem_append.1 hj with hj | hj
    · exact h.unbroken j hj
    · obtain ⟨p, -, rfl⟩ := List.mem_map.1 hj
      exact ⟨nofun, nofun⟩
  · intro j hj p u isTold hphase
    rcases List.mem_append.1 hj with hj | hj
    · obtain ⟨r, hr, hle⟩ := h.kept j hj p u isTold hphase
      have hfind := Transfers.find?_claim hl.isKeyed Transfer.State.actionable
        setup.orchestration.batchSize (SiteM.claimOf setup holder l.now) j.claimed.id
      rw [hr, Option.map_some] at hfind
      refine ⟨_, hfind, ?_⟩
      split
      · exact hle
      · exact hle
    · obtain ⟨q, -, rfl⟩ := List.mem_map.1 hj
      cases hphase
  · refine List.pairwise_append.2 ⟨h.ordered, ?_, ?_⟩
    · -- None of the new attempts is written back.
      refine List.pairwise_map.2 (List.pairwise_of_forall fun x y hid p u isTold hphase => ?_)
      cases hphase
    · intro j hj j' hj' hid p u isTold hphase
      obtain ⟨r, hr, hle⟩ := h.kept j hj p u isTold hphase
      obtain ⟨q', hq', rfl⟩ := List.mem_map.1 hj'
      obtain ⟨q, hq, rfl⟩ := Transfers.mem_claim_iff.1 hq'
      have hstored := Transfers.find?_of_mem_chosen hl.isKeyed hq
      rw [hid] at hr
      cases hr.symm.trans hstored
      exact hle
  · intro j hj
    rcases List.mem_append.1 hj with hj | hj
    · exact h.wordKept j hj
    · obtain ⟨q, -, rfl⟩ := List.mem_map.1 hj
      intro c answer t hx
      exact absurd hx List.not_mem_nil

end Claims

/-- A job that comes to a record is taken by the store: nobody else has written it. -/
theorem IsSteady.taken (h : l.IsSteady) (hl : l.Sound) {j : Job} (hj : j ∈ l.jobs)
    (present : j.lostAt = none) {p : Transfer} (hphase : j.phase = .running (.done (.ok p))) :
    ∃ t, l.transfers.update p = .ok t := by
  have going : j.IsOpen := by rw [Job.IsOpen, Job.endedAt?, hphase, present]
  exact ⟨_, ((hl.jobs j hj).update_eq_ok_iff hphase).2 ⟨h.copies j hj going, rfl⟩⟩

section Steps
variable {o : Config.Orchestration} (hl : l.Sound) {i : Nat} {j j' : Job} {t : Transfers}
  (found : l.jobs[i]? = some j) (present : j.lostAt = none)
  (step : j.Step l.now l.transfers j' t)
include hl found present step

/-- The copies of the attempts that go on after a step are what is stored. -/
theorem IsSteady.copies_step (h : l.IsSteady) (hall : l.IsExclusive o) {x : Job}
    (hx : x ∈ l.jobs.set i j') (going : x.IsOpen) : t.Holds x.claimed := by
  have hmem : j ∈ l.jobs := List.mem_of_getElem? found
  obtain ⟨k, hk⟩ := List.getElem?_of_mem hx
  by_cases hik : i = k
  · subst hik
    obtain ⟨hlt, -⟩ := List.getElem?_eq_some_iff.1 found
    rw [List.getElem?_set_self hlt] at hk
    cases hk
    rw [step.continues.claimed_eq]
    rcases step.eq_or_ends present with rfl | ⟨-, hends⟩
    · exact h.copies j hmem (step.isOpen present going)
    · exact absurd (hends.symm.trans going) (Option.some_ne_none _)
  · rw [List.getElem?_set_ne hik] at hk
    have hholds := h.copies x (List.mem_of_getElem? hk) going
    rcases step.eq_or_ends present with rfl | ⟨hgoing, -⟩
    · exact hholds
    · have hid : x.claimed.id ≠ j.claimed.id :=
        fun hid => hik (hall.eq_of_isOpen found hk hgoing going hid.symm)
      exact (step.find?_of_ne hl.isKeyed (hl.jobs j hmem) hid).trans hholds

/-- A step gives no attempt up. -/
theorem IsSteady.unbroken_step (h : l.IsSteady) (hjobs : l.HandsOutActionable) :
    j'.phase ≠ .yielding ∧ ∀ u, j'.phase ≠ .released u := by
  have hmem : j ∈ l.jobs := List.mem_of_getElem? found
  cases step with
  | failed phase_eq =>
      obtain ⟨_, hcourse⟩ := (hl.jobs j hmem).reaches_of_running phase_eq
      exact (hcourse.not_refused (hjobs j hmem)).elim
  | abandoned phase_eq refused =>
      obtain ⟨u, hu⟩ := h.taken hl hmem present phase_eq
      cases hu.symm.trans refused
  | released phase_eq => exact absurd phase_eq (h.unbroken j hmem).1
  | lost => exact h.unbroken j hmem
  | begun | noted | asked | placed | answered | persisted | told => exact ⟨nofun, nofun⟩

/-- What was written before a step, or is written by it, is not gone back behind. -/
theorem IsSteady.kept_step (h : l.IsSteady) (hcoherent : l.Everywhere fun _ r => r.IsCoherent)
    {x : Job} (hx : x ∈ l.jobs.set i j') {p : Transfer} {u : Instant} {isTold : Bool}
    (hphase : x.phase = .persisted p u isTold) :
    ∃ r, t.find? x.claimed.id = some r ∧ p.position.index ≤ r.position.index := by
  have hmem : j ∈ l.jobs := List.mem_of_getElem? found
  have hturn : l.Turn (.lose i) { l with transfers := t, jobs := l.jobs.set i j' } :=
    .worked found present step
  have hold : ∀ y ∈ l.jobs, ∀ isTold', y.phase = .persisted p u isTold' →
      ∃ r, t.find? y.claimed.id = some r ∧ p.position.index ≤ r.position.index := by
    intro y hy isTold' hphase'
    obtain ⟨r, hr, hle⟩ := h.kept y hy p u isTold' hphase'
    obtain ⟨r', hr', hle'⟩ := position_turn hl hcoherent hturn hr
    exact ⟨r', hr', Nat.le_trans hle hle'⟩
  rcases List.mem_or_eq_of_mem_set hx with hx | rfl
  · exact hold x hx isTold hphase
  · rw [step.continues.claimed_eq]
    rcases step.persisted_cases hphase with ⟨isTold', hphase'⟩ | ⟨hphase', taken⟩
    · exact hold j hmem isTold' hphase'
    · obtain ⟨-, rfl⟩ := ((hl.jobs j hmem).update_eq_ok_iff hphase').1 taken
      obtain ⟨_, result⟩ := ((hl.jobs j hmem).reaches_of_running hphase').result
      rw [← result.continues.id_eq, Transfers.find?_put, if_pos rfl]
      exact ⟨_, rfl, Nat.le_refl _⟩

omit hl in
/-- The attempts on one transfer still follow each other after a step. -/
theorem IsSteady.ordered_step (h : l.IsSteady) (hall : l.IsExclusive o) :
    (l.jobs.set i j').Pairwise fun j j' => j.claimed.id = j'.claimed.id →
      ∀ p t isTold, j.phase = .persisted p t isTold →
        p.position.index ≤ j'.claimed.position.index := by
  have hclaimed := step.continues.claimed_eq
  have hboth := hall.ordered.and h.ordered
  have hset := pairwise_set (b := j') hboth found ?_ ?_
  · exact hset.imp fun hxy => hxy.2
  · rintro x ⟨hbefore, hle⟩
    refine ⟨hbefore.continues step.continues, ?_⟩
    rw [hclaimed]
    exact hle
  · rintro x ⟨hbefore, hle⟩
    refine ⟨hbefore.step step present, ?_⟩
    intro hid p u isTold hphase
    rw [hclaimed] at hid
    rcases step.persisted_cases hphase with ⟨isTold', hphase'⟩ | ⟨hphase', -⟩
    · exact hle hid p u isTold' hphase'
    · -- An attempt that goes on has none on the same transfer after it.
      obtain ⟨v, hv, -⟩ := hbefore hid
      rw [Job.endedAt?, hphase', present] at hv
      cases hv

/-- A step keeps the jobs in order, if it loses none but for the end of the clock. -/
theorem IsSteady.worked (h : l.IsSteady) (hall : l.IsExclusive o)
    (hcoherent : l.Everywhere fun _ r => r.IsCoherent) (hjobs : l.HandsOutActionable)
    (kept : j'.lostAt = none ∨ j.phase = .running (.done (.error .clock))) :
    IsSteady { l with transfers := t, jobs := l.jobs.set i j' } where
  copies _ hx going := h.copies_step hl found present step hall hx going
  unbroken x hx := by
    rcases List.mem_or_eq_of_mem_set hx with hx | rfl
    · exact h.unbroken x hx
    · exact h.unbroken_step hl found present step hjobs
  kept x hx p u isTold hphase := h.kept_step hl found present step hcoherent hx hphase
  ordered := h.ordered_step found present step hall
  wordKept x hx := by
    have hmem : j ∈ l.jobs := List.mem_of_getElem? found
    rcases List.mem_or_eq_of_mem_set hx with hx | rfl
    · exact h.wordKept x hx
    · exact step.keepsWord (hl.jobs j hmem).isCourse (fun _ => h.taken hl hmem present) kept
        (h.wordKept j hmem)

end Steps

/-- A turn keeps the jobs in order if it is punctual, sends no signal to a transfer, and loses no
job but for the end of the clock. -/
theorem isSteady_turn {o : Config.Orchestration} (hl : l.Sound)
    (hlonger : (o.dispatchTimeout.nanos : Int) < o.leaseDuration.toDistance) (h : l.Turn a l')
    (punctual : l.isPunctual o a = true)
    (silent : ∀ id x, a = .deliver id x → l.transfers.find? id = none)
    (kept : ∀ (i : Nat) (j j' : Job), l.jobs[i]? = some j → l'.jobs[i]? = some j' →
      j.lostAt = none → j'.lostAt = none ∨ j.phase = .running (.done (.error .clock)))
    (hall : l.IsExclusive o) (hcoherent : l.Everywhere fun _ r => r.IsCoherent)
    (hjobs : l.HandsOutActionable) (hsteady : l.IsSteady) : l'.IsSteady := by
  cases h with
  | still => exact hsteady
  | @created id role request t _ added =>
      refine hsteady.keep fun id' r hr => ?_
      rw [← Transfers.apply_create_of_ok added]
      rcases Transfers.find?_apply hl.isKeyed hr (.create (.create id role request l.now)) with
        ⟨_, heff, -⟩ | ⟨-, hr'⟩
      · cases heff
      · exact hr'
  | @signalled id x p t taken =>
      obtain ⟨r, hr, -⟩ := Transfers.signal_eq_ok_iff.1 taken
      cases (silent id x rfl).symm.trans hr
  | @claimed setup holder => exact hsteady.claim hl hlonger hall setup holder
  | @worked _ i j j' t found present step =>
      obtain ⟨hlt, -⟩ := List.getElem?_eq_some_iff.1 found
      have hkept := kept i j j' found (List.getElem?_set_self hlt) present
      exact hsteady.worked hl found present step hall hcoherent hjobs hkept
  | passed t =>
      obtain ⟨-, hpatient⟩ := (Bool.and_eq_true_iff).1 punctual
      exact hsteady.pass (List.all_eq_true.1 hpatient)

end Ledger

namespace World

variable {w : World} {a : Action} {i : Nat} {j j' : Job}

/-- Whether an action interferes with nobody: no signal reaches a transfer, and no worker is
lost. -/
def leavesAlone (w : World) : Action → Bool
  | .deliver id _ => (w.find? id).isNone
  | .lose _ => false
  | .create _ _ _ | .claim _ _ | .advance _ _ | .answer _ _ | .pass _ | .upkeep _ => true

/-- Whether a run is left alone. -/
def isLeftAlone (w : World) : List Action → Bool
  | [] => true
  | a :: rest => w.leavesAlone a && isLeftAlone (w.act a) rest

/-- Writing back loses no job. -/
theorem lostAt_writeBack (result : Except Transfer.Refusal Transfer) (s : Site) :
    (j.writeBack result s).1.lostAt = j.lostAt := by
  cases hp : (SiteM.writeBack j.claimed result s).1 with
  | some p =>
      have heq : j.writeBack result s = (j.inPhase (.persisted p _ false), _) :=
        SiteM.bind_eq (Prod.ext hp rfl)
      rw [heq]
      rfl
  | none =>
      have heq : j.writeBack result s = (j.inPhase .yielding, _) :=
        SiteM.bind_eq (Prod.ext hp rfl)
      rw [heq]
      rfl

/-- A job that goes on by itself is lost only when the clock ends. -/
theorem lostAt_advance (oracle : (q : Inquiry) → q.Answer) (s : Site) :
    (j.advance oracle s).1.lostAt = j.lostAt ∨ j.phase = .running (.done (.error .clock)) := by
  unfold Job.advance
  cases hphase : j.phase with
  | fresh | calling | yielding | released => exact Or.inl rfl
  | persisted p t isTold => cases isTold <;> exact Or.inl rfl
  | running rest =>
      cases rest with
      | note | ask | call => exact Or.inl rfl
      | done result =>
          rcases result with (e | _) | p
          · exact Or.inl (lostAt_writeBack (.error e) s)
          · exact Or.inr rfl
          · exact Or.inl (lostAt_writeBack (.ok p) s)

theorem lostAt_answer (reply : (c : Call) → Option c.Answer) (s : Site) :
    (j.answer reply s).1.lostAt = j.lostAt := by
  unfold Job.answer
  cases j.phase <;> rfl

/-- No action loses a job, but for the end of the clock. -/
theorem lostAt_act (hj : w.jobs[i]? = some j) (hj' : (w.act a).jobs[i]? = some j')
    (alone : w.leavesAlone a = true) (present : j.lostAt = none) :
    j'.lostAt = none ∨ j.phase = .running (.done (.error .clock)) := by
  have hsame : j' = j → j'.lostAt = none ∨ j.phase = .running (.done (.error .clock)) := by
    rintro rfl
    exact Or.inl present
  cases a with
  | create id role request =>
      simp only [act] at hj'
      split at hj' <;> exact hsame (Option.some.inj (hj'.symm.trans hj))
  | deliver | pass | upkeep => exact hsame (Option.some.inj (hj'.symm.trans hj))
  | claim setup holder => exact hsame (Option.some.inj (hj'.symm.trans (getElem?_claim hj)))
  | advance k oracle =>
      rcases getElem?_onJob hj hj' with heq | ⟨-, rfl⟩
      · exact hsame heq
      · rcases lostAt_advance (j := j) oracle w.site with hkept | hclock
        · exact Or.inl (hkept.trans present)
        · exact Or.inr hclock
  | answer k reply =>
      rcases getElem?_onJob hj hj' with heq | ⟨-, rfl⟩
      · exact hsame heq
      · exact Or.inl ((lostAt_answer reply w.site).trans present)
  | lose k => cases alone

/-- A punctual run that is left alone keeps the jobs in order. -/
theorem isSteady_run {o : Config.Orchestration}
    (hlonger : (o.dispatchTimeout.nanos : Int) < o.leaseDuration.toDistance) (hw : w.Sound)
    (hall : w.ledger.IsExclusive o) (hcoherent : w.ledger.Everywhere fun _ r => r.IsCoherent)
    (hjobs : w.ledger.HandsOutActionable) (hsteady : w.ledger.IsSteady) (actions : List Action)
    (punctual : w.keepsTime o actions = true) (alone : w.isLeftAlone actions = true) :
    (w.run actions).ledger.IsSteady := by
  induction actions generalizing w with
  | nil => exact hsteady
  | cons a rest ih =>
      obtain ⟨hpunctual, hlater⟩ := (Bool.and_eq_true_iff).1 punctual
      obtain ⟨halone, hafter⟩ := (Bool.and_eq_true_iff).1 alone
      obtain ⟨hturn, -⟩ := turns_act hw.calm a
      have silent : ∀ id x, a = .deliver id x → w.ledger.transfers.find? id = none := by
        rintro id x rfl
        exact Option.isNone_iff_eq_none.1 halone
      exact ih (sound_act hw a)
        (Ledger.isExclusive_turn hw.ledger hlonger hturn hpunctual hall)
        (Ledger.everywhere_turn Ledger.isCoherent_invariant hw.ledger hturn hcoherent)
        (Ledger.handsOutActionable_turn hw.ledger hturn hcoherent hjobs)
        (Ledger.isSteady_turn hw.ledger hlonger hturn hpunctual silent
          (fun _ _ _ hj hj' present => lostAt_act hj hj' halone present)
          hall hcoherent hjobs hsteady)
        hlater hafter

end World
end Connector
