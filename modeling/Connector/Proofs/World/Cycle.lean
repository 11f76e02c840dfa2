import Connector.Proofs.World.Access

/-!
# Claim cycles in the world

A worker opens a cycle by claiming a batch, and has a job on every record of it.  The cycle is over
when each of these jobs is: its result was written back and told, or its lease was given back.  In
the midst of the cycle anybody may do anything.  What a cycle reports is read off its jobs, so what
has to be said is how a job gets to be written back: by an access of its own that the store takes,
and in no other way.  Statements:

* `step_act` — an action leaves a job alone, or takes it one step further;
* `isPersisted_act`, `isPersisted_run` — a job is written back exactly if the store took a write of
  it;
* `of_report?_eq_some` — what the report of a cycle says.
-/

namespace Connector

namespace Job

/-- The result of the attempt was written back. -/
def isPersisted (j : Job) : Bool :=
  match j.phase with
  | .persisted _ _ _ => true
  | .fresh | .running _ | .calling _ _ _ | .yielding | .released _ => false

/-- The attempt was neither written back nor its lease given back so far. -/
def isPending (j : Job) : Bool :=
  match j.phase with
  | .fresh | .running _ | .calling _ _ _ | .yielding => true
  | .persisted _ _ _ | .released _ => false

/-- Whether the attempt was written back, once it is over. -/
def verdict? (j : Job) : Option Bool :=
  match j.phase with
  | .persisted _ _ true => some true
  | .released _ => some false
  | .fresh | .running _ | .calling _ _ _ | .yielding | .persisted _ _ false => none

theorem isPersisted_iff {j : Job} :
    j.isPersisted = true ↔ ∃ p t isTold, j.phase = .persisted p t isTold := by
  unfold isPersisted
  cases j.phase <;> simp

/-- An attempt that is over was written back or not, and is not pending. -/
theorem of_verdict?_eq_some {j : Job} {b : Bool} (h : j.verdict? = some b) :
    j.isPersisted = b ∧ j.isPending = false := by
  unfold verdict? at h
  unfold isPersisted isPending
  cases hphase : j.phase with
  | persisted p t isTold =>
      cases isTold with
      | true =>
          rw [hphase] at h
          cases h
          exact ⟨rfl, rfl⟩
      | false =>
          rw [hphase] at h
          cases h
  | released t =>
      rw [hphase] at h
      cases h
      exact ⟨rfl, rfl⟩
  | fresh | running | calling | yielding =>
      rw [hphase] at h
      cases h

variable {now : Instant} {s t : Transfers} {j j' : Job}

/-- What was written back stays so. -/
theorem Step.isPersisted (h : j.Step now s j' t) (hj : j.isPersisted = true) :
    j'.isPersisted = true := by
  obtain ⟨p, u, isTold, hphase⟩ := isPersisted_iff.1 hj
  cases h with
  | told | persisted => rfl
  | lost => exact hj
  | begun phase_eq | noted phase_eq | asked phase_eq | placed phase_eq | answered phase_eq
  | failed phase_eq | abandoned phase_eq | released phase_eq => cases hphase.symm.trans phase_eq

end Job

namespace World

variable {w : World} {i : Nat} {j j' : Job} {a : Action}

/-- **An action leaves a job alone, or takes it one step further.** -/
theorem step_act (hw : w.Sound) (hj : w.jobs[i]? = some j) (a : Action) :
    ∃ j', (w.act a).jobs[i]? = some j' ∧
      (j' = j ∨ j.Step w.site.now w.site.transfers j' (w.act a).site.transfers) := by
  obtain ⟨hlt, -⟩ := List.getElem?_eq_some_iff.1 hj
  obtain ⟨hturn, -⟩ := turns_act hw.calm a
  generalize hl' : (w.act a).ledger = l' at hturn
  have hjobs : (w.act a).jobs = l'.jobs := congrArg Ledger.jobs hl'
  have htransfers : (w.act a).site.transfers = l'.transfers := congrArg Ledger.transfers hl'
  rw [hjobs, htransfers]
  cases hturn with
  | still | created | signalled | passed => exact ⟨j, hj, Or.inl rfl⟩
  | claimed => exact ⟨j, (List.getElem?_append_left hlt).trans hj, Or.inl rfl⟩
  | @worked _ k x x' _ found _ step =>
      by_cases hik : k = i
      · subst hik
        cases hj.symm.trans found
        exact ⟨x', List.getElem?_set_self hlt, Or.inr step⟩
      · exact ⟨j, (List.getElem?_set_ne hik).trans hj, Or.inl rfl⟩

/-- No job is taken off the list. -/
theorem length_le_act (hw : w.Sound) (a : Action) : w.jobs.length ≤ (w.act a).jobs.length := by
  refine Nat.le_of_not_lt fun hshort => ?_
  obtain ⟨j', hj', -⟩ := step_act hw (List.getElem?_eq_getElem hshort) a
  rw [List.getElem?_eq_none (Nat.le_refl _)] at hj'
  cases hj'

/-- A job that there was not before is one on what a worker claims. -/
theorem claimed_of_new (hw : w.Sound) (hnone : w.jobs[i]? = none)
    (hj' : (w.act a).jobs[i]? = some j') :
    ∃ setup holder p, a = .claim setup holder ∧ p ∈ (w.ledger.claimOf setup holder).1 ∧
      j' = .fresh setup holder w.site.now p := by
  obtain ⟨hturn, -⟩ := turns_act hw.calm a
  generalize hl' : (w.act a).ledger = l' at hturn
  rw [show (w.act a).jobs = l'.jobs from congrArg Ledger.jobs hl'] at hj'
  have hlen : w.ledger.jobs.length ≤ i := List.getElem?_eq_none_iff.1 hnone
  cases hturn with
  | still | created | signalled | passed => cases hnone.symm.trans hj'
  | @claimed setup holder =>
      rw [List.getElem?_append_right hlen, List.getElem?_map] at hj'
      obtain ⟨p, hp, rfl⟩ := Option.map_eq_some_iff.1 hj'
      exact ⟨setup, holder, p, rfl, List.mem_of_getElem? hp, rfl⟩
  | worked found _ step =>
      rw [List.getElem?_set] at hj'
      split at hj'
      · split at hj'
        · omega
        · cases hj'
      · cases hnone.symm.trans hj'

/-- The jobs after an action: those that there were, and those on what a worker claims. -/
theorem job_act_cases (hw : w.Sound) (hj' : (w.act a).jobs[i]? = some j') :
    (∃ j, w.jobs[i]? = some j ∧
      (j' = j ∨ j.Step w.site.now w.site.transfers j' (w.act a).site.transfers)) ∨
    ∃ setup holder p, a = .claim setup holder ∧ j' = .fresh setup holder w.site.now p := by
  cases hj : w.jobs[i]? with
  | some j =>
      obtain ⟨x, hx, hstep⟩ := step_act hw hj a
      cases hj'.symm.trans hx
      exact Or.inl ⟨j, rfl, hstep⟩
  | none =>
      obtain ⟨setup, holder, p, rfl, -, rfl⟩ := claimed_of_new hw hj hj'
      exact Or.inr ⟨setup, holder, p, rfl, rfl⟩

/-- The job of a number writes its result back by an action, and the store takes it. -/
def writesBack (w : World) (i : Nat) : Action → Bool
  | .advance k _ =>
      k == i &&
        (w.job? i).any fun j =>
          match j.phase with
          | .running (.done (.ok p)) => (w.site.transfers.update p).isOk
          | _ => false
  | .create _ _ _ | .deliver _ _ | .claim _ _ | .answer _ _ | .lose _ | .pass _ | .upkeep _ => false

/-- The job of a number writes its result back in a run, and the store takes it. -/
def hasWritten (w : World) (i : Nat) : List Action → Bool
  | [] => false
  | a :: rest => w.writesBack i a || (w.act a).hasWritten i rest

theorem writesBack_iff :
    w.writesBack i a = true ↔ ∃ oracle j p t, a = .advance i oracle ∧ w.job? i = some j ∧
      j.phase = .running (.done (.ok p)) ∧ w.site.transfers.update p = .ok t := by
  constructor
  · intro h
    cases a with
    | advance k oracle =>
        simp only [writesBack, Bool.and_eq_true, beq_iff_eq, Option.any_eq_true] at h
        obtain ⟨rfl, j, hjob, h⟩ := h
        split at h
        · rename_i p hphase
          cases hupdate : w.site.transfers.update p with
          | ok t => exact ⟨oracle, j, p, t, rfl, hjob, hphase, hupdate⟩
          | error e =>
              rw [hupdate] at h
              cases h
        · cases h
    | create | deliver | claim | answer | lose | pass | upkeep => cases h
  · rintro ⟨oracle, j, p, t, rfl, hjob, hphase, ht⟩
    simp only [writesBack, hjob, Option.any_some, hphase, ht, Bool.and_eq_true,
      beq_self_eq_true, true_and]
    rfl

/-- A job that comes to be written back does so by an action of its own. -/
theorem advances_of_persisted {p : Transfer} (hj : w.jobs[i]? = some j)
    (hj' : (w.act a).jobs[i]? = some j') (hphase : j.phase = .running (.done (.ok p)))
    (hafter : j'.isPersisted = true) : ∃ oracle, a = .advance i oracle ∧ w.job? i = some j := by
  have hbefore : j.isPersisted = false := by rw [Job.isPersisted, hphase]
  have hmoved : (w.act a).jobs[i]? ≠ w.jobs[i]? := by
    intro hsame
    rw [hj', hj] at hsame
    cases hsame
    cases hbefore.symm.trans hafter
  cases a with
  | advance k oracle =>
      by_cases hki : k = i
      · subst hki
        cases hjob : w.job? k with
        | none => exact absurd (by rw [act, onJob, hjob]) hmoved
        | some x =>
            cases hj.symm.trans (job?_eq_some_iff.1 hjob).1
            exact ⟨oracle, rfl, rfl⟩
      · exact absurd (getElem?_onJob_of_ne hki) hmoved
  | answer k reply =>
      rcases getElem?_onJob hj hj' with rfl | ⟨-, rfl⟩
      · cases hbefore.symm.trans hafter
      · have hsame : (j.answer reply w.site).1 = j := by rw [Job.answer, hphase]; rfl
        rw [hsame, hbefore] at hafter
        cases hafter
  | lose k =>
      rcases getElem?_onJob hj hj' with rfl | ⟨-, rfl⟩
      · cases hbefore.symm.trans hafter
      · have hsame : (j.lose w.site).1.isPersisted = j.isPersisted := rfl
        rw [hsame, hbefore] at hafter
        cases hafter
  | claim setup holder => exact absurd ((getElem?_claim hj).trans hj.symm) hmoved
  | create id role request =>
      refine absurd ?_ hmoved
      simp only [act]
      split <;> rfl
  | deliver | pass | upkeep => exact absurd rfl hmoved

/-- **A job gets to be written back by a write of its own that the store takes**, and stays so. -/
theorem isPersisted_act (hw : w.Sound) (hj : w.jobs[i]? = some j)
    (hj' : (w.act a).jobs[i]? = some j') :
    j'.isPersisted = (j.isPersisted || w.writesBack i a) := by
  obtain ⟨x, hx, hstep⟩ := step_act hw hj a
  cases hj'.symm.trans hx
  rw [Bool.eq_iff_iff, Bool.or_eq_true]
  constructor
  · intro hafter
    rcases hstep with rfl | hstep
    · exact Or.inl hafter
    · obtain ⟨p, t, isTold, hphase⟩ := Job.isPersisted_iff.1 hafter
      rcases hstep.persisted_cases hphase with ⟨isTold', hphase'⟩ | ⟨hphase', taken⟩
      · exact Or.inl (Job.isPersisted_iff.2 ⟨p, t, isTold', hphase'⟩)
      · obtain ⟨oracle, rfl, hjob⟩ := advances_of_persisted hj hj' hphase' hafter
        exact Or.inr (writesBack_iff.2 ⟨oracle, j, p, _, rfl, hjob, hphase', taken⟩)
  · rintro (hbefore | hwrites)
    · rcases hstep with rfl | hstep
      · exact hbefore
      · exact hstep.isPersisted hbefore
    · obtain ⟨oracle, x, p, t, rfl, hjob, hphase, taken⟩ := writesBack_iff.1 hwrites
      cases hj.symm.trans (job?_eq_some_iff.1 hjob).1
      have hself : (w.act (.advance i oracle)).jobs[i]? = some (j.advance oracle w.site).1 :=
        getElem?_onJob_self hjob
      cases hj'.symm.trans hself
      rw [advance_of_taken hw.calm hphase taken oracle]
      rfl

/-- In a run, too, a job is written back exactly by a write that the store takes. -/
theorem isPersisted_run (hw : w.Sound) (hj : w.jobs[i]? = some j) (actions : List Action) :
    ∃ j', (w.run actions).jobs[i]? = some j' ∧
      j'.isPersisted = (j.isPersisted || w.hasWritten i actions) := by
  induction actions generalizing w j with
  | nil => exact ⟨j, hj, by rw [hasWritten, Bool.or_false]⟩
  | cons a rest ih =>
      obtain ⟨x, hx, -⟩ := step_act hw hj a
      obtain ⟨j', hj', hpersisted⟩ := ih (sound_act hw a) hx
      refine ⟨j', hj', ?_⟩
      rw [hpersisted, isPersisted_act hw hj hx, hasWritten, Bool.or_assoc]

end World

/-! ## What a cycle reports -/

/-- What a claim cycle reports: how many transfers it claimed, and how many of them it wrote
back. -/
structure CycleReport where
  claimed : Nat
  persisted : Nat
  deriving DecidableEq, Repr

namespace World

variable {w : World}

/-- What the attempt of the job of a number came to. -/
def verdict? (w : World) (i : Nat) : Option Bool := w.jobs[i]?.bind Job.verdict?

/-- The report of the cycle that a worker opens and that goes on in a run, if it is over then. -/
def report? (w : World) (setup : Setup) (holder : String) (course : List Action) :
    Option CycleReport :=
  let last := (w.act (.claim setup holder)).run course
  match (SiteM.openCycle setup holder w.site).1 with
  | .ok (.ok batch) =>
      let verdicts := (List.range batch.length).map fun k => last.verdict? (w.jobs.length + k)
      if verdicts.all Option.isSome then some ⟨batch.length, verdicts.count (some true)⟩ else none
  | .ok (.error _) | .error _ => none

/-- A cycle that comes to a report has claimed its batch. -/
theorem claim_of_report? (hw : w.Sound) {setup : Setup} {holder : String} {course : List Action}
    {report : CycleReport} (h : w.report? setup holder course = some report) :
    (SiteM.openCycle setup holder w.site).1 = .ok (.ok (w.ledger.claimOf setup holder).1) ∧
      (w.act (.claim setup holder)).ledger =
        ⟨w.site.now, (w.ledger.claimOf setup holder).2,
          w.jobs ++ (w.ledger.claimOf setup holder).1.map (.fresh setup holder w.site.now)⟩ := by
  have heq : SiteM.openCycle setup holder w.site =
    ((SiteM.openCycle setup holder w.site).1, (SiteM.openCycle setup holder w.site).2) := rfl
  rcases SiteM.openCycle_spec hw.calm setup holder with ⟨batch, hresult, rfl, hsite⟩ | ⟨hresult, -⟩
  · refine ⟨hresult, ?_⟩
    rw [hresult] at heq
    show World.ledger (w.claim setup holder) = _
    rw [claim, heq, ledger, hsite.now_eq, hsite.transfers_eq]
    rfl
  · rw [report?, hresult] at h
    cases h

/-- The jobs of a cycle stand behind those that there were, in the order of the batch. -/
theorem getElem?_of_claimed {setup : Setup} {holder : String} {now : Instant} {w' : World}
    {batch : List Transfer} (hjobs : w'.jobs = w.jobs ++ batch.map (.fresh setup holder now))
    (k : Nat) : w'.jobs[w.jobs.length + k]? = batch[k]?.map (.fresh setup holder now) := by
  rw [hjobs, List.getElem?_append_right (Nat.le_add_right _ _), Nat.add_sub_cancel_left,
    List.getElem?_map]

/-- **What the report of a cycle says.**  Every attempt of the batch is over, and those are counted
that were written back. -/
theorem of_report?_eq_some (hw : w.Sound) {setup : Setup} {holder : String} {course : List Action}
    {report : CycleReport} (h : w.report? setup holder course = some report) :
    let opened := w.act (.claim setup holder)
    let batch := (w.ledger.claimOf setup holder).1
    report.claimed = batch.length ∧
      report.persisted = (List.range batch.length).countP
        (fun k => opened.hasWritten (w.jobs.length + k) course) ∧
      ∀ k < batch.length, ∃ j, (opened.run course).jobs[w.jobs.length + k]? = some j ∧
        j.isPending = false := by
  intro opened batch
  obtain ⟨hresult, hledger⟩ := claim_of_report? hw h
  have hjobs : opened.jobs = w.jobs ++ batch.map (.fresh setup holder w.site.now) :=
    congrArg Ledger.jobs hledger
  -- The verdict on a job of the batch is that the store took its write, or not.
  have hverdict : ∀ k < batch.length, ∃ j, (opened.run course).jobs[w.jobs.length + k]? = some j ∧
      (opened.run course).verdict? (w.jobs.length + k) = j.verdict? ∧
      j.isPersisted = opened.hasWritten (w.jobs.length + k) course := by
    intro k hk
    have hopened : opened.jobs[w.jobs.length + k]? =
        some (.fresh setup holder w.site.now batch[k]) := by
      rw [getElem?_of_claimed hjobs, List.getElem?_eq_getElem hk, Option.map_some]
    obtain ⟨j, hj, hpersisted⟩ := isPersisted_run (sound_act hw _) hopened course
    exact ⟨j, hj, by rw [verdict?, hj, Option.bind_some], hpersisted⟩
  unfold report? at h
  rw [hresult] at h
  simp only at h
  split at h
  · rename_i hall
    cases h
    have hover : ∀ k < batch.length, ∃ b,
        (opened.run course).verdict? (w.jobs.length + k) = some b := by
      intro k hk
      have hmem := List.all_eq_true.1 hall _ (List.mem_map.2 ⟨k, List.mem_range.2 hk, rfl⟩)
      exact Option.isSome_iff_exists.1 hmem
    refine ⟨rfl, ?_, ?_⟩
    · rw [List.count, List.countP_map]
      refine List.countP_congr fun k hk => ?_
      obtain ⟨j, -, hj, hpersisted⟩ := hverdict k (List.mem_range.1 hk)
      obtain ⟨b, hb⟩ := hover k (List.mem_range.1 hk)
      have hwritten : j.isPersisted = b := (Job.of_verdict?_eq_some (hj.symm.trans hb)).1
      show ((opened.run course).verdict? (w.jobs.length + k) == some true) = true ↔ _
      rw [hb, ← hpersisted, hwritten]
      simp
    · intro k hk
      obtain ⟨j, hget, hj, -⟩ := hverdict k hk
      obtain ⟨b, hb⟩ := hover k hk
      exact ⟨j, hget, (Job.of_verdict?_eq_some (hj.symm.trans hb)).2⟩
  · cases h

end World
end Connector
