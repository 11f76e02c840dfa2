import Mathlib.Data.List.Induction
import Connector.Proofs.World.Tidings

/-!
# What a run publishes

What a job has written back it owes to those who listen, until it has told it by its next step.
Everybody else may act in between; a run is prompt if nobody does.  Statements:

* `told_run` — what the steps of a job publish in a run is what the job has told by then;
* `owes_act` — a job comes to owe its tidings by writing its result back, and by nothing else.
-/

namespace Connector

/-- Whether an action is the next step of the job of a number. -/
def Action.advances (i : Nat) : Action → Bool
  | .advance k _ => k == i
  | .create _ _ _ | .deliver _ _ | .claim _ _ | .answer _ _ | .lose _ | .pass _ | .upkeep _ => false

namespace Job

/-- What the steps of a job have published. -/
def told (j : Job) : List TransferEvent :=
  match j.phase with
  | .persisted p _ true => j.claimed.tidings p
  | .persisted _ _ false | .fresh | .running _ | .calling _ _ _ | .yielding | .released _ => []

end Job

namespace World

/-- Whether the job of a number has written its result back and is still to tell of it. -/
def owes (w : World) (i : Nat) : Bool := w.jobs[i]?.any (·.untold?.isSome)

/-- Whether in a run everything that was written back is told before anything else happens. -/
def isPrompt (w : World) : List Action → Bool
  | [] => true
  | a :: rest =>
      (List.range w.jobs.length).all (fun i => !w.owes i || a.advances i)
        && (w.act a).isPrompt rest

/-- What a run publishes of transfers, in its order. -/
def publications (w : World) : List Action → List TransferEvent
  | [] => []
  | a :: rest => w.published a ++ (w.act a).publications rest

/-- What the steps of the job of a number publish in a run. -/
def publishedBy (i : Nat) (w : World) : List Action → List TransferEvent
  | [] => []
  | a :: rest => (if a.advances i then w.published a else []) ++ publishedBy i (w.act a) rest

variable {w : World} {a : Action} {i : Nat} {j : Job} {id : String}

theorem publications_append (before after : List Action) :
    w.publications (before ++ after) =
      w.publications before ++ (w.run before).publications after := by
  induction before generalizing w with
  | nil => rfl
  | cons a rest ih => simp only [List.cons_append, publications, ih, run_cons, List.append_assoc]

theorem publishedBy_append (before after : List Action) :
    w.publishedBy i (before ++ after) =
      w.publishedBy i before ++ (w.run before).publishedBy i after := by
  induction before generalizing w with
  | nil => rfl
  | cons a rest ih => simp only [List.cons_append, publishedBy, ih, run_cons, List.append_assoc]

theorem isPrompt_append (before after : List Action) :
    w.isPrompt (before ++ after) = (w.isPrompt before && (w.run before).isPrompt after) := by
  induction before generalizing w with
  | nil => rfl
  | cons a rest ih => simp only [List.cons_append, isPrompt, ih, run_cons, Bool.and_assoc]

theorem owes_eq_true_iff :
    w.owes i = true ↔ ∃ j p t, w.jobs[i]? = some j ∧ j.phase = .persisted p t false := by
  unfold owes
  rw [Option.any_eq_true]
  constructor
  · rintro ⟨j, hj, howes⟩
    obtain ⟨⟨p, t⟩, huntold⟩ := Option.isSome_iff_exists.1 howes
    exact ⟨j, p, t, hj, Job.untold?_eq_some_iff.1 huntold⟩
  · rintro ⟨j, p, t, hj, hphase⟩
    exact ⟨j, hj, by rw [Job.untold?_eq_some_iff.2 hphase]; rfl⟩

/-- In a prompt run the next action is a step of the job that owes its tidings. -/
theorem isPrompt_cons_iff {rest : List Action} :
    w.isPrompt (a :: rest) = true ↔
      (∀ i, w.owes i = true → a.advances i = true) ∧ (w.act a).isPrompt rest = true := by
  simp only [isPrompt, Bool.and_eq_true, List.all_eq_true, List.mem_range, Bool.or_eq_true,
    Bool.not_eq_true']
  refine and_congr_left fun _ => ⟨fun h i howes => ?_, fun h i _ => ?_⟩
  · obtain ⟨j, _, _, hj, -⟩ := owes_eq_true_iff.1 howes
    obtain ⟨hlt, -⟩ := List.getElem?_eq_some_iff.1 hj
    exact (h i hlt).resolve_left (by simp [howes])
  · cases howes : w.owes i with
    | false => exact Or.inl rfl
    | true => exact Or.inr (h i howes)

theorem exists_of_advances (h : a.advances i = true) : ∃ oracle, a = .advance i oracle := by
  cases a with
  | advance k oracle =>
      obtain rfl := beq_iff_eq.1 h
      exact ⟨oracle, rfl⟩
  | create | deliver | claim | answer | lose | pass | upkeep => cases h

/-! ## What a job publishes -/

/-- After writing back a job owes its tidings, or has its lease to give back. -/
theorem writeBack_cases (result : Except Transfer.Refusal Transfer) (s : Site) :
    (∃ p t, (j.writeBack result s).1 = j.inPhase (.persisted p t false)) ∨
      (j.writeBack result s).1 = j.inPhase .yielding := by
  cases hp : (SiteM.writeBack j.claimed result s).1 with
  | some p =>
      have heq : j.writeBack result s = (j.inPhase (.persisted p _ false), _) :=
        SiteM.bind_eq (Prod.ext hp rfl)
      exact Or.inl ⟨p, _, congrArg Prod.fst heq⟩
  | none =>
      have heq : j.writeBack result s = (j.inPhase .yielding, _) :=
        SiteM.bind_eq (Prod.ext hp rfl)
      exact Or.inr (congrArg Prod.fst heq)

/-- What a job owed before its next step, it has told after it. -/
theorem told_advance (oracle : (q : Inquiry) → q.Answer) (s : Site) :
    (j.advance oracle s).1.told = j.told ++ j.tidings := by
  have hwritten : ∀ result, (j.writeBack result s).1.told = [] := by
    intro result
    rcases writeBack_cases (j := j) result s with ⟨p, t, heq⟩ | heq <;> rw [heq] <;> rfl
  unfold Job.advance Job.tidings Job.untold?
  rw [Job.told.eq_def j]
  cases hphase : j.phase with
  | fresh | yielding => rfl
  | calling | released =>
      show j.told = []
      rw [Job.told, hphase]
  | persisted p t isTold =>
      cases isTold with
      | false => rfl
      | true =>
          show j.told = j.claimed.tidings p ++ []
          rw [Job.told, hphase, List.append_nil]
  | running rest =>
      cases rest with
      | note | ask | call => rfl
      | done result =>
          rcases result with (e | _) | p
          · exact hwritten _
          · show j.told = []
            rw [Job.told, hphase]
          · exact hwritten _

/-- An answer reaches a job that waits for it, and no other. -/
theorem answer_cases (reply : (c : Call) → Option c.Answer) (s : Site) :
    (j.answer reply s).1 = j ∨
      j.told = [] ∧ ∃ rest, (j.answer reply s).1.phase = .running rest := by
  unfold Job.answer
  cases hphase : j.phase with
  | calling c since next => exact Or.inr ⟨by rw [Job.told, hphase], _, rfl⟩
  | fresh | running | persisted | yielding | released => exact Or.inl rfl

theorem told_answer (reply : (c : Call) → Option c.Answer) (s : Site) :
    (j.answer reply s).1.told = j.told := by
  rcases answer_cases (j := j) reply s with hsame | ⟨hnone, rest, hrunning⟩
  · rw [hsame]
  · rw [hnone, Job.told, hrunning]

/-- What an action has a job tell is what the action publishes, if it is a step of the job. -/
theorem told_act (hj : w.jobs[i]? = some j) (a : Action) :
    ∃ j', (w.act a).jobs[i]? = some j' ∧
      j'.told = j.told ++ if a.advances i then w.published a else [] := by
  have hsame : a.advances i = false → (w.act a).jobs[i]? = some j →
      ∃ j', (w.act a).jobs[i]? = some j' ∧
        j'.told = j.told ++ if a.advances i then w.published a else [] := by
    intro hother hj'
    exact ⟨j, hj', by simp [hother]⟩
  have htold : ∀ {k : Nat} {f : Job → SiteM Job}, w.jobs[k]? = some j →
      (f j w.site).1.told = j.told →
      ∃ j', (w.onJob k f).jobs[k]? = some j' ∧ j'.told = j.told ++ [] := by
    intro k f hj hkept
    cases hjob : w.job? k with
    | none => exact ⟨j, by simp only [onJob, hjob, hj], (List.append_nil _).symm⟩
    | some j' =>
        obtain ⟨found, -⟩ := job?_eq_some_iff.1 hjob
        cases hj.symm.trans found
        exact ⟨_, getElem?_onJob_self hjob, by rw [hkept, List.append_nil]⟩
  cases a with
  | create id role request =>
      refine hsame rfl ?_
      simp only [act]
      split <;> exact hj
  | deliver | pass | upkeep => exact hsame rfl hj
  | claim setup holder => exact hsame rfl (getElem?_claim hj)
  | advance k oracle =>
      by_cases hk : k = i
      · subst hk
        cases hjob : w.job? k with
        | none =>
            refine ⟨j, ?_, ?_⟩
            · show (w.onJob k fun j => j.advance oracle).jobs[k]? = some j
              simp only [onJob, hjob, hj]
            · simp [published, hjob, Action.advances]
        | some j' =>
            obtain ⟨found, -⟩ := job?_eq_some_iff.1 hjob
            cases hj.symm.trans found
            refine ⟨_, getElem?_onJob_self hjob, ?_⟩
            rw [told_advance oracle w.site]
            simp [published, hjob, Action.advances]
      · refine hsame (by simp [Action.advances, hk]) ?_
        exact (getElem?_onJob_of_ne hk).trans hj
  | answer k reply =>
      by_cases hk : k = i
      · subst hk
        exact htold hj (told_answer reply w.site)
      · exact hsame rfl ((getElem?_onJob_of_ne hk).trans hj)
  | lose k =>
      by_cases hk : k = i
      · subst hk
        exact htold hj rfl
      · exact hsame rfl ((getElem?_onJob_of_ne hk).trans hj)

/-- A job that is new was just handed its record. -/
theorem phase_of_new {j' : Job} (hnone : w.jobs[i]? = none)
    (hj' : (w.act a).jobs[i]? = some j') : j'.phase = .fresh := by
  have habsent : ∀ {jobs : List Job}, jobs.length = w.jobs.length → jobs[i]? ≠ some j' := by
    intro jobs hlength hsome
    have hge := List.getElem?_eq_none_iff.1 hnone
    obtain ⟨hlt, -⟩ := List.getElem?_eq_some_iff.1 hsome
    omega
  have hwork : ∀ (k : Nat) (f : Job → SiteM Job), (w.onJob k f).jobs[i]? ≠ some j' := by
    intro k f
    refine habsent ?_
    unfold onJob
    cases w.job? k with
    | none => rfl
    | some j => exact List.length_set
  cases a with
  | create id role request =>
      refine absurd hj' (habsent ?_)
      simp only [act]
      split <;> rfl
  | deliver | pass | upkeep => exact absurd hj' (habsent rfl)
  | advance | answer | lose => exact absurd hj' (hwork _ _)
  | claim setup holder =>
      have hclaim : (w.claim setup holder).jobs[i]? = some j' := hj'
      unfold claim at hclaim
      split at hclaim
      · rw [List.getElem?_append_right (List.getElem?_eq_none_iff.1 hnone),
          List.getElem?_map] at hclaim
        obtain ⟨p, -, rfl⟩ := Option.map_eq_some_iff.1 hclaim
        rfl
      · exact absurd hclaim (habsent rfl)

/-- **What the steps of a job publish** in a run is what the job has told. -/
theorem told_run (now : Instant) (capacity : Nat) (liveness : Option Int) (i : Nat)
    (actions : List Action) :
    (start now capacity liveness).publishedBy i actions =
      ((((start now capacity liveness).run actions).jobs[i]?).map Job.told).getD [] := by
  induction actions using List.reverseRecOn with
  | nil => rfl
  | append_singleton before a ih =>
      rw [publishedBy_append, ih, run_append]
      generalize (start now capacity liveness).run before = w
      simp only [publishedBy, List.append_nil, run_cons, run_nil]
      cases hj : w.jobs[i]? with
      | some j =>
          obtain ⟨j', hj', htold⟩ := told_act hj a
          rw [hj', Option.map_some, Option.map_some, Option.getD_some, Option.getD_some, htold]
      | none =>
          have hquiet : (if a.advances i then w.published a else []) = [] := by
            split
            · rename_i hstep
              obtain ⟨oracle, rfl⟩ := exists_of_advances hstep
              simp [published, job?, hj]
            · rfl
          rw [hquiet]
          cases hj' : (w.act a).jobs[i]? with
          | none => rfl
          | some j' =>
              rw [Option.map_some, Option.getD_some, Job.told, phase_of_new hj hj']
              rfl

/-! ## What is still to be told -/

/-- A job comes to owe its tidings by writing its result back. -/
theorem running_of_advance {oracle : (q : Inquiry) → q.Answer} {s : Site} (calm : s.failing = [])
    {p : Transfer} {t : Instant} (h : (j.advance oracle s).1.phase = .persisted p t false) :
    ∃ q, j.phase = .running (.done (.ok q)) ∧ ∃ t, s.transfers.update q = .ok t := by
  unfold Job.advance at h
  cases hphase : j.phase with
  | fresh | yielding =>
      rw [hphase] at h
      cases h
  | calling | released =>
      rw [hphase] at h
      cases hphase.symm.trans h
  | persisted q u isTold =>
      rw [hphase] at h
      cases isTold with
      | false => cases h
      | true => cases hphase.symm.trans h
  | running rest =>
      rw [hphase] at h
      cases rest with
      | note | ask | call => cases h
      | done result =>
          rcases result with (e | _) | q
          · cases h
          · cases hphase.symm.trans h
          · rcases SiteM.writeBack_spec calm j.claimed q with ⟨t, taken, -⟩ | ⟨e, -, hp, -⟩
            · exact ⟨q, rfl, t, taken⟩
            · have heq : j.writeBack (.ok q) s = (j.inPhase .yielding, _) :=
                SiteM.bind_eq (Prod.ext hp rfl)
              have hphase' : (j.writeBack (.ok q) s).1.phase = .persisted p t false := h
              rw [heq] at hphase'
              cases hphase'

/-- An action makes a job owe its tidings by writing its result back. -/
theorem owes_act (calm : w.site.failing = []) (silent : ∀ k, w.owes k = false)
    (h : (w.act a).owes i = true) :
    ∃ oracle j p t, a = .advance i oracle ∧ w.job? i = some j ∧
      j.phase = .running (.done (.ok p)) ∧ w.site.transfers.update p = .ok t := by
  obtain ⟨j', p, t, hj', hphase⟩ := owes_eq_true_iff.1 h
  have hsilent : ∀ j, w.jobs[i]? = some j → ∀ p t, j.phase ≠ .persisted p t false := by
    intro j hj p t hphase
    exact Bool.false_ne_true ((silent i).symm.trans (owes_eq_true_iff.2 ⟨j, p, t, hj, hphase⟩))
  have hsame : (w.act a).jobs[i]? ≠ w.jobs[i]? := fun heq =>
    hsilent j' (heq ▸ hj') p t hphase
  cases hj : w.jobs[i]? with
  | none =>
      cases (phase_of_new hj hj').symm.trans hphase
  | some j =>
  cases a with
  | create id role request =>
      refine absurd ?_ hsame
      simp only [act]
      split <;> rfl
  | deliver | pass | upkeep => exact absurd rfl hsame
  | claim setup holder => exact absurd ((getElem?_claim hj).trans hj.symm) hsame
  | advance k oracle =>
      by_cases hk : k = i
      · subst hk
        have hstep : (w.onJob k fun j => j.advance oracle).jobs[k]? = some j' := hj'
        cases hjob : w.job? k with
        | none =>
            rw [onJob, hjob] at hstep
            exact absurd (hj'.trans hstep.symm) hsame
        | some x =>
            obtain ⟨found, -⟩ := job?_eq_some_iff.1 hjob
            cases hj.symm.trans found
            cases hstep.symm.trans (getElem?_onJob_self hjob)
            obtain ⟨q, hq, u, taken⟩ := running_of_advance calm hphase
            exact ⟨oracle, j, q, u, rfl, rfl, hq, taken⟩
      · exact absurd (getElem?_onJob_of_ne hk) hsame
  | answer k reply =>
      rcases getElem?_onJob hj hj' with rfl | ⟨rfl, rfl⟩
      · exact absurd (hj'.trans hj.symm) hsame
      · rcases answer_cases (j := j) reply w.site with heq | ⟨-, rest, hrunning⟩
        · rw [heq] at hphase
          exact absurd hphase (hsilent j hj p t)
        · cases hrunning.symm.trans hphase
  | lose k =>
      rcases getElem?_onJob hj hj' with rfl | ⟨rfl, rfl⟩
      · exact absurd (hj'.trans hj.symm) hsame
      · exact absurd hphase (hsilent j hj p t)

end World
end Connector
