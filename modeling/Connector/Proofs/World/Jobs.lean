import Connector.Proofs.Store.Copy
import Connector.Proofs.Worker.Outcome
import Connector.Proofs.World.Ledger

/-!
# The jobs of a world

A job knows the record as it was handed out.  Whatever happens, that copy is either what is stored
or outdated for good, and what the job has exchanged is a course of the attempt on that copy.
Statements:

* `sound_turn` — every turn keeps that up;
* `Reaches.result` — an attempt that was written back had one of the results of an attempt;
* `attempted_turn` — what was attempted stays so.
-/

namespace Connector

namespace Job

/-- What was exchanged leads from the beginning of the attempt to what is left of it. -/
def Reaches (j : Job) (rest : Attempt) : Prop :=
  ∃ now, Attempt.Course (.on j.setup j.claimed now) j.exchanges rest

/-- The phase of the job is where its exchanges lead. -/
def IsCourse (j : Job) : Prop :=
  match j.phase with
  | .fresh => j.exchanges = []
  | .running rest => j.Reaches rest
  | .calling c _ next => j.Reaches (.call c next)
  | .persisted p _ _ => j.Reaches (.done (.ok p))
  | .yielding | .released _ => ∃ result, j.Reaches (.done result)

/-- A job and a later stage of it. -/
structure Continues (j' j : Job) : Prop where
  setup_eq : j'.setup = j.setup
  holder_eq : j'.holder = j.holder
  claimed_eq : j'.claimed = j.claimed
  claimedAt_eq : j'.claimedAt = j.claimedAt

variable {now : Instant} {s t : Transfers} {j j' : Job}

theorem Step.continues (h : j.Step now s j' t) : j'.Continues j := by
  cases h <;> exact ⟨rfl, rfl, rfl, rfl⟩

/-- A step is one access to the store at most, which creates nothing. -/
theorem Step.access (h : j.Step now s j' t) :
    t = s ∨ ∃ op, (∀ p, op ≠ .create p) ∧ t = s.apply op := by
  cases h with
  | @persisted p _ _ taken =>
      exact Or.inr ⟨.update p, by simp, (Transfers.apply_update_of_ok taken).symm⟩
  | released => exact Or.inr ⟨.release _ _, by simp, rfl⟩
  | begun | noted | asked | placed | answered | failed | abandoned | told | lost =>
      exact Or.inl rfl

/-- What is left of an attempt goes on. -/
theorem Reaches.trans {xs : List Exchange} {a b : Attempt} (h : j.Reaches a)
    (hstep : Attempt.Course a xs b) (phase : Phase) :
    Reaches { j with exchanges := j.exchanges ++ xs, phase := phase } b := by
  obtain ⟨now, hcourse⟩ := h
  exact ⟨now, hcourse.trans hstep⟩

/-- A step goes on with the course of a job. -/
theorem Step.isCourse (h : j.Step now s j' t) (hj : j.IsCourse) : j'.IsCourse := by
  unfold IsCourse at hj
  cases h with
  | begun phase_eq =>
      rw [phase_eq] at hj
      have hcourse : Attempt.Course (.on j.setup j.claimed now) j.exchanges
          (.on j.setup j.claimed now) := hj ▸ .refl _
      exact ⟨now, hcourse⟩
  | noted phase_eq =>
      rw [phase_eq] at hj
      have hcourse := hj.trans (.note (.refl _)) .fresh
      rw [List.append_nil] at hcourse
      exact hcourse
  | asked phase_eq =>
      rw [phase_eq] at hj
      exact hj.trans (.ask (.refl _)) _
  | placed phase_eq =>
      rw [phase_eq] at hj
      exact hj
  | answered phase_eq =>
      rw [phase_eq] at hj
      exact hj.trans (.call (.refl _)) _
  | failed phase_eq | abandoned phase_eq =>
      rw [phase_eq] at hj
      exact ⟨_, hj⟩
  | persisted phase_eq | told phase_eq | released phase_eq =>
      rw [phase_eq] at hj
      exact hj
  | lost => exact hj

/-- What a step adds to the exchanges: nothing, an inquiry, or the answer to the call under
way. -/
theorem Step.mem_exchanges (h : j.Step now s j' t) {c : Call} {answer : Option c.Answer}
    {u : Instant} (hx : .call c answer u ∈ j'.exchanges) :
    .call c answer u ∈ j.exchanges ∨ ∃ since next, j.phase = .calling c since next ∧ u = now ∧
      j'.phase = .running (next answer now) := by
  cases h with
  | asked =>
      rcases List.mem_append.1 hx with hx | hx
      · exact Or.inl hx
      · cases List.mem_singleton.1 hx
  | answered phase_eq =>
      rcases List.mem_append.1 hx with hx | hx
      · exact Or.inl hx
      · cases List.mem_singleton.1 hx
        exact Or.inr ⟨_, _, phase_eq, rfl, rfl⟩
  | begun | noted | placed | failed | persisted | abandoned | told | released | lost =>
      exact Or.inl hx

/-- An attempt that is written back after a step was so before, or is written back by the step. -/
theorem Step.persisted_cases (h : j.Step now s j' t) {p : Transfer} {u : Instant} {isTold : Bool}
    (hphase : j'.phase = .persisted p u isTold) :
    (∃ isTold', j.phase = .persisted p u isTold') ∨
      (j.phase = .running (.done (.ok p)) ∧ s.update p = .ok t) := by
  cases h with
  | told phase_eq =>
      cases hphase
      exact Or.inl ⟨false, phase_eq⟩
  | persisted phase_eq taken =>
      cases hphase
      exact Or.inr ⟨phase_eq, taken⟩
  | lost => exact Or.inl ⟨isTold, hphase⟩
  | begun | noted | asked | placed | answered | failed | abandoned | released => cases hphase

/-- A job is sound in a store: its copy is what is stored or outdated, the copy carries the lease
that the claim gave, and the exchanges are a course of the attempt. -/
structure Sound (s : Transfers) (j : Job) : Prop where
  copy : s.Holds j.claimed ∨ s.Outdates j.claimed
  lease_eq : j.claimed.lease = some (SiteM.claimOf j.setup j.holder j.claimedAt).lease
  isCourse : j.IsCourse

theorem Sound.apply {s : Transfers} (hs : s.IsKeyed) {j : Job} (h : j.Sound s) (op : Operation) :
    j.Sound (s.apply op) := by
  refine ⟨?_, h.lease_eq, h.isCourse⟩
  rcases h.copy with hholds | hout
  · rcases Transfers.holds_or_outdates_apply hs hholds op with ⟨-, hholds⟩ | ⟨-, hout⟩
    · exact Or.inl hholds
    · exact Or.inr hout
  · exact Or.inr (Transfers.outdates_apply hs hout op)

theorem Sound.step (h : j.Sound t) (hstep : j.Step now s j' t) : j'.Sound t := by
  obtain ⟨setup_eq, holder_eq, claimed_eq, claimedAt_eq⟩ := hstep.continues
  refine ⟨?_, ?_, hstep.isCourse h.isCourse⟩
  · rw [claimed_eq]
    exact h.copy
  · rw [setup_eq, holder_eq, claimed_eq, claimedAt_eq]
    exact h.lease_eq

/-- An attempt that ended with a record had one of the results of an attempt. -/
theorem Reaches.result {p : Transfer} (h : j.Reaches (.done (.ok p))) :
    ∃ now, Attempt.Result j.setup j.claimed now j.exchanges p := by
  obtain ⟨now, hcourse⟩ := h
  exact ⟨now, Attempt.result_of_yields hcourse⟩

theorem Sound.reaches_of_running {rest : Attempt} (h : j.Sound s)
    (phase_eq : j.phase = .running rest) : j.Reaches rest := by
  have hcourse := h.isCourse
  rw [IsCourse, phase_eq] at hcourse
  exact hcourse

/-- The result of a sound job is the record that was claimed with a later content; the store takes
it back exactly if the copy is what is stored. -/
theorem Sound.update_eq_ok_iff_of_reaches {p : Transfer} (h : j.Sound s)
    (hp : j.Reaches (.done (.ok p))) :
    s.update p = .ok t ↔
      s.Holds j.claimed ∧ t = ⟨Table.put p.id (p.written j.claimed) s.records⟩ := by
  obtain ⟨_, hresult⟩ := hp.result
  have hcontinues := hresult.continues
  have hsame : j.claimed.sameHolder p = true := by
    simp [Transfer.sameHolder, hcontinues.lease_eq, h.lease_eq]
  rcases h.copy with hholds | hout
  · rw [Transfers.update_of_holds hholds hcontinues.id_eq hcontinues.version_eq hsame]
    simp [hholds, eq_comm]
  · rw [Transfers.update_of_outdates hout hcontinues.id_eq hcontinues.version_eq]
    have hlease : j.claimed.lease.isSome = true := by rw [h.lease_eq]; rfl
    simp [hout.not_holds hlease]

theorem Sound.update_eq_ok_iff {p : Transfer} (h : j.Sound s)
    (phase_eq : j.phase = .running (.done (.ok p))) :
    s.update p = .ok t ↔
      s.Holds j.claimed ∧ t = ⟨Table.put p.id (p.written j.claimed) s.records⟩ :=
  h.update_eq_ok_iff_of_reaches (h.reaches_of_running phase_eq)

end Job

namespace Ledger

/-- The store is in order, and so is every job. -/
structure Sound (l : Ledger) : Prop where
  isKeyed : l.transfers.IsKeyed
  jobs : ∀ j ∈ l.jobs, j.Sound l.transfers

variable {l l' : Ledger} {a : Action}

/-- A turn is one access to the store at most. -/
theorem Turn.access (h : l.Turn a l') :
    l'.transfers = l.transfers ∨ ∃ op, l'.transfers = l.transfers.apply op := by
  cases h with
  | still | passed => exact Or.inl rfl
  | @created id role request t _ added =>
      exact Or.inr ⟨.create (.create id role request l.now),
        (Transfers.apply_create_of_ok added).symm⟩
  | @signalled id x p t taken =>
      exact Or.inr ⟨.signal id x, (Transfers.apply_signal_of_ok taken).symm⟩
  | claimed => exact Or.inr ⟨.claim _ _ _, rfl⟩
  | worked _ _ step =>
      rcases step.access with heq | ⟨op, -, heq⟩
      · exact Or.inl heq
      · exact Or.inr ⟨op, heq⟩

/-- A turn changes at most one job, and adds jobs on what was claimed. -/
theorem Turn.jobs (h : l.Turn a l') {j' : Job} (hj' : j' ∈ l'.jobs) :
    j' ∈ l.jobs ∨
      (∃ j ∈ l.jobs, j.Step l.now l.transfers j' l'.transfers) ∨
      ∃ setup holder, ∃ p ∈ (l.claimOf setup holder).1,
        l'.transfers = (l.claimOf setup holder).2 ∧ j' = .fresh setup holder l.now p := by
  cases h with
  | still | passed | created | signalled => exact Or.inl hj'
  | @claimed setup holder =>
      rcases List.mem_append.1 hj' with hj' | hj'
      · exact Or.inl hj'
      · obtain ⟨p, hp, rfl⟩ := List.mem_map.1 hj'
        exact Or.inr (Or.inr ⟨setup, holder, p, hp, rfl, rfl⟩)
  | worked found _ step =>
      rcases List.mem_or_eq_of_mem_set hj' with hj' | rfl
      · exact Or.inl hj'
      · exact Or.inr (Or.inl ⟨_, List.mem_of_getElem? found, step⟩)

/-- Every turn keeps a ledger sound. -/
theorem sound_turn (h : l.Turn a l') (hl : l.Sound) : l'.Sound := by
  have hjob : ∀ j : Job, j.Sound l.transfers → j.Sound l'.transfers := by
    intro j hj
    rcases h.access with heq | ⟨op, heq⟩
    · rw [heq]
      exact hj
    · rw [heq]
      exact hj.apply hl.isKeyed op
  refine ⟨?_, ?_⟩
  · rcases h.access with heq | ⟨op, heq⟩
    · rw [heq]
      exact hl.isKeyed
    · rw [heq]
      exact Transfers.isKeyed_apply hl.isKeyed op
  · intro j' hj'
    rcases h.jobs hj' with hj' | ⟨j, hj, step⟩ | ⟨setup, holder, p, hp, heq, rfl⟩
    · exact hjob j' (hl.jobs j' hj')
    · exact (hjob j (hl.jobs j hj)).step step
    · obtain ⟨hholds, hlease⟩ := Transfers.holds_of_mem_claim hl.isKeyed hp
      rw [heq]
      exact ⟨Or.inl hholds, hlease, rfl⟩

/-! ## What was attempted -/

/-- A worker's attempt on a record ended, by these exchanges, with a record that was written
back. -/
def Attempted (l : Ledger) (setup : Setup) (claimed : Transfer) (xs : List Exchange)
    (p : Transfer) : Prop :=
  ∃ j ∈ l.jobs, j.setup = setup ∧ j.claimed = claimed ∧ j.exchanges = xs ∧
    ∃ t isTold, j.phase = .persisted p t isTold

variable {setup : Setup} {claimed p : Transfer} {xs : List Exchange}

/-- A member of a list is the one that is replaced, or stays a member. -/
private theorem mem_set_of_mem {α : Type} {as : List α} {i : Nat} {a b x : α} (hx : x ∈ as)
    (ha : as[i]? = some a) : x = a ∨ x ∈ as.set i b := by
  obtain ⟨k, hk⟩ := List.getElem?_of_mem hx
  by_cases hik : i = k
  · subst hik
    exact Or.inl (Option.some.inj (hk.symm.trans ha))
  · exact Or.inr (List.mem_of_getElem? ((List.getElem?_set_ne hik).trans hk))

/-- What was attempted stays so. -/
theorem attempted_turn (h : l.Turn a l') (hatt : l.Attempted setup claimed xs p) :
    l'.Attempted setup claimed xs p := by
  obtain ⟨j, hj, hsetup, hclaimed, hxs, t, isTold, hphase⟩ := hatt
  cases h with
  | still | passed | created | signalled =>
      exact ⟨j, hj, hsetup, hclaimed, hxs, t, isTold, hphase⟩
  | claimed =>
      exact ⟨j, List.mem_append_left _ hj, hsetup, hclaimed, hxs, t, isTold, hphase⟩
  | @worked _ i k k' s found _ step =>
      rcases mem_set_of_mem (b := k') hj found with rfl | hmem
      · obtain ⟨hlt, -⟩ := List.getElem?_eq_some_iff.1 found
        refine ⟨k', List.mem_set hlt _, ?_⟩
        -- Of a job that was written back nothing is left to do but to tell of it.
        cases step with
        | told phase_eq =>
            rw [hphase] at phase_eq
            cases phase_eq
            exact ⟨hsetup, hclaimed, hxs, t, true, rfl⟩
        | lost => exact ⟨hsetup, hclaimed, hxs, t, isTold, hphase⟩
        | begun phase_eq | noted phase_eq | asked phase_eq | placed phase_eq
        | answered phase_eq | failed phase_eq | persisted phase_eq | abandoned phase_eq
        | released phase_eq =>
            rw [hphase] at phase_eq
            cases phase_eq
      · exact ⟨j, hmem, hsetup, hclaimed, hxs, t, isTold, hphase⟩

/-- What was attempted had one of the results of an attempt. -/
theorem Attempted.result (hl : l.Sound) (h : l.Attempted setup claimed xs p) :
    ∃ now, Attempt.Result setup claimed now xs p := by
  obtain ⟨j, hj, rfl, rfl, rfl, t, isTold, hphase⟩ := h
  have hcourse := (hl.jobs j hj).isCourse
  rw [Job.IsCourse, hphase] at hcourse
  exact hcourse.result

end Ledger

namespace World

/-- No access to the records is arranged to fail, and the records and jobs are in order. -/
structure Sound (w : World) : Prop where
  calm : w.site.failing = []
  ledger : w.ledger.Sound

theorem Sound.isKeyed {w : World} (h : w.Sound) : w.site.transfers.IsKeyed := h.ledger.isKeyed

theorem sound_start (now : Instant) (capacity : Nat) (liveness : Option Int) :
    (start now capacity liveness).Sound :=
  ⟨rfl, Transfers.isKeyed_empty, by simp [start, World.ledger]⟩

theorem sound_act {w : World} (h : w.Sound) (a : Action) : (w.act a).Sound := by
  obtain ⟨hturn, hcalm⟩ := turns_act h.calm a
  exact ⟨hcalm, Ledger.sound_turn hturn h.ledger⟩

theorem sound_run {w : World} (h : w.Sound) (actions : List Action) : (w.run actions).Sound := by
  induction actions generalizing w with
  | nil => exact h
  | cons a rest ih => exact ih (sound_act h a)

/-- What every turn keeps up holds in every run. -/
theorem run_induction {P : Ledger → Prop}
    (hP : ∀ {l l' : Ledger} {a : Action}, l.Sound → l.Turn a l' → P l → P l') {w : World}
    (hw : w.Sound) (h : P w.ledger) (actions : List Action) : P (w.run actions).ledger := by
  induction actions generalizing w with
  | nil => exact h
  | cons a rest ih =>
      obtain ⟨hturn, -⟩ := turns_act hw.calm a
      exact ih (sound_act hw a) (hP hw.ledger hturn h)

/-! ## What becomes of a job -/

variable {w : World} {i k : Nat} {j j' : Job} {f : Job → SiteM Job}

theorem getElem?_onJob_self (hjob : w.job? i = some j) :
    (w.onJob i f).jobs[i]? = some (f j w.site).1 := by
  obtain ⟨found, -⟩ := job?_eq_some_iff.1 hjob
  obtain ⟨hlt, -⟩ := List.getElem?_eq_some_iff.1 found
  simp only [onJob, hjob]
  exact List.getElem?_set_self hlt

/-- When some job does something the other jobs stay as they are. -/
theorem getElem?_onJob_of_ne (hne : k ≠ i) : (w.onJob k f).jobs[i]? = w.jobs[i]? := by
  unfold onJob
  cases w.job? k with
  | none => rfl
  | some j => exact List.getElem?_set_ne hne

/-- What becomes of a job when some job does something. -/
theorem getElem?_onJob (hj : w.jobs[i]? = some j) (hj' : (w.onJob k f).jobs[i]? = some j') :
    j' = j ∨ (i = k ∧ j' = (f j w.site).1) := by
  by_cases hki : k = i
  · subst hki
    cases hjob : w.job? k with
    | none =>
        rw [onJob, hjob] at hj'
        exact Or.inl (Option.some.inj (hj'.symm.trans hj))
    | some x =>
        obtain ⟨found, -⟩ := job?_eq_some_iff.1 hjob
        cases hj.symm.trans found
        exact Or.inr ⟨rfl, Option.some.inj (hj'.symm.trans (getElem?_onJob_self hjob))⟩
  · rw [getElem?_onJob_of_ne hki] at hj'
    exact Or.inl (Option.some.inj (hj'.symm.trans hj))

/-- A claim leaves the jobs that there are alone. -/
theorem getElem?_claim {setup : Setup} {holder : String} (hj : w.jobs[i]? = some j) :
    (w.claim setup holder).jobs[i]? = some j := by
  obtain ⟨hlt, -⟩ := List.getElem?_eq_some_iff.1 hj
  unfold claim
  split
  · rw [List.getElem?_append_left hlt]
    exact hj
  · exact hj

end World
end Connector
