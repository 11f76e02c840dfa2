import Connector.Proofs.Store.Claiming
import Connector.Proofs.World.Cycle

/-!
# What a claim cycle leaves behind

An attempt changes its copy long before anybody knows whether it will be written back: it takes the
command that waits, records a flow, moves the state.  If it is not written back, none of this is to
be found in the store.  What is there is the record before the claim, with what others did to it
meanwhile; this is told step by step beside the run.

While a cycle goes on its holder has leases, but each of them on a record whose attempt is still
pending.  An attempt stops pending by a write, which drops the lease, or by giving it back.  A
worker that had the same name before cannot interfere: where nothing is on lease to the name at the
beginning, the copies handed out under it are outdated.  Statements:

* `heeded_congr`, `retell_congr` — signals go by the content of a record;
* `content_act` — what an action does to the content of a record, unless it writes it back for the
  holder;
* `runs_claim`, `runs_act`, `runs_run` — what holds in the midst of a cycle;
* `cycle_leaves_no_trace` — when the cycle is over no record is on lease to its holder, and the
  attempts that were not written back changed nothing.
-/

namespace Connector

namespace Transfer

variable {r q : Transfer}

/-- The record apart from lease and version. -/
def content (r : Transfer) : Transfer := { r with lease := none, version := 0 }

/-- The record after a signal, which may leave it as it is. -/
def heeded (r : Transfer) (x : Signal) : Transfer :=
  match r.accept x with
  | .ok (some q) => q
  | .ok none | .error _ => r

@[simp] theorem content_leased (r : Transfer) (c : Claim) : (r.leased c).content = r.content := rfl

@[simp] theorem content_written (p r : Transfer) : (p.written r).content = p.content := rfl

@[simp] theorem content_withoutLease (r : Transfer) : r.withoutLease.content = r.content := rfl

@[simp] theorem content_bumped (r : Transfer) : r.bumped.content = r.content := rfl

/-- Neither lease nor version plays a part in whether a signal is taken. -/
theorem accept_content (r : Transfer) (x : Signal) :
    r.content.accept x = (r.accept x).map (Option.map content) := by
  cases x with
  | cancel =>
      by_cases h : (r.state.isTerminal || r.state == .terminating ||
          r.pendingCommand == some .cancel) = true
      · simp only [accept, content, h, if_true]
        rfl
      · simp only [accept, content, h]
        rfl
  | suspend =>
      by_cases hstate : r.state = .suspended <;> cases hsuspend : r.state.canSuspend <;>
        rcases hpending : r.pendingCommand with _ | (_ | _ | _) <;>
          simp [accept, content, refuse, withCommand, withoutCommand, Except.map, hstate,
            hpending, hsuspend]
  | resume =>
      by_cases hstate : r.state = .suspended <;>
        rcases hpending : r.pendingCommand with _ | (_ | _ | _) <;>
          simp [accept, content, refuse, withCommand, withoutCommand, Except.map, hstate,
            hpending]
  | completion handle outcome =>
      by_cases h : (r.state.isTerminal || r.completion.isSome) = true
      · simp only [accept, content, h, if_true]
        rfl
      · cases hflow : r.dataFlow with
        | none =>
            simp only [accept, content, h, hflow]
            rfl
        | some flow =>
            by_cases hhandle : flow.handle = handle <;>
              simp [accept, content, h, hflow, hhandle, Except.map]

theorem content_heeded (r : Transfer) (x : Signal) :
    (r.heeded x).content = (r.content.heeded x).content := by
  unfold heeded
  rw [accept_content]
  rcases r.accept x with _ | (_ | q) <;> rfl

theorem heeded_congr (h : r.content = q.content) (x : Signal) :
    (r.heeded x).content = (q.heeded x).content := by
  rw [content_heeded, h, ← content_heeded]

end Transfer

/-- What is given back is not on lease to the one who gave it back. -/
theorem Transfers.holder_ne_of_released {s : Transfers} {id holder : String} {r : Transfer}
    {lease : Lease} (hr : (s.release id holder).find? id = some r)
    (hlease : r.lease = some lease) : lease.holder ≠ holder := by
  unfold release at hr
  split at hr
  · rename_i stored hstored
    split at hr
    · rw [find?_put, if_pos rfl] at hr
      cases hr
      cases hlease
    · rename_i hforeign
      cases hstored.symm.trans hr
      rw [hlease, Option.any_some, beq_iff_eq] at hforeign
      exact hforeign
  · rename_i hnone
    cases hnone.symm.trans hr

namespace World

variable {w : World} {holder id : String} {r q : Transfer} {a : Action}

/-- What a record is after an action of others than a holder, told without looking at the record
that is stored: a signal that it takes changes it, and what is written back takes its place. -/
def retell (w : World) (holder id : String) (r : Transfer) (a : Action) : Transfer :=
  match w.access? a with
  | some (.signal id' x) => if id' = id then r.heeded x else r
  | some (.update p) =>
      if p.id = id ∧ p.lease.any (·.holder != holder) ∧ (w.site.transfers.update p).isOk then p
      else r
  | some (.create _) | some (.claim _ _ _) | some (.release _ _) | none => r

/-- What a record is after a run, told like that. -/
def retold (w : World) (holder id : String) (r : Transfer) : List Action → Transfer
  | [] => r
  | a :: rest => (w.act a).retold holder id (w.retell holder id r a) rest

theorem retell_congr (h : r.content = q.content) :
    (w.retell holder id r a).content = (w.retell holder id q a).content := by
  unfold retell
  split
  · split
    · exact Transfer.heeded_congr h _
    · exact h
  · split
    · rfl
    · exact h
  · exact h
  · exact h
  · exact h
  · exact h

/-- What has no effect on a record is not told of it. -/
theorem retell_of_no_effect (hw : w.Sound) (hr : w.find? id = some r)
    (hno : ∀ op, w.access? a = some op → ∀ r', ¬ Transfers.Effect w.site.transfers r op r') :
    w.retell holder id r a = r := by
  have hid : r.id = id := Transfers.id_of_find? hw.ledger.isKeyed hr
  unfold retell
  split
  · rename_i id' x hop
    split
    · rename_i heq
      subst heq
      unfold Transfer.heeded
      split
      · rename_i q accepted
        exact absurd (.signalled accepted) (hno _ (by rw [hop, hid]) _)
      · rfl
      · rfl
    · rfl
  · rename_i p hop
    refine if_neg ?_
    rintro ⟨hpid, -, htaken⟩
    cases hupdate : w.site.transfers.update p with
    | error e =>
        rw [hupdate] at htaken
        cases htaken
    | ok t =>
        obtain ⟨stored, hstored, hversion, hholder, -⟩ := Transfers.update_eq_ok_iff.1 hupdate
        rw [hpid] at hstored
        cases hr.symm.trans hstored
        exact hno _ hop _ (.written (hpid.trans hid.symm) hversion hholder)
  · rfl
  · rfl
  · rfl
  · rfl

/-- **What an action does to the content of a record** is what is told of it, unless it writes back
an attempt that the holder made on the record as it is stored. -/
theorem content_act (hw : w.Sound) (holder : String) (hr : w.find? id = some r) (a : Action) :
    ∃ r', (w.act a).find? id = some r' ∧
      (r'.content = (w.retell holder id r a).content ∨
        ∃ i j, w.jobs[i]? = some j ∧ j.claimed = r ∧ j.holder = holder ∧
          w.writesBack i a = true) := by
  have hid : r.id = id := Transfers.id_of_find? hw.ledger.isKeyed hr
  rcases find?_act hw hr a with ⟨op, r', hop, heff, hr'⟩ | ⟨hno, hr'⟩
  · refine ⟨r', hr', ?_⟩
    cases heff with
    | leased | released => exact Or.inl (by rw [retell, hop]; rfl)
    | @signalled x q accepted =>
        have hheeded : r.heeded x = q := by rw [Transfer.heeded, accepted]
        exact Or.inl (by simp only [retell, hop, hid, if_true, hheeded, Transfer.content_bumped])
    | @written p id_eq version_eq holder_eq =>
        obtain ⟨i, oracle, j, rfl, hjob, hphase⟩ : ∃ i oracle j, a = .advance i oracle ∧
            w.job? i = some j ∧ j.phase = .running (.done (.ok p)) := by
          cases makes_of_access? hop with
          | written job_eq phase_eq => exact ⟨_, _, _, rfl, job_eq, phase_eq⟩
        obtain ⟨-, hclaimed, ⟨_, result⟩, -⟩ :=
          attempted_of_job hw hjob hphase hr (.written id_eq version_eq holder_eq) oracle
        have hpid : p.id = id := id_eq.trans hid
        have taken : w.site.transfers.update p = .ok _ :=
          Transfers.update_eq_ok_iff.2 ⟨r, hpid ▸ hr, version_eq, holder_eq, rfl⟩
        have found := (job?_eq_some_iff.1 hjob).1
        have hlease : p.lease = some (SiteM.claimOf j.setup j.holder j.claimedAt).lease := by
          rw [result.continues.lease_eq, ← hclaimed]
          exact (hw.ledger.jobs j (List.mem_of_getElem? found)).lease_eq
        by_cases hown : j.holder = holder
        · exact Or.inr ⟨i, j, found, hclaimed, hown,
            writesBack_iff.2 ⟨oracle, j, p, _, rfl, hjob, hphase, taken⟩⟩
        · have hforeign : p.lease.any (·.holder != holder) = true := by
            rw [hlease, Option.any_some]
            exact bne_iff_ne.2 hown
          have htaken : (w.site.transfers.update p).isOk = true := by
            rw [taken]
            rfl
          have htold : w.retell holder id r (.advance i oracle) = p := by
            simp only [retell, hop]
            exact if_pos ⟨hpid, hforeign, htaken⟩
          exact Or.inl (by rw [htold, Transfer.content_written])
  · exact ⟨r, hr', Or.inl (by rw [retell_of_no_effect hw hr hno])⟩

/-! ## In the midst of a cycle -/

/-- No record is on lease to a holder. -/
def IsFreeOf (w : World) (holder : String) : Prop :=
  ∀ id r lease, w.find? id = some r → r.lease = some lease → lease.holder ≠ holder

/-- Whether nothing is on lease to a holder can be read off the records. -/
theorem isFreeOf_iff (hw : w.Sound) :
    w.IsFreeOf holder ↔
      (w.site.transfers.records.values.all fun r => !r.lease.any (·.holder == holder)) = true := by
  have hkeyed := hw.isKeyed
  simp only [List.all_eq_true, Bool.not_eq_true', Option.any_eq_false, beq_eq_false_iff_ne]
  constructor
  · intro h r hr lease hlease
    exact h r.id r lease ((Transfers.mem_values_iff hkeyed).1 hr) hlease
  · intro h id r lease hr hlease
    refine h r ((Transfers.mem_values_iff hkeyed).2 ?_) lease hlease
    rw [Transfers.id_of_find? hkeyed hr]
    exact hr

/-- A cycle of a holder goes on, with a batch whose jobs stand from a number on. -/
structure Runs (w : World) (holder : String) (first : Nat) (batch : List Transfer) : Prop where
  /-- The jobs of the batch. -/
  own : ∀ k q, batch[k]? = some q →
    ∃ j, w.jobs[first + k]? = some j ∧ j.claimed = q ∧ j.holder = holder
  /-- The holder has no other jobs, but for some whose copies are outdated. -/
  others : ∀ i j, w.jobs[i]? = some j → j.holder = holder →
    (∃ k q, i = first + k ∧ batch[k]? = some q) ∨ w.site.transfers.Outdates j.claimed
  /-- A record that is on lease to the holder is being attempted. -/
  held : ∀ id r lease, w.find? id = some r → r.lease = some lease → lease.holder = holder →
    ∃ k q j, batch[k]? = some q ∧ q.id = id ∧ w.jobs[first + k]? = some j ∧ j.isPending = true

/-- A copy that was handed out to a holder is outdated where nothing is on lease to it. -/
theorem outdates_of_isFreeOf (hw : w.Sound) (free : w.IsFreeOf holder) {j : Job} (hj : j ∈ w.jobs)
    (hholder : j.holder = holder) : w.site.transfers.Outdates j.claimed := by
  have hsound := hw.ledger.jobs j hj
  refine hsound.copy.resolve_left fun hholds => ?_
  exact free _ _ _ hholds hsound.lease_eq hholder

/-- A cycle goes on once its batch is claimed. -/
theorem runs_claim (hw : w.Sound) (free : w.IsFreeOf holder) {setup : Setup} {w' : World}
    (hledger : w'.ledger = ⟨w.site.now, (w.ledger.claimOf setup holder).2,
      w.jobs ++ (w.ledger.claimOf setup holder).1.map (.fresh setup holder w.site.now)⟩) :
    w'.Runs holder w.jobs.length (w.ledger.claimOf setup holder).1 := by
  have hjobs : w'.jobs = w.jobs ++ _ := congrArg Ledger.jobs hledger
  have htransfers : w'.site.transfers = (w.ledger.claimOf setup holder).2 :=
    congrArg Ledger.transfers hledger
  have hkeyed := hw.isKeyed
  have hown : ∀ k q, (w.ledger.claimOf setup holder).1[k]? = some q →
      w'.jobs[w.jobs.length + k]? = some (.fresh setup holder w.site.now q) := by
    intro k q hq
    rw [getElem?_of_claimed hjobs, hq, Option.map_some]
  refine ⟨fun k q hq => ⟨_, hown k q hq, rfl, rfl⟩, ?_, ?_⟩
  · intro i j hj hholder
    rw [hjobs] at hj
    by_cases hi : i < w.jobs.length
    · rw [List.getElem?_append_left hi] at hj
      refine Or.inr ?_
      rw [htransfers]
      exact Transfers.outdates_apply hkeyed
        (outdates_of_isFreeOf hw free (List.mem_of_getElem? hj) hholder) (.claim _ _ _)
    · rw [List.getElem?_append_right (Nat.le_of_not_lt hi), List.getElem?_map] at hj
      obtain ⟨q, hq, -⟩ := Option.map_eq_some_iff.1 hj
      exact Or.inl ⟨i - w.jobs.length, q, by omega, hq⟩
  · intro id r lease hr hlease hholder
    -- What is on lease to the holder now was chosen, since nothing was before.
    rw [find?, htransfers] at hr
    have hfind := Transfers.find?_claim hkeyed Transfer.State.actionable
      setup.orchestration.batchSize (SiteM.claimOf setup holder w.site.now) id
    obtain ⟨p, hp, hrp⟩ := Option.map_eq_some_iff.1 (hfind.symm.trans hr)
    by_cases hchosen : p ∈ w.site.transfers.chosen Transfer.State.actionable
        setup.orchestration.batchSize (SiteM.claimOf setup holder w.site.now)
    · rw [if_pos hchosen] at hrp
      have hmem : r ∈ (w.ledger.claimOf setup holder).1 :=
        Transfers.mem_claim_iff.2 ⟨p, hchosen, hrp⟩
      obtain ⟨k, hk⟩ := List.getElem?_of_mem hmem
      have hrid : r.id = id := by
        rw [← hrp]
        exact (Transfers.id_of_find? hkeyed hp :)
      exact ⟨k, r, _, hk, hrid, hown k r hk, rfl⟩
    · rw [if_neg hchosen] at hrp
      subst hrp
      exact absurd hholder (free id p lease hp hlease)

/-- A record on lease to a holder was so before an action, unless the holder claimed it. -/
theorem held_before (hw : w.Sound) (hclaim : ∀ setup, a ≠ .claim setup holder) {r' : Transfer}
    {lease : Lease} (hr' : (w.act a).find? id = some r') (hlease : r'.lease = some lease)
    (hholder : lease.holder = holder) :
    ∃ r lease', w.find? id = some r ∧ r.lease = some lease' ∧ lease'.holder = holder := by
  cases hr : w.find? id with
  | none =>
      obtain ⟨role, request, -, rfl⟩ := find?_act_of_eq_none hw hr hr'
      cases hlease
  | some r =>
      rcases find?_act hw hr a with ⟨op, q, hop, heff, hq⟩ | ⟨-, hq⟩
      · cases hr'.symm.trans hq
        cases heff with
        | leased =>
            cases makes_of_access? hop with
            | claimed =>
                cases hlease
                exact absurd (congrArg (Action.claim _) hholder) (hclaim _)
        | written | released => cases hlease
        | signalled accepted =>
            rw [Transfer.bumped, Transfer.accept_frame accepted] at hlease
            exact ⟨r, lease, rfl, hlease, hholder⟩
      · cases hr'.symm.trans hq
        exact ⟨r', lease, rfl, hlease, hholder⟩

/-- A step by which an attempt stops pending leaves its record without a lease of its holder. -/
theorem not_held_of_settled {now : Instant} {s t : Transfers} {j j' : Job} (sound : j.Sound s)
    (step : j.Step now s j' t) (hpending : j.isPending = true) (hover : j'.isPending = false)
    {lease : Lease} (hr : t.find? j.claimed.id = some r) (hlease : r.lease = some lease) :
    lease.holder ≠ j.holder := by
  cases step with
  | @persisted p _ phase_eq taken =>
      obtain ⟨-, rfl⟩ := (sound.update_eq_ok_iff phase_eq).1 taken
      obtain ⟨_, result⟩ := (sound.reaches_of_running phase_eq).result
      rw [Transfers.find?_put, if_pos result.continues.id_eq.symm] at hr
      cases hr
      cases hlease
  | released phase_eq => exact Transfers.holder_ne_of_released hr hlease
  | told phase_eq =>
      rw [Job.isPending, phase_eq] at hpending
      cases hpending
  | lost => exact absurd (hpending.symm.trans hover) (by simp)
  | begun | noted | asked | placed | answered | failed | abandoned => cases hover

/-- Every action lets a cycle go on, as long as its holder claims nothing else. -/
theorem runs_act (hw : w.Sound) {first : Nat} {batch : List Transfer}
    (h : w.Runs holder first batch) (hclaim : ∀ setup, a ≠ .claim setup holder) :
    (w.act a).Runs holder first batch := by
  refine ⟨?_, ?_, ?_⟩
  · intro k q hq
    obtain ⟨j, hj, hclaimed, hholder⟩ := h.own k q hq
    obtain ⟨j', hj', rfl | step⟩ := step_act hw hj a
    · exact ⟨j', hj', hclaimed, hholder⟩
    · exact ⟨j', hj', step.continues.claimed_eq.trans hclaimed,
        step.continues.holder_eq.trans hholder⟩
  · intro i j' hj' hholder
    have hkept : ∀ j, w.jobs[i]? = some j → j.holder = holder →
        (∃ k q, i = first + k ∧ batch[k]? = some q) ∨
          (w.act a).site.transfers.Outdates j.claimed := by
      intro j hj hholder
      refine (h.others i j hj hholder).imp id fun hout => ?_
      rw [transfers_act hw.calm a]
      exact Transfers.outdates_after hw.ledger.isKeyed hout _
    rcases job_act_cases hw hj' with ⟨j, hj, rfl | step⟩ | ⟨setup, other, p, rfl, rfl⟩
    · exact hkept j' hj hholder
    · rw [step.continues.claimed_eq]
      exact hkept j hj (step.continues.holder_eq.symm.trans hholder)
    · exact absurd (congrArg (Action.claim setup) hholder) (hclaim setup)
  · intro id r' lease hr' hlease hholder
    obtain ⟨r, lease', hr, hlease', hholder'⟩ := held_before hw hclaim hr' hlease hholder
    obtain ⟨k, q, j, hq, rfl, hj, hpending⟩ := h.held id r lease' hr hlease' hholder'
    obtain ⟨x, hx, hclaimed, hown⟩ := h.own k q hq
    cases hj.symm.trans hx
    obtain ⟨j', hj', rfl | step⟩ := step_act hw hj a
    · exact ⟨k, q, j', hq, rfl, hj', hpending⟩
    · cases hpending' : j'.isPending with
      | true => exact ⟨k, q, j', hq, rfl, hj', hpending'⟩
      | false =>
          have sound := hw.ledger.jobs j (List.mem_of_getElem? hj)
          rw [← hclaimed] at hr'
          exact absurd (hholder.trans hown.symm)
            (not_held_of_settled sound step hpending hpending' hr' hlease)

theorem runs_run (hw : w.Sound) {first : Nat} {batch : List Transfer}
    (h : w.Runs holder first batch) {course : List Action}
    (hcourse : ∀ a ∈ course, ∀ setup, a ≠ .claim setup holder) :
    (w.run course).Runs holder first batch := by
  induction course generalizing w with
  | nil => exact h
  | cons a rest ih =>
      obtain ⟨hclaim, hrest⟩ := List.forall_mem_cons.1 hcourse
      exact ih (sound_act hw a) (runs_act hw h hclaim) hrest

/-- When no attempt of a cycle is pending any more, nothing is on lease to its holder. -/
theorem Runs.isFreeOf {first : Nat} {batch : List Transfer} (h : w.Runs holder first batch)
    (hover : ∀ k < batch.length, ∃ j, w.jobs[first + k]? = some j ∧ j.isPending = false) :
    w.IsFreeOf holder := by
  intro id r lease hr hlease hholder
  obtain ⟨k, q, j, hq, -, hj, hpending⟩ := h.held id r lease hr hlease hholder
  obtain ⟨hlt, -⟩ := List.getElem?_eq_some_iff.1 hq
  obtain ⟨j', hj', hsettled⟩ := hover k hlt
  cases hj.symm.trans hj'
  cases hpending.symm.trans hsettled

/-! ## What an attempt that is not written back leaves behind -/

/-- What a holder has a job on, as it is stored, is the record of the batch that the job stands
for. -/
theorem Runs.number_of_claimed (hw : w.Sound) {first : Nat} {batch : List Transfer}
    (h : w.Runs holder first batch) (distinct : batch.Pairwise fun p q => p.id ≠ q.id) {k i : Nat}
    (hq : batch[k]? = some q) (hr : w.find? q.id = some r) {j : Job} (hj : w.jobs[i]? = some j)
    (hclaimed : j.claimed = r) (hholder : j.holder = holder) : i = first + k := by
  have hid : r.id = q.id := Transfers.id_of_find? hw.ledger.isKeyed hr
  rcases h.others i j hj hholder with ⟨k', q', rfl, hq'⟩ | hout
  · obtain ⟨j', hj', hclaimed', -⟩ := h.own k' q' hq'
    cases hj.symm.trans hj'
    have hsame : q'.id = q.id := by rw [← hclaimed', hclaimed, hid]
    obtain ⟨hlt, rfl⟩ := List.getElem?_eq_some_iff.1 hq
    obtain ⟨hlt', rfl⟩ := List.getElem?_eq_some_iff.1 hq'
    rcases Nat.lt_trichotomy k' k with hlt'' | rfl | hlt''
    · exact absurd hsame (List.pairwise_iff_getElem.1 distinct k' k hlt' hlt hlt'')
    · rfl
    · exact absurd hsame.symm (List.pairwise_iff_getElem.1 distinct k k' hlt hlt' hlt'')
  · have hlease : j.claimed.lease.isSome = true := by
      rw [(hw.ledger.jobs j (List.mem_of_getElem? hj)).lease_eq, Option.isSome_some]
    have hholds : w.site.transfers.Holds j.claimed := by
      rw [Transfers.Holds, hclaimed, hid]
      exact hr
    exact absurd hholds (hout.not_holds hlease)

/-- As long as the attempt on a record of the batch is not written back, the content of the record
is what is told of the others. -/
theorem content_run (hw : w.Sound) {first : Nat} {batch : List Transfer}
    (h : w.Runs holder first batch) (distinct : batch.Pairwise fun p q => p.id ≠ q.id)
    {course : List Action} (hcourse : ∀ a ∈ course, ∀ setup, a ≠ .claim setup holder)
    {k : Nat} (hq : batch[k]? = some q) (hr : w.find? q.id = some r) {r₀ : Transfer}
    (hcontent : r.content = r₀.content) (hkept : w.hasWritten (first + k) course = false) :
    ∃ r', (w.run course).find? q.id = some r' ∧
      r'.content = (w.retold holder q.id r₀ course).content := by
  induction course generalizing w r r₀ with
  | nil => exact ⟨r, hr, hcontent⟩
  | cons a rest ih =>
      obtain ⟨hclaim, hrest⟩ := List.forall_mem_cons.1 hcourse
      rw [hasWritten, Bool.or_eq_false_iff] at hkept
      obtain ⟨r₁, hr₁, htold | ⟨i, j, hj, hclaimed, hholder, hwrites⟩⟩ :=
        content_act hw holder hr a
      · exact ih (sound_act hw a) (runs_act hw h hclaim) hrest hr₁
          (htold.trans (retell_congr hcontent)) hkept.2
      · have hi := h.number_of_claimed hw distinct hq hr hj hclaimed hholder
        rw [hi, hkept.1] at hwrites
        cases hwrites

/-- **A claim cycle leaves no lease, and what was attempted in vain leaves no trace.**  In a run
from the start a worker opens a cycle under a name to which nothing is on lease, and under which
nobody else claims until the cycle comes to its report; whatever is answered and whatever happens
meanwhile.  Then nothing is on lease to the name again.  The report counts the records that were
claimed, and those among them whose write the store took.  And every other record that was claimed
is, apart from lease and version, the record before the claim with the signals and the writes of
others. -/
theorem cycle_leaves_no_trace (now : Instant) (capacity : Nat) (liveness : Option Int)
    (before course : List Action) (setup : Setup) (holder : String) (report : CycleReport)
    (free : ((start now capacity liveness).run before).IsFreeOf holder)
    (hcourse : ∀ a ∈ course, ∀ c, a ≠ .claim c holder)
    (hreport : ((start now capacity liveness).run before).report? setup holder course =
      some report) :
    let w := (start now capacity liveness).run before
    let opened := w.act (.claim setup holder)
    let closed := opened.run course
    let batch := (w.ledger.claimOf setup holder).1
    closed.IsFreeOf holder ∧
      report.claimed = batch.length ∧
      report.persisted = (List.range batch.length).countP
        (fun k => opened.hasWritten (w.jobs.length + k) course) ∧
      ∀ k q, batch[k]? = some q → opened.hasWritten (w.jobs.length + k) course = false →
        ∃ r r', w.find? q.id = some r ∧ closed.find? q.id = some r' ∧
          r'.content = (opened.retold holder q.id r course).content := by
  intro w opened closed batch
  have hw : w.Sound := sound_run (sound_start now capacity liveness) before
  have hkeyed := hw.isKeyed
  have hopened : opened.Sound := sound_act hw _
  obtain ⟨-, hledger⟩ := claim_of_report? hw hreport
  obtain ⟨hclaimed, hpersisted, hover⟩ := of_report?_eq_some hw hreport
  have runs : opened.Runs holder w.jobs.length batch := runs_claim hw free hledger
  refine ⟨(runs_run hopened runs hcourse).isFreeOf hover, hclaimed, hpersisted, ?_⟩
  intro k q hq hkept
  obtain ⟨p, hchosen, rfl⟩ := Transfers.mem_claim_iff.1 (List.mem_of_getElem? hq)
  have hp : w.find? p.id = some p :=
    Transfers.find?_of_mem_chosen hkeyed hchosen
  have hstored : opened.find? p.id =
      some (p.leased (SiteM.claimOf setup holder w.site.now)) := by
    have htransfers : opened.site.transfers = (w.ledger.claimOf setup holder).2 :=
      congrArg Ledger.transfers hledger
    rw [find?, htransfers]
    exact Transfers.find?_claim_of_mem hkeyed hchosen
  obtain ⟨r', hr', hcontent⟩ := content_run hopened runs (Transfers.pairwise_id_claim hkeyed _ _ _)
    hcourse hq hstored (Transfer.content_leased p _) hkept
  exact ⟨p, r', hp, hr', hcontent⟩

/-- An attempt fails to write back since its transfer was cancelled meanwhile, and another worker
takes the transfer over.  The first worker reports one transfer claimed and none written back, and
the transfer is what the signal and the other worker made of it. -/
theorem cycle_leaves_no_trace_of_cancelled :
    let m : Config.Manifest := .standard "h"
    let request : DataRequest :=
      ⟨"r", "a", "s", "c", "http://c", "p", ⟨"blob", []⟩, ⟨"http", []⟩, []⟩
    let setup : Setup := ⟨m.spec.connector, m.spec.orchestrator⟩
    let oracle : (q : Inquiry) → q.Answer
      | .judge _ _ => Decision.deny []
      | .select _ => Except.error .clock
      | .find _ => Except.ok none
    let w := (start ⟨0⟩ 16 none).run [.create "t" .provider request]
    let course : List Action := [.advance 0 oracle, .deliver "t" .cancel, .advance 0 oracle,
      .advance 0 oracle, .claim setup "w", .advance 1 oracle, .advance 1 oracle, .advance 1 oracle]
    let opened := w.act (.claim setup "v")
    let closed := opened.run course
    w.IsFreeOf "v" ∧ (∀ a ∈ course, ∀ c, a ≠ .claim c "v") ∧
      w.report? setup "v" course = some ⟨1, 0⟩ ∧
      closed.IsFreeOf "v" ∧
      (closed.find? "t").map (fun r => (r.state, r.pendingCommand)) = some (.terminating, none) ∧
      ∃ r r', w.find? "t" = some r ∧ closed.find? "t" = some r' ∧
        r'.content = (opened.retold "v" "t" r course).content := by
  intro m request setup oracle w course opened closed
  have hw : w.Sound := sound_run (sound_start _ _ _) _
  have free : w.IsFreeOf "v" := (isFreeOf_iff hw).2 (by decide +kernel)
  have hcourse : ∀ a ∈ course, ∀ c, a ≠ .claim c "v" := by simp [course]
  have hreport : w.report? setup "v" course = some ⟨1, 0⟩ := by decide +kernel
  have hids : (w.ledger.claimOf setup "v").1.map Transfer.id = ["t"] := by decide +kernel
  have hkept : opened.hasWritten (w.jobs.length + 0) course = false := by decide +kernel
  have hstate : (closed.find? "t").map (fun r => (r.state, r.pendingCommand)) =
      some (.terminating, none) := by decide +kernel
  obtain ⟨hfree, -, -, htraceless⟩ := cycle_leaves_no_trace ⟨0⟩ 16 none
    [.create "t" .provider request] course setup "v" ⟨1, 0⟩ free hcourse hreport
  obtain ⟨q, hbatch, hq⟩ := List.map_eq_singleton_iff.1 hids
  refine ⟨free, hcourse, hreport, hfree, hstate, ?_⟩
  rw [← hq]
  exact htraceless 0 q (by rw [hbatch]; rfl) hkept

end World
end Connector
