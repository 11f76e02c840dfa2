import Connector.Proofs.World.Records

/-!
# The access that an action makes

Of all that an action does, at most one access reaches the store, and which one that is can be
told before the action: a job writes back when its attempt has come to a record, and gives its
lease back when that failed; the others do what they are there for.  Statements:

* `transfers_act` — the records after an action are those after its access;
* `find?_act`, `find?_act_of_eq_none` — an action does to the record of an id what its access does;
* `attempted_of_written` — what is written is the result of an attempt on the record that is stored.
-/

namespace Connector

/-- The access that the next step of a job makes. -/
def Job.access? (j : Job) : Option Operation :=
  match j.phase with
  | .running (.done (.ok p)) => some (.update p)
  | .yielding => some (.release j.claimed.id j.holder)
  | _ => none

/-- The access of a worker that claims.  There is none if the lease would end beyond the clock. -/
def Setup.access? (c : Setup) (holder : String) (now : Instant) : Option Operation :=
  if (SiteM.claimOf c holder now).expiresAt.inRange then
    some (.claim Transfer.State.actionable c.orchestration.batchSize (SiteM.claimOf c holder now))
  else none

namespace World

/-- The access that an action makes. -/
def access? (w : World) : Action → Option Operation
  | .create id role request =>
      match request.validate with
      | .ok () => some (.create (.create id role request w.site.now))
      | .error _ => none
  | .deliver id x => some (.signal id x)
  | .claim setup holder => setup.access? holder w.site.now
  | .advance i _ => (w.job? i).bind Job.access?
  | .answer _ _ | .lose _ | .pass _ | .upkeep _ => none

end World

namespace SiteM

variable {s : Site} (calm : s.failing = [])
include calm

/-- What the opening of a claim cycle does to the records. -/
theorem openCycle_transfers (c : Setup) (holder : String) :
    (openCycle c holder s).2.transfers =
      s.transfers.after (c.access? holder s.now).toList := by
  unfold Setup.access?
  rcases openCycle_cases calm c holder with ⟨-, hlate, heq⟩ | ⟨hopens, heq⟩ <;> rw [heq]
  · rw [if_neg (by simp [hlate])]
    rfl
  · dsimp only
    split
    · rfl
    · rename_i hlate
      exact Transfers.claim_of_chosen_eq_nil
        (List.map_eq_nil_iff.1 (hopens.resolve_right hlate))

end SiteM

namespace World

variable {w : World}

/-- What a job does to the records. -/
theorem transfers_onJob {f : Job → SiteM Job} {g : Job → Option Operation}
    (h : ∀ j, (f j w.site).2.transfers = w.site.transfers.after (g j).toList) (i : Nat) :
    (w.onJob i f).site.transfers = w.site.transfers.after ((w.job? i).bind g).toList := by
  unfold onJob
  cases w.job? i with
  | none => rfl
  | some j => exact h j

section Calm
variable (calm : w.site.failing = [])
include calm

/-- What the next step of a job does to the records. -/
theorem transfers_advance (j : Job) (oracle : (q : Inquiry) → q.Answer) :
    (j.advance oracle w.site).2.transfers = w.site.transfers.after j.access?.toList := by
  unfold Job.advance Job.access?
  cases hphase : j.phase with
  | fresh | calling | released => rfl
  | running rest =>
      cases rest with
      | note | ask | call => rfl
      | done result =>
          rcases result with (e | _) | p
          · exact (SiteM.agrees_note _ _ _ _).transfers_eq
          · rfl
          · rcases SiteM.writeBack_spec calm j.claimed p with
              ⟨t, hupdate, hp, h⟩ | ⟨e, hupdate, hp, h⟩
            · have heq : j.writeBack (.ok p) w.site = (j.inPhase (.persisted p _ false), _) :=
                SiteM.bind_eq (Prod.ext hp rfl)
              show (j.writeBack (.ok p) w.site).2.transfers = w.site.transfers.apply (.update p)
              rw [heq, Transfers.apply_update_of_ok hupdate]
              exact h.transfers_eq
            · have heq : j.writeBack (.ok p) w.site = (j.inPhase .yielding, _) :=
                SiteM.bind_eq (Prod.ext hp rfl)
              show (j.writeBack (.ok p) w.site).2.transfers = w.site.transfers.apply (.update p)
              rw [heq]
              simp only [Transfers.apply, hupdate]
              exact h.transfers_eq
  | yielding => exact (SiteM.conclude_none_spec calm j.claimed j.holder).transfers_eq
  | persisted p t isTold =>
      cases isTold with
      | false => exact (SiteM.agrees_conclude_some j.claimed j.holder p).transfers_eq
      | true => rfl

/-- **The records after an action are those after its access.** -/
theorem transfers_act (a : Action) :
    (w.act a).site.transfers = w.site.transfers.after (w.access? a).toList := by
  cases a with
  | create id role request =>
      simp only [act, access?]
      cases request.validate with
      | error e => rfl
      | ok u =>
          show (SiteM.openTransfer id role request w.site).2.transfers =
            w.site.transfers.apply (.create (.create id role request w.site.now))
          rcases SiteM.openTransfer_spec calm id role request with ⟨t, hadded, h⟩ | ⟨e, hfull, h⟩
          · rw [Transfers.apply_create_of_ok hadded]
            exact h.transfers_eq
          · simp only [Transfers.apply, hfull]
            exact h.transfers_eq
  | deliver id x =>
      show _ = w.site.transfers.apply (.signal id x)
      rcases SiteM.deliver_spec calm id x with ⟨p, t, htaken, -, h⟩ | ⟨e, hrefused, -, h⟩
      · rw [Transfers.apply_signal_of_ok htaken]
        exact h.transfers_eq
      · simp only [Transfers.apply, hrefused]
        exact h.transfers_eq
  | claim setup holder =>
      have hsite : (w.claim setup holder).site = (SiteM.openCycle setup holder w.site).2 := by
        unfold claim
        split
        · rename_i heq
          rw [heq]
        · rename_i heq
          rw [heq]
      show (w.claim setup holder).site.transfers = _
      rw [hsite]
      exact SiteM.openCycle_transfers calm setup holder
  | advance i oracle => exact transfers_onJob (fun j => transfers_advance calm j oracle) i
  | answer i reply =>
      have hnone : ∀ j : Job, (j.answer reply w.site).2.transfers = w.site.transfers := by
        intro j
        unfold Job.answer
        cases j.phase <;> rfl
      have h := transfers_onJob (g := fun _ => none) hnone i
      rwa [Option.bind_fun_none] at h
  | lose i =>
      have h := transfers_onJob (w := w) (f := fun j => j.lose) (g := fun _ => none)
        (fun _ => rfl) i
      rwa [Option.bind_fun_none] at h
  | pass t => rfl
  | upkeep f => rfl

end Calm

variable {a : Action} {id : String} {r : Transfer}

/-- **What an action does to a record.**  It does what its access does, or nothing. -/
theorem find?_act (hw : w.Sound) (hr : w.find? id = some r) (a : Action) :
    (∃ op r', w.access? a = some op ∧ Transfers.Effect w.site.transfers r op r' ∧
      (w.act a).find? id = some r') ∨
    ((∀ op, w.access? a = some op → ∀ r', ¬ Transfers.Effect w.site.transfers r op r') ∧
      (w.act a).find? id = some r) := by
  have htransfers := transfers_act hw.calm a
  unfold find? at hr ⊢
  rw [htransfers]
  cases hop : w.access? a with
  | none => exact Or.inr ⟨fun op h => (by cases h), hr⟩
  | some op =>
      rcases Transfers.find?_apply hw.ledger.isKeyed hr op with ⟨r', heff, hr'⟩ | ⟨hno, hr'⟩
      · exact Or.inl ⟨op, r', rfl, heff, hr'⟩
      · refine Or.inr ⟨fun op' h => ?_, hr'⟩
        cases h
        exact hno

/-- Which action makes which access. -/
inductive Makes (w : World) : Action → Operation → Prop where
  | created {id : String} {role : Transfer.Role} {request : DataRequest}
      (valid : request.validate = .ok ()) :
      Makes w (.create id role request) (.create (.create id role request w.site.now))
  | signalled {id : String} {x : Transfer.Signal} : Makes w (.deliver id x) (.signal id x)
  | claimed {setup : Setup} {holder : String} :
      Makes w (.claim setup holder)
        (.claim Transfer.State.actionable setup.orchestration.batchSize
          (SiteM.claimOf setup holder w.site.now))
  | written {i : Nat} {oracle : (q : Inquiry) → q.Answer} {j : Job} {p : Transfer}
      (job_eq : w.job? i = some j) (phase_eq : j.phase = .running (.done (.ok p))) :
      Makes w (.advance i oracle) (.update p)
  | released {i : Nat} {oracle : (q : Inquiry) → q.Answer} {j : Job}
      (job_eq : w.job? i = some j) (phase_eq : j.phase = .yielding) :
      Makes w (.advance i oracle) (.release j.claimed.id j.holder)

theorem makes_of_access? {op : Operation} (h : w.access? a = some op) : w.Makes a op := by
  cases a with
  | create id role request =>
      simp only [access?] at h
      split at h
      · rename_i valid
        cases h
        exact .created valid
      · cases h
  | deliver id x =>
      cases h
      exact .signalled
  | claim setup holder =>
      simp only [access?, Setup.access?] at h
      split at h
      · cases h
        exact .claimed
      · cases h
  | advance i oracle =>
      obtain ⟨j, job_eq, hj⟩ := Option.bind_eq_some_iff.1 h
      unfold Job.access? at hj
      split at hj
      · cases hj
        exact .written job_eq ‹_›
      · cases hj
        exact .released job_eq ‹_›
      · cases hj
  | answer | lose | pass | upkeep => cases h

/-- A record comes into being when somebody starts a transfer. -/
theorem find?_act_of_eq_none (hw : w.Sound) (hnone : w.find? id = none)
    (hr : (w.act a).find? id = some r) :
    ∃ role request, a = .create id role request ∧ r = .create id role request w.site.now := by
  unfold find? at hnone hr
  rw [transfers_act hw.calm a] at hr
  cases hop : w.access? a with
  | none =>
      rw [hop] at hr
      cases hnone.symm.trans hr
  | some op =>
      rw [hop] at hr
      obtain ⟨rfl, hid⟩ := Transfers.find?_apply_of_eq_none hw.ledger.isKeyed hnone op hr
      cases makes_of_access? hop with
      | @created id' role request valid =>
          cases hid
          exact ⟨role, request, rfl, rfl⟩

/-- A job whose result the store takes has written it back. -/
theorem advance_of_taken (calm : w.site.failing = []) {j : Job} {p : Transfer} {t : Transfers}
    (phase_eq : j.phase = .running (.done (.ok p))) (taken : w.site.transfers.update p = .ok t)
    (oracle : (q : Inquiry) → q.Answer) :
    (j.advance oracle w.site).1 = j.inPhase (.persisted p w.site.now false) := by
  unfold Job.advance
  rw [phase_eq]
  rcases SiteM.writeBack_spec calm j.claimed p with ⟨u, -, hp, h⟩ | ⟨e, hrefused, -, -⟩
  · have heq : j.writeBack (.ok p) w.site = (j.inPhase (.persisted p _ false), _) :=
      SiteM.bind_eq (Prod.ext hp rfl)
    rw [h.now_eq] at heq
    exact congrArg Prod.fst heq
  · cases taken.symm.trans hrefused

/-- A job writes the result of its attempt on the record that is stored, and that is recorded as
such. -/
theorem attempted_of_job (hw : w.Sound) {i : Nat} {j : Job} {p r' : Transfer}
    (hjob : w.job? i = some j) (hphase : j.phase = .running (.done (.ok p)))
    (hr : w.find? id = some r) (heff : Transfers.Effect w.site.transfers r (.update p) r')
    (oracle : (q : Inquiry) → q.Answer) :
    r' = p.written r ∧ j.claimed = r ∧ (∃ now, Attempt.Result j.setup r now j.exchanges p) ∧
      (w.act (.advance i oracle)).ledger.Attempted j.setup r j.exchanges p := by
  obtain ⟨found, present⟩ := job?_eq_some_iff.1 hjob
  have hsound := hw.ledger.jobs j (List.mem_of_getElem? found)
  cases heff with
  | written id_eq version_eq holder_eq =>
      have hstored : w.site.transfers.find? p.id = some r := by
        rw [id_eq, Transfers.id_of_find? hw.ledger.isKeyed hr]
        exact hr
      have taken := Transfers.update_eq_ok_iff.2 ⟨r, hstored, version_eq, holder_eq, rfl⟩
      obtain ⟨hholds, -⟩ := (hsound.update_eq_ok_iff hphase).1 taken
      obtain ⟨now, result⟩ := (hsound.reaches_of_running hphase).result
      have hclaimed : j.claimed = r := by
        rw [result.continues.id_eq] at hstored
        exact Option.some.inj (hholds.symm.trans hstored)
      refine ⟨rfl, hclaimed, ⟨now, hclaimed ▸ result⟩, ?_⟩
      obtain ⟨hlt, -⟩ := List.getElem?_eq_some_iff.1 found
      refine ⟨j.inPhase (.persisted p w.site.now false), ?_, rfl, hclaimed, rfl, w.site.now, false,
        rfl⟩
      show _ ∈ (w.onJob i fun j => j.advance oracle).jobs
      simp only [onJob, hjob, advance_of_taken hw.calm hphase taken oracle]
      exact List.mem_set hlt _

/-- What is written is the result of an attempt on the record that is stored, and is recorded as
such. -/
theorem attempted_of_written (hw : w.Sound) {p r' : Transfer} (hop : w.access? a = some (.update p))
    (hr : w.find? id = some r) (heff : Transfers.Effect w.site.transfers r (.update p) r') :
    r' = p.written r ∧ ∃ j ∈ w.jobs, j.claimed = r ∧
      (∃ now, Attempt.Result j.setup r now j.exchanges p) ∧
      (w.act a).ledger.Attempted j.setup r j.exchanges p := by
  cases makes_of_access? hop with | @written i oracle j _ hjob hphase =>
  obtain ⟨hr', hclaimed, result, hatt⟩ := attempted_of_job hw hjob hphase hr heff oracle
  exact ⟨hr', j, List.mem_of_getElem? (job?_eq_some_iff.1 hjob).1, hclaimed, result, hatt⟩

end World
end Connector
