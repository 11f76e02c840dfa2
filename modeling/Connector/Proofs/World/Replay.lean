import Connector.Proofs.World.Publication
import Connector.Proofs.World.Writings

/-!
# The tidings replay the records

The changes of state that are published of a transfer tell the story of its record again, as long
as whoever wrote a record back tells of it before anything else happens, and the clock went on
since the state before was entered.  Of what was written nothing is left out then, nothing is told
twice, and nothing else is told: attempts that were given up are passed over, and so are signals
and leases, which change a record without a word.  Statements:

* `retold_run` — the changes that were told, and the one still to be told, are those that were
  written;
* `replays_run` — what was written begins at the first state, goes on where it ended before, and
  leads to the record that is stored;
* `events_replay_store` — the same of what is published, with what is told of the start of a
  transfer.
-/

namespace Connector

/-- A change of state as an event tells it. -/
structure StateChange where
  prior : Transfer.State
  next : Transfer.State
  count : Nat
  changedAt : Instant
  deriving DecidableEq, Repr

/-- The change of state that an event tells of a transfer. -/
def TransferEvent.change? (id : String) : TransferEvent → Option StateChange
  | .stateChanged subject prior next count changedAt =>
      if subject = id then some ⟨prior, next, count, changedAt⟩ else none
  | .created _ _ _ _ | .suspended _ _ _ | .resumed _ _ _ | .completed _ _ | .terminated _ _ _ =>
      none

/-- The record stands as a change of state has left it. -/
structure Transfer.IsAfter (r : Transfer) (c : StateChange) : Prop where
  state_eq : r.state = c.next
  stateCount_eq : r.stateCount = c.count
  stateTimestamp_eq : r.stateTimestamp = c.changedAt

/-- The changes of state that some events tell of a transfer. -/
def changes (id : String) (es : List TransferEvent) : List StateChange :=
  es.filterMap (·.change? id)

/-- The change of state that was written back. -/
def Writing.change (x : Writing) : StateChange :=
  ⟨x.claimed.state, x.result.state, x.result.stateCount, x.result.stateTimestamp⟩

/-- Whether the state that a job has written was entered later than the one before. -/
def Job.movesOn (j : Job) : Bool :=
  match j.phase with
  | .persisted p _ _ => decide (j.claimed.stateTimestamp < p.stateTimestamp)
  | .fresh | .running _ | .calling _ _ _ | .yielding | .released _ => true

/-! ## Changes that were told -/

section Changes
variable {id : String}

theorem changes_append (es fs : List TransferEvent) :
    changes id (es ++ fs) = changes id es ++ changes id fs :=
  List.filterMap_append

/-- What follows from a change of state is no change of state itself. -/
theorem changes_followUp (prior : Transfer.State) (p : Transfer) :
    changes id (SiteM.followUp prior p).toList = [] := by
  cases h : SiteM.followUp prior p with
  | none => rfl
  | some e =>
      cases e with
      | stateChanged =>
          unfold SiteM.followUp at h
          grind
      | created | suspended | resumed | completed | terminated => rfl

/-- The tidings of a record tell one change of state, of its own transfer. -/
theorem changes_tidings (id : String) {r p : Transfer}
    (moved : r.stateTimestamp < p.stateTimestamp) :
    changes id (r.tidings p) =
      if p.id = id then [⟨r.state, p.state, p.stateCount, p.stateTimestamp⟩] else [] := by
  have hne : p.stateTimestamp ≠ r.stateTimestamp := by
    intro heq
    rw [heq] at moved
    exact Int.lt_irrefl _ moved
  calc changes id (r.tidings p)
      = changes id [.stateChanged p.id r.state p.state p.stateCount p.stateTimestamp] ++
          changes id (SiteM.followUp r.state p).toList := by
        rw [Transfer.tidings_of_moved hne]
        exact changes_append [_] _
    _ = changes id [.stateChanged p.id r.state p.state p.stateCount p.stateTimestamp] := by
        rw [changes_followUp, List.append_nil]
    _ = if p.id = id then [⟨r.state, p.state, p.stateCount, p.stateTimestamp⟩] else [] := by
        by_cases hid : p.id = id <;> simp [changes, TransferEvent.change?, hid]

end Changes

namespace World

variable {w : World} {a : Action} {i : Nat} {j : Job} {id : String}

/-- A change of state is told by a job that owes its tidings. -/
theorem exists_of_mem_changes {c : StateChange} (hc : c ∈ changes id (w.published a)) :
    ∃ i oracle j p t, a = .advance i oracle ∧ w.job? i = some j ∧
      j.phase = .persisted p t false ∧ c ∈ changes id (j.claimed.tidings p) := by
  cases a with
  | create id' role request =>
      simp only [published] at hc
      split at hc
      · split at hc <;> cases hc
      · cases hc
  | deliver | claim | answer | lose | pass | upkeep => cases hc
  | advance i oracle =>
      simp only [published] at hc
      cases hjob : w.job? i with
      | none =>
          rw [hjob] at hc
          cases hc
      | some j =>
          rw [hjob, Option.map_some, Option.getD_some, Job.tidings] at hc
          cases huntold : j.untold? with
          | none =>
              rw [huntold] at hc
              cases hc
          | some x =>
              rw [huntold] at hc
              exact ⟨i, oracle, j, x.1, x.2, rfl, hjob, Job.untold?_eq_some_iff.1 huntold, hc⟩

/-- Where no job owes its tidings, no change of state is told. -/
theorem changes_published (silent : ∀ k, w.owes k = false) (a : Action) :
    changes id (w.published a) = [] := by
  refine List.eq_nil_iff_forall_not_mem.2 fun c hc => ?_
  obtain ⟨i, _, j, p, t, -, hjob, hphase, -⟩ := exists_of_mem_changes hc
  have howes : w.owes i = true :=
    owes_eq_true_iff.2 ⟨j, p, t, (job?_eq_some_iff.1 hjob).1, hphase⟩
  exact Bool.false_ne_true ((silent i).symm.trans howes)

/-- The changes that some events tell of a transfer are those that were written back: all of them,
or all but the last one, which a job owes. -/
inductive Retells (w : World) (id : String) (es : List TransferEvent) (xs : List Writing) : Prop
  | settled (silent : ∀ k, w.owes k = false) (told : changes id es = xs.map Writing.change)
  | owing {i : Nat} {j : Job} {p : Transfer} {t : Instant} (job_eq : w.job? i = some j)
      (phase_eq : j.phase = .persisted p t false) (alone : ∀ k, w.owes k = true → k = i)
      (told : changes id (es ++ j.claimed.tidings p) = xs.map Writing.change)

/-- A job that comes to its record writes it back and owes its tidings, or nothing is written. -/
theorem writing?_of_running (id : String) {p : Transfer} (hjob : w.job? i = some j)
    (hphase : j.phase = .running (.done (.ok p))) (oracle : (q : Inquiry) → q.Answer) :
    ((∃ t, w.site.transfers.update p = .ok t) ∧
        w.writing? id (.advance i oracle) = if p.id = id then some (j.writing p) else none) ∨
      ((∃ e, w.site.transfers.update p = .error e) ∧
        w.writing? id (.advance i oracle) = none) := by
  have htouch : w.touch? id (.advance i oracle) =
      w.site.transfers.touch? id (.update p) := by
    simp only [World.touch?, access?, hjob, Option.bind_some, Job.access?, hphase]
  simp only [writing?, htouch, hjob, Option.bind_some, Job.writing?, hphase, Transfers.touch?]
  cases taken : w.site.transfers.update p with
  | ok t =>
      refine Or.inl ⟨⟨t, rfl⟩, ?_⟩
      by_cases hid : p.id = id <;> simp [hid, Except.isOk, Except.toBool]
  | error e =>
      refine Or.inr ⟨⟨e, rfl⟩, ?_⟩
      simp [Except.isOk, Except.toBool]

/-- An attempt is written back by a job that has come to its record. -/
theorem exists_of_writing? {x : Writing} (h : w.writing? id a = some x) :
    ∃ i oracle j p, a = .advance i oracle ∧ w.job? i = some j ∧
      j.phase = .running (.done (.ok p)) := by
  cases a with
  | advance i oracle =>
      simp only [writing?] at h
      split at h
      · obtain ⟨j, hjob, hx⟩ := Option.bind_eq_some_iff.1 h
        unfold Job.writing? at hx
        split at hx
        · exact ⟨i, oracle, j, _, rfl, hjob, ‹_›⟩
        · cases hx
      · cases h
  | create | deliver | claim | answer | lose | pass | upkeep => cases h

/-- Where nobody owes anything, an action that writes back leaves one job that owes its tidings. -/
theorem Retells.write (hw : w.Sound) {es : List TransferEvent} {xs : List Writing}
    (silent : ∀ k, w.owes k = false) (told : changes id es = xs.map Writing.change)
    {p : Transfer} {t : Transfers} (hjob : w.job? i = some j)
    (hphase : j.phase = .running (.done (.ok p))) (taken : w.site.transfers.update p = .ok t)
    (oracle : (q : Inquiry) → q.Answer)
    (moving : ∀ j ∈ (w.act (.advance i oracle)).jobs, j.movesOn = true)
    (hwriting : w.writing? id (.advance i oracle) =
      if p.id = id then some (j.writing p) else none) :
    (w.act (.advance i oracle)).Retells id (es ++ w.published (.advance i oracle))
      (xs ++ (w.writing? id (.advance i oracle)).toList) := by
  have hj' : (w.act (.advance i oracle)).jobs[i]? =
      some (j.inPhase (.persisted p w.site.now false)) := by
    rw [← advance_of_taken hw.calm hphase taken oracle]
    exact getElem?_onJob_self hjob
  have hmoved : j.claimed.stateTimestamp < p.stateTimestamp :=
    of_decide_eq_true (moving _ (List.mem_of_getElem? hj') :)
  refine .owing (job?_eq_some_iff.2 ⟨hj', (job?_eq_some_iff.1 hjob).2⟩) rfl ?_ ?_
  · intro k howes
    obtain ⟨_, _, _, _, heq, -⟩ := owes_act hw.calm silent howes
    cases heq
    rfl
  · have htidings : changes id (j.claimed.tidings p) = _ := changes_tidings id hmoved
    rw [changes_append, changes_append, changes_published silent, told, List.append_nil, hwriting]
    show _ ++ changes id (j.claimed.tidings p) = _
    rw [htidings, List.map_append]
    split <;> rfl

/-- The job that owes its tidings tells them. -/
theorem Retells.tell {es : List TransferEvent} {xs : List Writing} {p : Transfer} {t : Instant}
    (hjob : w.job? i = some j) (hphase : j.phase = .persisted p t false)
    (alone : ∀ k, w.owes k = true → k = i)
    (told : changes id (es ++ j.claimed.tidings p) = xs.map Writing.change)
    (oracle : (q : Inquiry) → q.Answer) :
    (w.act (.advance i oracle)).Retells id (es ++ w.published (.advance i oracle))
      (xs ++ (w.writing? id (.advance i oracle)).toList) := by
  have hnone : w.writing? id (.advance i oracle) = none := by
    simp only [writing?, hjob, Option.bind_some, Job.writing?, hphase, ite_self]
  have hj' : (w.act (.advance i oracle)).jobs[i]? = some (j.inPhase (.persisted p t true)) := by
    have hstep : (j.advance oracle w.site).1 = j.inPhase (.persisted p t true) := by
      unfold Job.advance
      rw [hphase]
      rfl
    rw [← hstep]
    exact getElem?_onJob_self hjob
  rw [published_of_persisted hjob hphase, hnone, Option.toList_none, List.append_nil]
  refine .settled (fun k => Bool.eq_false_iff.2 fun howes => ?_) told
  obtain ⟨j', q, u, hk, hphase'⟩ := owes_eq_true_iff.1 howes
  by_cases hki : k = i
  · subst hki
    cases hk.symm.trans hj'
    cases hphase'
  · have hsame : w.jobs[k]? = some j' := (getElem?_onJob_of_ne (Ne.symm hki)).symm.trans hk
    exact hki (alone k (owes_eq_true_iff.2 ⟨j', q, u, hsame, hphase'⟩))

/-- A prompt action goes on with the story. -/
theorem retells_act (hw : w.Sound) {es : List TransferEvent} {xs : List Writing}
    (h : w.Retells id es xs) (prompt : ∀ k, w.owes k = true → a.advances k = true)
    (moving : ∀ j ∈ (w.act a).jobs, j.movesOn = true) :
    (w.act a).Retells id (es ++ w.published a) (xs ++ (w.writing? id a).toList) := by
  cases h with
  | settled silent told =>
      have hquiet : (∀ k, (w.act a).owes k = false) → w.writing? id a = none →
          (w.act a).Retells id (es ++ w.published a) (xs ++ (w.writing? id a).toList) := by
        intro hsilent hnone
        refine .settled hsilent ?_
        rw [changes_append, changes_published silent, told, hnone, Option.toList_none,
          List.append_nil, List.append_nil]
      by_cases hruns : ∃ i oracle j p, a = .advance i oracle ∧ w.job? i = some j ∧
          j.phase = .running (.done (.ok p))
      · obtain ⟨i, oracle, j, p, rfl, hjob, hphase⟩ := hruns
        rcases writing?_of_running id hjob hphase oracle with
          ⟨⟨t, taken⟩, hwriting⟩ | ⟨⟨e, refused⟩, hnone⟩
        · exact .write hw silent told hjob hphase taken oracle moving hwriting
        · refine hquiet (fun k => Bool.eq_false_iff.2 fun howes => ?_) hnone
          obtain ⟨_, _, _, t, heq, hjob', hphase', taken⟩ := owes_act hw.calm silent howes
          cases heq
          cases hjob.symm.trans hjob'
          cases hphase.symm.trans hphase'
          cases refused.symm.trans taken
      · refine hquiet (fun k => Bool.eq_false_iff.2 fun howes => ?_) ?_
        · obtain ⟨oracle, j, p, _, heq, hjob, hphase, -⟩ := owes_act hw.calm silent howes
          exact hruns ⟨k, oracle, j, p, heq, hjob, hphase⟩
        · cases hx : w.writing? id a with
          | none => rfl
          | some x => exact absurd (exists_of_writing? hx) hruns
  | @owing i j p t job_eq phase_eq alone told =>
      have howes : w.owes i = true :=
        owes_eq_true_iff.2 ⟨j, p, t, (job?_eq_some_iff.1 job_eq).1, phase_eq⟩
      obtain ⟨oracle, rfl⟩ := exists_of_advances (prompt i howes)
      exact .tell job_eq phase_eq alone told oracle

/-- What has moved on after an action was written before it, or by it. -/
theorem movesOn_of_act (hw : w.Sound) (moving : ∀ j ∈ (w.act a).jobs, j.movesOn = true) :
    ∀ j ∈ w.jobs, j.movesOn = true := by
  intro j hj
  unfold Job.movesOn
  cases hphase : j.phase with
  | persisted p t isTold =>
      obtain ⟨hturn, -⟩ := turns_act hw.calm a
      have hatt : w.ledger.Attempted j.setup j.claimed j.exchanges p :=
        ⟨j, hj, rfl, rfl, rfl, t, isTold, hphase⟩
      obtain ⟨j', hj', -, hclaimed, -, u, isTold', hphase'⟩ := Ledger.attempted_turn hturn hatt
      have hmoves := moving j' hj'
      rw [Job.movesOn, hphase', hclaimed] at hmoves
      exact hmoves
  | fresh | running | calling | yielding | released => rfl

/-- **What is told is what was written**, in every prompt run in which the clock goes on. -/
theorem retold_run (now : Instant) (capacity : Nat) (liveness : Option Int) (id : String)
    (actions : List Action)
    (prompt : (start now capacity liveness).isPrompt actions = true)
    (moving : ∀ j ∈ ((start now capacity liveness).run actions).jobs, j.movesOn = true) :
    ((start now capacity liveness).run actions).Retells id
      ((start now capacity liveness).publications actions)
      ((start now capacity liveness).writings id actions) := by
  induction actions using List.reverseRecOn with
  | nil => exact .settled (fun k => rfl) rfl
  | append_singleton before a ih =>
      have hw := sound_run (sound_start now capacity liveness) before
      rw [isPrompt_append, Bool.and_eq_true, isPrompt_cons_iff] at prompt
      obtain ⟨hbefore, hprompt, -⟩ := prompt
      rw [run_append] at moving ⊢
      rw [publications_append, writings_append]
      have hstory := ih hbefore (movesOn_of_act hw moving)
      have hnext := retells_act hw hstory hprompt moving
      simpa only [publications, writings, List.append_nil, run_cons, run_nil] using hnext

/-! ## What was written leads to what is stored -/

/-- Changes of state lead from the first state of a transfer to the record that is stored. -/
structure Replays (w : World) (id : String) (cs : List StateChange) : Prop where
  unknown : w.find? id = none → cs = []
  untouched : cs = [] → ∀ r, w.find? id = some r → r.state = .initial
  head : ∀ c, cs.head? = some c → c.prior = .initial
  linked : cs.IsChain fun c c' => c'.prior = c.next
  last : ∀ r, w.find? id = some r → ∀ c, cs.getLast? = some c → r.IsAfter c

theorem replays_act (hw : w.Sound) {cs : List StateChange} (h : w.Replays id cs) (a : Action) :
    (w.act a).Replays id (cs ++ ((w.writing? id a).map Writing.change).toList) := by
  cases hr : w.find? id with
  | none =>
      rw [h.unknown hr, writing?_of_find?_eq_none hr]
      refine ⟨fun _ => rfl, fun _ r hr' => ?_, by simp, .nil, by simp⟩
      obtain ⟨_, _, -, rfl⟩ := find?_act_of_eq_none hw hr hr'
      rfl
  | some r =>
      rcases find?_act_writing hw hr a with
        ⟨x, hx, hclaimed, hr'⟩ | ⟨hx, r', hr', hstands, -⟩
      · rw [hx, Option.map_some, Option.toList_some]
        refine ⟨fun hnone => (by cases hr'.symm.trans hnone), by simp, ?_, ?_, ?_⟩
        · intro c hc
          cases cs with
          | nil =>
              cases hc
              rw [Writing.change, hclaimed]
              exact h.untouched rfl r hr
          | cons first rest => exact h.head c hc
        · refine List.isChain_append.2 ⟨h.linked, .singleton _, ?_⟩
          intro c hc c' hc'
          cases hc'
          rw [Writing.change, hclaimed]
          exact (h.last r hr c hc).state_eq
        · intro q hq c hc
          cases hr'.symm.trans hq
          cases (List.getLast?_concat (l := cs)).symm.trans hc
          exact ⟨rfl, rfl, rfl⟩
      · have hkept : r'.state = r.state ∧ r'.stateCount = r.stateCount ∧
            r'.stateTimestamp = r.stateTimestamp := by
          unfold Transfer.StandsAs at hstands
          rw [hstands]
          exact ⟨rfl, rfl, rfl⟩
        obtain ⟨state_eq, stateCount_eq, stateTimestamp_eq⟩ := hkept
        rw [hx, Option.map_none, Option.toList_none, List.append_nil]
        refine ⟨fun hnone => (by cases hr'.symm.trans hnone), ?_, h.head, h.linked, ?_⟩
        · intro hnil q hq
          cases hr'.symm.trans hq
          exact state_eq.trans (h.untouched hnil r hr)
        · intro q hq c hc
          cases hr'.symm.trans hq
          have hafter := h.last r hr c hc
          exact ⟨state_eq.trans hafter.state_eq, stateCount_eq.trans hafter.stateCount_eq,
            stateTimestamp_eq.trans hafter.stateTimestamp_eq⟩

/-- **What was written leads to what is stored**, in every run. -/
theorem replays_run (now : Instant) (capacity : Nat) (liveness : Option Int) (id : String)
    (actions : List Action) :
    ((start now capacity liveness).run actions).Replays id
      (((start now capacity liveness).writings id actions).map Writing.change) := by
  induction actions using List.reverseRecOn with
  | nil =>
      exact ⟨fun _ => rfl, fun _ r h => (by cases h), by simp [writings], .nil,
        by simp [writings]⟩
  | append_singleton before a ih =>
      have hw := sound_run (sound_start now capacity liveness) before
      rw [run_append, writings_append, List.map_append]
      have hnext := replays_act hw ih a
      simp only [writings, List.append_nil, run_cons, run_nil]
      rwa [Option.toList_map] at hnext

/-! ## The whole story -/

/-- A transfer is started exactly if its id is new. -/
theorem openTransfer_eq_ok_iff {s : Site} (calm : s.failing = []) (id : String)
    (role : Transfer.Role) (request : DataRequest) :
    (SiteM.openTransfer id role request s).1 = .ok id ↔ s.transfers.find? id = none := by
  let p := Transfer.create id role request s.now
  cases h : s.transfers.find? id with
  | none =>
      have hadded : s.transfers.create p = .ok ⟨Table.put id p s.transfers.records⟩ :=
        Transfers.create_eq_ok_iff.2 ⟨h, rfl⟩
      have hstore : SiteM.storeTransfer p s = (.ok (), _) :=
        SiteM.access_transfers_of_ok calm .create (by rw [hadded]; rfl)
      have heq : SiteM.openTransfer id role request s = _ :=
        (SiteM.bind_eq rfl).trans (SiteM.bind_eq hstore)
      exact iff_of_true (congrArg Prod.fst heq) rfl
  | some q =>
      have hfull : s.transfers.create p = .error (.alreadyExists id) := by
        simp only [Transfers.create, p, Transfer.create, h]
      have hstore : SiteM.storeTransfer p s = (.error (.alreadyExists id), s) :=
        SiteM.access_transfers_of_error calm .create (by rw [hfull]; rfl)
      have heq : SiteM.openTransfer id role request s = _ :=
        (SiteM.bind_eq rfl).trans (SiteM.bind_eq hstore)
      rw [heq]
      refine iff_of_false (fun hopened => ?_) (fun hfree => ?_)
      · cases hopened
      · cases hfree

/-- The start of a transfer is told exactly if it was a success. -/
theorem published_create (calm : w.site.failing = []) (id : String) (role : Transfer.Role)
    (request : DataRequest) :
    w.published (.create id role request) =
      if request.validate = .ok () ∧ (SiteM.openTransfer id role request w.site).1 = .ok id then
        [.created id role request.agreementId w.site.now]
      else [] := by
  have hopens := openTransfer_eq_ok_iff calm id role request
  simp only [published]
  cases hvalid : request.validate with
  | error e => simp
  | ok u =>
      by_cases hnew : w.find? id = none
      · rw [if_pos hnew, if_pos ⟨rfl, hopens.2 hnew⟩]
      · rw [if_neg hnew, if_neg fun h => hnew (hopens.1 h.2)]

/-- Telling leaves the records alone. -/
theorem find?_act_of_owing {p : Transfer} {t : Instant} (calm : w.site.failing = [])
    (hjob : w.job? i = some j) (hphase : j.phase = .persisted p t false)
    (oracle : (q : Inquiry) → q.Answer) (id : String) :
    (w.act (.advance i oracle)).find? id = w.find? id := by
  have hnone : w.access? (.advance i oracle) = none := by
    simp only [access?, hjob, Option.bind_some, Job.access?, hphase]
  unfold find?
  rw [transfers_act calm, hnone]
  rfl

/-- A change of state that is told is the last one that was written. -/
theorem Retells.isAfter_of_told {es : List TransferEvent} {xs : List Writing}
    (calm : w.site.failing = []) (h : w.Retells id es xs)
    (hxs : w.Replays id (xs.map Writing.change))
    (moving : ∀ j ∈ w.jobs, j.movesOn = true) {c : StateChange}
    (hc : c ∈ changes id (w.published a)) :
    ∃ r, (w.act a).find? id = some r ∧ r.IsAfter c := by
  obtain ⟨i, oracle, j, p, t, rfl, hjob, hphase, hmem⟩ := exists_of_mem_changes hc
  have found := (job?_eq_some_iff.1 hjob).1
  have howes : w.owes i = true := owes_eq_true_iff.2 ⟨j, p, t, found, hphase⟩
  cases h with
  | settled silent _ => exact absurd howes (by rw [silent i]; exact Bool.false_ne_true)
  | owing hjob' hphase' alone told =>
      obtain rfl := alone i howes
      cases hjob.symm.trans hjob'
      cases hphase.symm.trans hphase'
      have hmoves := moving j (List.mem_of_getElem? found)
      rw [Job.movesOn, hphase] at hmoves
      have htidings := changes_tidings id (of_decide_eq_true hmoves)
      rw [htidings] at hmem
      split at hmem
      · rename_i hid
        obtain rfl := List.mem_singleton.1 hmem
        rw [changes_append, htidings, if_pos hid] at told
        cases hr : w.find? id with
        | none =>
            rw [hxs.unknown hr] at told
            exact absurd told (by simp)
        | some r =>
            have hfound := (find?_act_of_owing calm hjob hphase oracle id).trans hr
            refine ⟨r, hfound, hxs.last r hr _ ?_⟩
            rw [← told]
            exact List.getLast?_concat
      · cases hmem

/-- **The tidings replay the records.**  Take a run in which everything that was written back is
told before anything else happens, and in which every state that was written was entered later than
the one before.  Then what an action leaves on the bus is what it publishes of transfers.  The start
of a transfer is published exactly if it was a success.  A job whose attempt was written back has
published one change of state, and what follows from it; a job whose attempt was given up, or goes
on, has published nothing.  And for every transfer the changes that were published begin in the
first state and go on where the one before ended; when one is published the record stands as it
says; and once nothing is left to be told, they are the changes that were written. -/
theorem events_replay_store (now : Instant) (capacity : Nat) (liveness : Option Int)
    (actions : List Action)
    (prompt : (start now capacity liveness).isPrompt actions = true)
    (moving : ∀ j ∈ ((start now capacity liveness).run actions).jobs, j.movesOn = true) :
    let w₀ := start now capacity liveness
    let w := w₀.run actions
    (∀ a, (∀ f, a ≠ .upkeep f) → (w.act a).site.bus = w.site.bus.tellAll (w.published a)) ∧
    (∀ id role request, w.published (.create id role request) =
      if request.validate = .ok () ∧ (SiteM.openTransfer id role request w.site).1 = .ok id then
        [.created id role request.agreementId w.site.now]
      else []) ∧
    (∀ i j, w.jobs[i]? = some j →
      (∀ p t, j.phase = .persisted p t true →
        w₀.publishedBy i actions =
          .stateChanged p.id j.claimed.state p.state p.stateCount p.stateTimestamp ::
            (SiteM.followUp j.claimed.state p).toList ∧
        changes p.id (w₀.publishedBy i actions) =
          [⟨j.claimed.state, p.state, p.stateCount, p.stateTimestamp⟩]) ∧
      ((∀ p t, j.phase ≠ .persisted p t true) → w₀.publishedBy i actions = [])) ∧
    ∀ id, let cs := changes id (w₀.publications actions)
      (∀ c, cs.head? = some c → c.prior = .initial) ∧
      (cs.IsChain fun c c' => c'.prior = c.next) ∧
      (∀ a c, c ∈ changes id (w.published a) → ∃ r, (w.act a).find? id = some r ∧ r.IsAfter c) ∧
      ((∀ i, w.owes i = false) → cs = (w₀.writings id actions).map Writing.change ∧
        ∀ r, w.find? id = some r → ∀ c, cs.getLast? = some c → r.IsAfter c) := by
  intro w₀ w
  have hw : w.Sound := sound_run (sound_start now capacity liveness) actions
  refine ⟨fun a hother => bus_act hw.calm hother, published_create hw.calm, ?_, fun id => ?_⟩
  · intro i j hj
    have htold := told_run now capacity liveness i actions
    have hjob : ((start now capacity liveness).run actions).jobs[i]? = some j := hj
    rw [hjob, Option.map_some, Option.getD_some] at htold
    refine ⟨fun p t hphase => ?_, fun hother => ?_⟩
    · have hmoves := moving j (List.mem_of_getElem? hj)
      rw [Job.movesOn, hphase] at hmoves
      have hmoved : j.claimed.stateTimestamp < p.stateTimestamp := of_decide_eq_true hmoves
      have htidings : w₀.publishedBy i actions = j.claimed.tidings p := by
        rw [htold, Job.told, hphase]
      refine ⟨?_, ?_⟩
      · rw [htidings]
        exact Transfer.tidings_of_moved (fun heq => Int.lt_irrefl _ (heq ▸ hmoved :))
      · rw [htidings, changes_tidings p.id hmoved, if_pos rfl]
    · rw [htold, Job.told]
      split
      · exact absurd ‹_› (hother _ _)
      all_goals rfl
  · have hstory := retold_run now capacity liveness id actions prompt moving
    have hxs := replays_run now capacity liveness id actions
    intro cs
    have hpart : ∃ later, (w₀.writings id actions).map Writing.change = cs ++ later := by
      cases hstory with
      | settled _ told => exact ⟨[], by rw [List.append_nil, ← told]⟩
      | owing _ _ _ told => exact ⟨_, by rw [← told, changes_append]⟩
    obtain ⟨later, hlater⟩ := hpart
    refine ⟨fun c hc => ?_, ?_, fun a c hc => hstory.isAfter_of_told hw.calm hxs moving hc, ?_⟩
    · refine hxs.head c ?_
      rw [hlater]
      cases hcs : cs with
      | nil =>
          rw [hcs] at hc
          cases hc
      | cons first rest =>
          rw [hcs] at hc
          exact hc
    · have hlinked := hxs.linked
      rw [hlater] at hlinked
      exact (List.isChain_append.1 hlinked).1
    · intro silent
      cases hstory with
      | settled _ told => exact ⟨told, fun r hr c hc => hxs.last r hr c (told ▸ hc)⟩
      | owing job_eq phase_eq _ _ =>
          have howes := owes_eq_true_iff.2 ⟨_, _, _, (job?_eq_some_iff.1 job_eq).1, phase_eq⟩
          exact absurd howes (by rw [silent]; exact Bool.false_ne_true)

/-- A transfer is about to be opened, and is suspended then; a signal comes between. -/
theorem events_replay_store_of_suspension :
    let request : DataRequest :=
      ⟨"r", "a", "s", "c", "http://c", "p", ⟨"blob", []⟩, ⟨"http", []⟩, []⟩
    let setup : Setup := ⟨.ofHost "h", .standard⟩
    let oracle : (q : Inquiry) → q.Answer
      | .judge _ _ => Decision.deny []
      | .select _ => Except.error .clock
      | .find _ => Except.ok none
    let listen : Action := .upkeep fun s => { s with bus := s.bus.subscribe.2 }
    let actions : List Action := [listen, .create "t" .consumer request, .pass ⟨1⟩,
      .claim setup "w", .advance 0 oracle, .advance 0 oracle, .advance 0 oracle,
      .deliver "t" .suspend, .pass ⟨2⟩,
      .claim setup "w", .advance 1 oracle, .advance 1 oracle, .advance 1 oracle]
    let w := (start ⟨0⟩ 16 none).run actions
    (start ⟨0⟩ 16 none).isPrompt actions = true ∧ (∀ j ∈ w.jobs, j.movesOn = true) ∧
    (start ⟨0⟩ 16 none).publications actions =
      [.created "t" .consumer "a" ⟨0⟩, .stateChanged "t" .initial .requesting 0 ⟨1⟩] ∧
    (start ⟨0⟩ 16 none).publishedBy 0 actions = [.stateChanged "t" .initial .requesting 0 ⟨1⟩] ∧
    w.published (.advance 1 oracle) =
      [.stateChanged "t" .requesting .suspended 0 ⟨2⟩, .suspended "t" .requesting ⟨2⟩] ∧
    (w.act (.advance 1 oracle)).site.bus.kept =
      [.transfer (.created "t" .consumer "a" ⟨0⟩),
       .transfer (.stateChanged "t" .initial .requesting 0 ⟨1⟩),
       .transfer (.stateChanged "t" .requesting .suspended 0 ⟨2⟩),
       .transfer (.suspended "t" .requesting ⟨2⟩)] ∧
    ∃ r, (w.act (.advance 1 oracle)).find? "t" = some r ∧
      r.IsAfter ⟨.requesting, .suspended, 0, ⟨2⟩⟩ := by
  intro request setup oracle listen actions w
  have prompt : (start ⟨0⟩ 16 none).isPrompt actions = true := by decide +kernel
  have hmoving : w.jobs.all Job.movesOn = true := by decide +kernel
  have moving : ∀ j ∈ w.jobs, j.movesOn = true := List.all_eq_true.1 hmoving
  have hpublished : w.published (.advance 1 oracle) =
      [.stateChanged "t" .requesting .suspended 0 ⟨2⟩, .suspended "t" .requesting ⟨2⟩] := by
    decide +kernel
  obtain ⟨hbus, -, -, hstory⟩ := events_replay_store ⟨0⟩ 16 none actions prompt moving
  obtain ⟨-, -, hafter, -⟩ := hstory "t"
  refine ⟨prompt, moving, by decide +kernel, by decide +kernel, hpublished, ?_,
    hafter (.advance 1 oracle) _ ?_⟩
  · rw [hbus (.advance 1 oracle) (by simp)]
    decide +kernel
  show _ ∈ changes "t" (w.published (.advance 1 oracle))
  rw [hpublished]
  decide

end World
end Connector
