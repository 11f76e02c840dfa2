import Connector.Proofs.World.History

/-!
# The attempts that were written back

Of all the attempts on a transfer only those that were written back leave a trace in its record.
They follow each other: what the next one was made on is what the one before it left, but for the
lease, the version and what signals change.  Statements:

* `find?_act_writing` — an action either writes back an attempt on the record that is stored, or
  leaves the record as it stands;
* `recounts_run` — the writings of a run are attempts that were written back, each made on what the
  one before it left.
-/

namespace Connector

/-- An attempt on a record that was handed out, and the record that was written back. -/
structure Writing where
  setup : Setup
  claimed : Transfer
  claimedAt : Instant
  exchanges : List Exchange
  result : Transfer

/-- The writing of a job that has come to a record. -/
def Job.writing (j : Job) (p : Transfer) : Writing :=
  ⟨j.setup, j.claimed, j.claimedAt, j.exchanges, p⟩

/-- The writing that the next step of a job is to make. -/
def Job.writing? (j : Job) : Option Writing :=
  match j.phase with
  | .running (.done (.ok p)) => some (j.writing p)
  | _ => none

/-- What a write does to a record is to write it. -/
theorem eq_written_of_touch?_update {s : Transfers} {id : String} {p : Transfer} {touch : Touch}
    (h : s.touch? id (.update p) = some touch) : touch = .written := by
  simp only [Transfers.touch?] at h
  split at h
  · exact (Option.some.inj h).symm
  · cases h

namespace World

/-- The attempt on the transfer of an id that an action writes back. -/
def writing? (w : World) (id : String) : Action → Option Writing
  | .advance i oracle =>
      if w.touch? id (.advance i oracle) = some .written then (w.job? i).bind Job.writing? else none
  | .create _ _ _ | .deliver _ _ | .claim _ _ | .answer _ _ | .lose _ | .pass _ | .upkeep _ => none

/-- The attempts on the transfer of an id that a run writes back, in their order. -/
def writings (id : String) (w : World) : List Action → List Writing
  | [] => []
  | a :: rest => (w.writing? id a).toList ++ writings id (w.act a) rest

variable {w : World} {a : Action} {id : String} {r : Transfer}

theorem writings_append (before after : List Action) :
    w.writings id (before ++ after) =
      w.writings id before ++ (w.run before).writings id after := by
  induction before generalizing w with
  | nil => rfl
  | cons a rest ih => simp only [List.cons_append, writings, ih, run_cons, List.append_assoc]

/-- An attempt that is written back is the one of a job on the record that is stored. -/
theorem of_writing?_eq_some (hw : w.Sound) (hr : w.find? id = some r) {x : Writing}
    (h : w.writing? id a = some x) :
    x.claimed = r ∧ (w.act a).find? id = some (x.result.written r) ∧
      (w.act a).ledger.Attempted x.setup r x.exchanges x.result ∧
      ∃ j ∈ w.jobs, ∃ p, j.phase = .running (.done (.ok p)) ∧ x = j.writing p := by
  cases a with
  | advance i oracle =>
      simp only [writing?] at h
      split at h
      · rename_i htouch
        obtain ⟨r', hr', -, -, hwritten⟩ := find?_act_touch hw hr (.advance i oracle)
        obtain ⟨p, hop, heff⟩ := hwritten htouch
        cases makes_of_access? hop with | @written _ _ j _ hjob hphase =>
        rw [hjob, Option.bind_some, Job.writing?, hphase] at h
        cases h
        obtain ⟨rfl, hclaimed, -, hatt⟩ := attempted_of_job hw hjob hphase hr heff oracle
        exact ⟨hclaimed, hr', hatt, j, List.mem_of_getElem? (job?_eq_some_iff.1 hjob).1, p,
          hphase, rfl⟩
      · cases h
  | create | deliver | claim | answer | lose | pass | upkeep => cases h

/-- Where no attempt is written back nothing is written. -/
theorem touch?_of_writing?_eq_none (h : w.writing? id a = none) :
    w.touch? id a ≠ some .written := by
  intro htouch
  obtain ⟨op, hop, hwritten⟩ := Option.bind_eq_some_iff.1 htouch
  cases makes_of_access? hop with
  | @written i oracle j p hjob hphase =>
      rw [writing?, if_pos htouch, hjob, Option.bind_some, Job.writing?, hphase] at h
      cases h
  | created => cases hwritten
  | signalled | claimed | released =>
      simp only [Transfers.touch?] at hwritten
      split at hwritten <;> cases hwritten

/-- Of an id without a record nothing is written. -/
theorem writing?_of_find?_eq_none (hnone : w.find? id = none) : w.writing? id a = none := by
  cases a with
  | advance i oracle =>
      refine if_neg fun htouch => ?_
      obtain ⟨op, -, hwritten⟩ := Option.bind_eq_some_iff.1 htouch
      cases op with
      | update p =>
          simp only [Transfers.touch?, Bool.and_eq_true, beq_iff_eq] at hwritten
          split at hwritten
          · rename_i htaken
            obtain ⟨rfl, hok⟩ := htaken
            rw [Transfers.update, show w.site.transfers.find? p.id = none from hnone] at hok
            cases hok
          · cases hwritten
      | create => cases hwritten
      | claim | release | signal =>
          simp only [Transfers.touch?] at hwritten
          split at hwritten <;> cases hwritten
  | create | deliver | claim | answer | lose | pass | upkeep => rfl

/-- **What an action does to a record.**  It writes back an attempt on just this record, or leaves
the record as it stands; and then only a signal changes the command that waits and the report on
the flow. -/
theorem find?_act_writing (hw : w.Sound) (hr : w.find? id = some r) (a : Action) :
    (∃ x, w.writing? id a = some x ∧ x.claimed = r ∧
      (w.act a).find? id = some (x.result.written r)) ∨
    (w.writing? id a = none ∧ ∃ r', (w.act a).find? id = some r' ∧ r'.StandsAs r ∧
      ((∀ x, a ≠ .deliver id x) →
        r'.pendingCommand = r.pendingCommand ∧ r'.completion = r.completion)) := by
  cases hx : w.writing? id a with
  | some x =>
      obtain ⟨hclaimed, hr', -⟩ := of_writing?_eq_some hw hr hx
      exact Or.inl ⟨x, rfl, hclaimed, hr'⟩
  | none =>
      obtain ⟨r', hr', -, hstands, -⟩ := find?_act_touch hw hr a
      refine Or.inr ⟨rfl, r', hr', hstands (touch?_of_writing?_eq_none hx), fun silent => ?_⟩
      rcases find?_act hw hr a with ⟨op, q, hop, heff, hq⟩ | ⟨-, hsame⟩
      · cases hr'.symm.trans hq
        cases heff with
        | leased | released => exact ⟨rfl, rfl⟩
        | written id_eq version_eq holder_eq =>
            obtain ⟨touch, htouch, -⟩ := Transfers.touch?_of_effect hw.ledger.isKeyed hr
              (.written id_eq version_eq holder_eq)
            obtain rfl := eq_written_of_touch?_update htouch
            have hwritten : w.touch? id a = some .written := by
              rw [World.touch?, hop, Option.bind_some]
              exact htouch
            exact absurd hwritten (touch?_of_writing?_eq_none hx)
        | signalled =>
            cases makes_of_access? hop
            rw [Transfers.id_of_find? hw.ledger.isKeyed hr] at silent
            exact absurd rfl (silent _)
      · cases hr'.symm.trans hsame
        exact ⟨rfl, rfl⟩

/-- Some writings are those of the transfer of an id as far as a world has come. -/
structure Recounts (w : World) (id : String) (xs : List Writing) : Prop where
  unknown : w.find? id = none → xs = []
  attempted : ∀ x ∈ xs, w.ledger.Attempted x.setup x.claimed x.exchanges x.result
  stands : ∀ r, w.find? id = some r → ∀ x, xs.getLast? = some x → r.StandsAs x.result
  linked : xs.IsChain fun x y => y.claimed.StandsAs x.result

/-- What an action writes goes on with the writings before it. -/
theorem recounts_act (hw : w.Sound) {xs : List Writing} (h : w.Recounts id xs) (a : Action) :
    (w.act a).Recounts id (xs ++ (w.writing? id a).toList) := by
  obtain ⟨hturn, -⟩ := turns_act hw.calm a
  have hkept : ∀ x ∈ xs, (w.act a).ledger.Attempted x.setup x.claimed x.exchanges x.result :=
    fun x hx => Ledger.attempted_turn hturn (h.attempted x hx)
  cases hr : w.find? id with
  | none =>
      rw [h.unknown hr, writing?_of_find?_eq_none hr]
      exact ⟨fun _ => rfl, by simp, by simp, .nil⟩
  | some r =>
      rcases find?_act_writing hw hr a with
        ⟨x, hx, hclaimed, hr'⟩ | ⟨hx, r', hr', hstands, -⟩
      · rw [hx]
        obtain ⟨-, -, hatt, -⟩ := of_writing?_eq_some hw hr hx
        refine ⟨fun hnone => (by cases hr'.symm.trans hnone), ?_, ?_, ?_⟩
        · intro y hy
          rcases List.mem_append.1 hy with hy | hy
          · exact hkept y hy
          · cases List.mem_singleton.1 hy
            rw [hclaimed]
            exact hatt
        · intro q hq y hy
          cases hr'.symm.trans hq
          cases (List.getLast?_concat (l := xs)).symm.trans hy
          rfl
        · refine List.isChain_append.2 ⟨h.linked, .singleton _, ?_⟩
          intro y hy z hz
          cases hz
          rw [hclaimed]
          exact h.stands r hr y hy
      · rw [hx, Option.toList_none, List.append_nil]
        refine ⟨fun hnone => (by cases hr'.symm.trans hnone), hkept, ?_, h.linked⟩
        intro q hq y hy
        cases hr'.symm.trans hq
        exact hstands.trans (h.stands r hr y hy)

/-- **The writings of a run.** -/
theorem recounts_run (now : Instant) (capacity : Nat) (liveness : Option Int) (id : String)
    (actions : List Action) :
    ((start now capacity liveness).run actions).Recounts id
      ((start now capacity liveness).writings id actions) := by
  induction actions using List.reverseRecOn with
  | nil => exact ⟨fun _ => rfl, by simp [writings], fun r h => (by cases h), .nil⟩
  | append_singleton before a ih =>
      have hw := sound_run (sound_start now capacity liveness) before
      rw [run_append, writings_append]
      have hnext := recounts_act hw ih a
      simpa only [writings, List.append_nil, run_cons, run_nil] using hnext

end World
end Connector
