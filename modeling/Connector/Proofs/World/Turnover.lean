import Connector.Proofs.Store.Waiting
import Connector.Proofs.World.Coherence
import Connector.Proofs.World.Cycle
import Connector.Proofs.World.Dated

/-!
# Every record has its turn

Whoever waits longest is claimed first, and what is written back goes to the back of the line: on
every record that was handed out there was something to do, so that its attempt took it one step
along the state graph, at an instant of the cycle.  So a cycle that passes a record over, and writes
back all that it claimed, leaves a full batch fewer ahead of it; and what comes into being meanwhile
stands behind.  Nobody is put off for ever by those who come later or by those who try again.
Statements:

* `Step.isSinceClaim`, `IsSinceClaim.le_stateTimestamp` — what is written back came to its state
  after its claim;
* `stateTimestamp_act`, `not_isAhead_of_writesBack` — what an action does to the place of a record;
* `isAhead_run_iff` — who is still ahead of a record when a cycle is over;
* `batch_of_passed_over`, `ahead_of_passed_over` — a cycle that passes a record over;
* `everyone_has_a_turn` — after how many cycles a record is claimed at the latest.
-/

namespace Connector

namespace Job

/-- Nothing that the attempt knows of the time is earlier than the claim. -/
structure IsSinceClaim (j : Job) : Prop where
  began : j.Began
  answered : ∀ (c : Call) (answer : Option c.Answer) t, .call c answer t ∈ j.exchanges →
    j.claimedAt ≤ t

variable {now : Instant} {s t : Transfers} {j j' : Job}

theorem Step.isSinceClaim (h : j.Step now s j' t) (course : j.IsCourse) (later : j.claimedAt ≤ now)
    (hj : j.IsSinceClaim) : j'.IsSinceClaim where
  began := h.began course later hj.began
  answered c answer u hx := by
    rw [h.continues.claimedAt_eq]
    rcases h.mem_exchanges hx with hx | ⟨-, -, -, rfl, -⟩
    · exact hj.answered c answer u hx
    · exact later

/-- An attempt that had something to do came to a record whose state is as late as the claim. -/
theorem IsSinceClaim.le_stateTimestamp {p : Transfer} (h : j.IsSinceClaim)
    (actionable : j.claimed.IsActionable) (phase_eq : j.phase = .running (.done (.ok p))) :
    j.claimedAt ≤ p.stateTimestamp := by
  obtain ⟨b, hb, hyields⟩ := h.began.since phase_eq
  rcases (Attempt.result_of_yields hyields).knows actionable with heq | ⟨c, answer, hx⟩
  · rw [heq]
    exact hb
  · exact h.answered c answer _ hx

end Job

/-- Nobody claims, and no job before a number goes on. -/
def Action.keepsTo (first : Nat) : Action → Bool
  | .claim _ _ => false
  | .advance i _ | .answer i _ => decide (first ≤ i)
  | .create _ _ _ | .deliver _ _ | .lose _ | .pass _ | .upkeep _ => true

namespace World

variable {w : World} {u : Instant} {first : Nat} {batch : List Transfer} {a : Action} {id : String}
  {r p : Transfer}

/-- The number of records ahead of a record. -/
def ahead (w : World) (r : Transfer) : Nat := (w.site.transfers.ahead r).length

/-- The record of an id is ahead of a record. -/
def IsAhead (w : World) (r : Transfer) (id : String) : Prop := w.site.transfers.IsAhead r id

/-- The jobs from a number on are on a batch that was claimed at an instant. -/
def Serves (w : World) (u : Instant) (first : Nat) (batch : List Transfer) : Prop :=
  ∀ k j, w.jobs[first + k]? = some j →
    batch[k]? = some j.claimed ∧ j.claimedAt = u ∧ j.claimed.IsActionable ∧ j.IsSinceClaim

/-- Where no job has such a number there is nothing to be served. -/
theorem serves_nil (w : World) (u : Instant) : w.Serves u w.jobs.length [] := by
  intro k j hj
  rw [List.getElem?_eq_none (Nat.le_add_right _ _)] at hj
  cases hj

/-- A batch is served once it is claimed. -/
theorem serves_claim (hw : w.Sound) (hall : w.ledger.Everywhere fun _ r => r.IsCoherent)
    {setup : Setup} {holder : String} {w' : World}
    (hjobs : w'.jobs = w.jobs ++
      (w.ledger.claimOf setup holder).1.map (.fresh setup holder w.site.now)) :
    w'.Serves w.site.now w.jobs.length (w.ledger.claimOf setup holder).1 := by
  intro k j hj
  rw [getElem?_of_claimed hjobs] at hj
  obtain ⟨q, hq, rfl⟩ := Option.map_eq_some_iff.1 hj
  have actionable : q.IsActionable :=
    Ledger.isActionable_of_mem_claim hw.ledger hall (List.mem_of_getElem? hq)
  exact ⟨hq, rfl, actionable, trivial, fun c answer t hx => absurd hx List.not_mem_nil⟩

/-- A batch goes on to be served while nobody claims and time does not turn back behind its
claim. -/
theorem serves_act (hw : w.Sound) (h : w.Serves u first batch) (alone : a.keepsTo first = true)
    (later : u ≤ w.site.now) : (w.act a).Serves u first batch := by
  intro k j' hj'
  rcases job_act_cases hw hj' with ⟨j, hj, rfl | step⟩ | ⟨setup, holder, q, rfl, -⟩
  · exact h k j' hj
  · obtain ⟨hbatch, hclaimedAt, actionable, since⟩ := h k j hj
    have course := (hw.ledger.jobs j (List.mem_of_getElem? hj)).isCourse
    obtain ⟨-, -, claimed_eq, claimedAt_eq⟩ := step.continues
    rw [claimed_eq, claimedAt_eq]
    exact ⟨hbatch, hclaimedAt, actionable, step.isSinceClaim course (hclaimedAt ▸ later) since⟩
  · cases alone

/-! ## The place of a record -/

/-- A job of the batch leads to a record whose state is as late as the claim. -/
theorem Serves.le_stateTimestamp (h : w.Serves u first batch) {k : Nat} {j : Job}
    (hj : w.jobs[first + k]? = some j) (phase_eq : j.phase = .running (.done (.ok p))) :
    batch[k]? = some j.claimed ∧ u ≤ p.stateTimestamp := by
  obtain ⟨hbatch, rfl, actionable, since⟩ := h k j hj
  exact ⟨hbatch, since.le_stateTimestamp actionable phase_eq⟩

/-- **What an action does to the place of a record.**  The record keeps it, unless it is of the
batch; then it may come to a state as late as the claim. -/
theorem stateTimestamp_act (hw : w.Sound) (h : w.Serves u first batch)
    (alone : a.keepsTo first = true) (hp : w.find? id = some p) :
    ∃ p', (w.act a).find? id = some p' ∧
      (p'.stateTimestamp = p.stateTimestamp ∨
        u ≤ p'.stateTimestamp ∧ ∃ q ∈ batch, q.id = id) := by
  rcases find?_act hw hp a with ⟨op, p', hop, heff, hp'⟩ | ⟨-, hp'⟩
  · refine ⟨p', hp', ?_⟩
    cases heff with
    | leased | released => exact Or.inl rfl
    | signalled accepted =>
        rw [Transfer.bumped, Transfer.accept_frame accepted]
        exact Or.inl rfl
    | @written x id_eq version_eq holder_eq =>
        cases makes_of_access? hop with | @written i oracle j _ hjob hphase =>
        obtain ⟨-, hclaimed, -, -⟩ :=
          attempted_of_job hw hjob hphase hp (.written id_eq version_eq holder_eq) oracle
        obtain ⟨k, rfl⟩ := Nat.exists_eq_add_of_le (of_decide_eq_true alone)
        obtain ⟨hbatch, hlater⟩ := h.le_stateTimestamp (job?_eq_some_iff.1 hjob).1 hphase
        refine Or.inr ⟨hlater, j.claimed, List.mem_of_getElem? hbatch, ?_⟩
        rw [hclaimed]
        exact Transfers.id_of_find? hw.ledger.isKeyed hp
  · exact ⟨p, hp', Or.inl rfl⟩

/-- What is as late as an instant is not ahead of what is earlier. -/
theorem not_precedes_of_le (early : r.stateTimestamp < u) (late : u ≤ p.stateTimestamp) :
    ¬ p.Precedes r := fun h => absurd (Int.lt_of_lt_of_le early late) (Int.not_lt.2 h.le)

/-- Nobody gets ahead of a record. -/
theorem isAhead_of_act (hw : w.Sound) (h : w.Serves u first batch)
    (alone : a.keepsTo first = true) (early : r.stateTimestamp < u) (later : u ≤ w.site.now)
    (hahead : (w.act a).IsAhead r id) : w.IsAhead r id := by
  obtain ⟨p', hp', hprecedes⟩ := hahead
  cases hp : w.find? id with
  | none =>
      obtain ⟨role, request, -, rfl⟩ := find?_act_of_eq_none hw hp hp'
      exact absurd hprecedes (not_precedes_of_le early later)
  | some p =>
      obtain ⟨x, hx, hkept | ⟨hlate, -⟩⟩ := stateTimestamp_act hw h alone hp
      · cases hx.symm.trans hp'
        have hid : p'.id = p.id := (Transfers.id_of_find? (sound_act hw a).ledger.isKeyed hp').trans
          (Transfers.id_of_find? hw.ledger.isKeyed hp).symm
        exact ⟨p, hp, (Transfer.precedes_congr hkept hid rfl rfl).1 hprecedes⟩
      · cases hx.symm.trans hp'
        exact absurd hprecedes (not_precedes_of_le early hlate)

/-- What a cycle writes back is not ahead of anything that was there before. -/
theorem not_isAhead_of_writesBack (hw : w.Sound) (h : w.Serves u first batch)
    (early : r.stateTimestamp < u) {k : Nat} {q : Transfer} (hq : batch[k]? = some q)
    (hwrites : w.writesBack (first + k) a = true) : ¬ (w.act a).IsAhead r q.id := by
  obtain ⟨oracle, j, p, t, rfl, hjob, hphase, taken⟩ := writesBack_iff.1 hwrites
  have found := (job?_eq_some_iff.1 hjob).1
  obtain ⟨hbatch, hlate⟩ := h.le_stateTimestamp found hphase
  cases hq.symm.trans hbatch
  have hsound := hw.ledger.jobs j (List.mem_of_getElem? found)
  obtain ⟨_, result⟩ := (hsound.reaches_of_running hphase).result
  obtain ⟨stored, -, -, hstored⟩ := Transfers.find?_update taken
  rw [result.continues.id_eq] at hstored
  have hop : w.access? (.advance (first + k) oracle) = some (.update p) := by
    rw [access?, hjob, Option.bind_some, Job.access?, hphase]
  have htransfers : (w.act (.advance (first + k) oracle)).site.transfers = t := by
    rw [transfers_act hw.calm, hop]
    exact Transfers.apply_update_of_ok taken
  rintro ⟨p', hp', hprecedes⟩
  rw [htransfers] at hp'
  cases hstored.symm.trans hp'
  exact not_precedes_of_le early hlate hprecedes

/-! ## While a cycle goes on -/

section Course
variable {course : List Action} (alone : ∀ a ∈ course, a.keepsTo first = true)
include alone

theorem stateTimestamp_run (hw : w.Sound) (h : w.Serves u first batch)
    (later : Throughout (fun v => u ≤ v.site.now) w course) (hid : ∀ q ∈ batch, q.id ≠ id)
    (hp : w.find? id = some p) :
    ∃ p', (w.run course).find? id = some p' ∧ p'.stateTimestamp = p.stateTimestamp := by
  induction course generalizing w p with
  | nil => exact ⟨p, hp, rfl⟩
  | cons a rest ih =>
      obtain ⟨hnow, hrest⟩ := throughout_cons_iff.1 later
      obtain ⟨ha, halone⟩ := List.forall_mem_cons.1 alone
      obtain ⟨p₁, hp₁, hkept | ⟨-, q, hq, hsame⟩⟩ := stateTimestamp_act hw h ha hp
      · obtain ⟨p', hp', hstamp⟩ :=
          ih halone (sound_act hw a) (serves_act hw h ha hnow) hrest hp₁
        exact ⟨p', hp', hstamp.trans hkept⟩
      · exact absurd hsame (hid q hq)

theorem isAhead_of_run (hw : w.Sound) (h : w.Serves u first batch)
    (later : Throughout (fun v => u ≤ v.site.now) w course) (early : r.stateTimestamp < u)
    (hahead : (w.run course).IsAhead r id) : w.IsAhead r id := by
  induction course generalizing w with
  | nil => exact hahead
  | cons a rest ih =>
      obtain ⟨hnow, hrest⟩ := throughout_cons_iff.1 later
      obtain ⟨ha, halone⟩ := List.forall_mem_cons.1 alone
      exact isAhead_of_act hw h ha early hnow
        (ih halone (sound_act hw a) (serves_act hw h ha hnow) hrest hahead)

theorem not_isAhead_of_hasWritten (hw : w.Sound) (h : w.Serves u first batch)
    (later : Throughout (fun v => u ≤ v.site.now) w course) (early : r.stateTimestamp < u)
    {k : Nat} {q : Transfer} (hq : batch[k]? = some q)
    (hwritten : w.hasWritten (first + k) course = true) : ¬ (w.run course).IsAhead r q.id := by
  induction course generalizing w with
  | nil => cases hwritten
  | cons a rest ih =>
      obtain ⟨hnow, hrest⟩ := throughout_cons_iff.1 later
      obtain ⟨ha, halone⟩ := List.forall_mem_cons.1 alone
      have hw' := sound_act hw a
      have h' := serves_act hw h ha hnow
      rw [hasWritten, Bool.or_eq_true] at hwritten
      rcases hwritten with hwrites | hwritten
      · -- From then on nobody gets ahead again.
        exact fun hahead => not_isAhead_of_writesBack hw h early hq hwrites
          (isAhead_of_run halone hw' h' hrest early hahead)
      · exact ih halone hw' h' hrest hwritten

/-- **Who is ahead of a record when a cycle is over:** those who were so before, but for what the
cycle wrote back. -/
theorem isAhead_run_iff (hw : w.Sound) (h : w.Serves u first batch)
    (later : Throughout (fun v => u ≤ v.site.now) w course) (early : r.stateTimestamp < u)
    (hwritten : ∀ k < batch.length, w.hasWritten (first + k) course = true) :
    (w.run course).IsAhead r id ↔ w.IsAhead r id ∧ ∀ q ∈ batch, q.id ≠ id := by
  constructor
  · intro hahead
    refine ⟨isAhead_of_run alone hw h later early hahead, ?_⟩
    rintro q hq rfl
    obtain ⟨k, hk⟩ := List.getElem?_of_mem hq
    obtain ⟨hlt, -⟩ := List.getElem?_eq_some_iff.1 hk
    exact not_isAhead_of_hasWritten alone hw h later early hk (hwritten k hlt) hahead
  · rintro ⟨⟨p, hp, hprecedes⟩, hid⟩
    obtain ⟨p', hp', hstamp⟩ := stateTimestamp_run alone hw h later hid hp
    have hsame : p'.id = p.id :=
      (Transfers.id_of_find? (sound_run hw course).ledger.isKeyed hp').trans
        (Transfers.id_of_find? hw.ledger.isKeyed hp).symm
    exact ⟨p', hp', (Transfer.precedes_congr hstamp hsame rfl rfl).2 hprecedes⟩

end Course

/-- Where nobody works everybody keeps his place. -/
theorem ahead_run_of_still (hw : w.Sound) {course : List Action}
    (alone : ∀ a ∈ course, a.keepsTo w.jobs.length = true)
    (later : Throughout (fun v => u ≤ v.site.now) w course) (early : r.stateTimestamp < u) :
    (w.run course).ahead r = w.ahead r := by
  have hkeyed := hw.isKeyed
  have hkeyed' : (w.run course).site.transfers.IsKeyed := (sound_run hw course).ledger.isKeyed
  have hsame : ∀ id, (w.run course).IsAhead r id ↔
      w.IsAhead r id ∧ ∀ q ∈ ([] : List Transfer), q.id ≠ id :=
    fun id => isAhead_run_iff alone hw (w.serves_nil u) later early (by simp)
  exact Transfers.length_ahead_add hkeyed hkeyed' .nil (by simp) hsame

/-! ## Cycles that pass a record over -/

/-- A cycle that a worker opens now and that nobody interferes with: as long as it goes on no other
worker does anything, and time does not turn back behind its beginning; and all its attempts are
written back. -/
structure IsSmooth (w : World) (setup : Setup) (holder : String) (course : List Action) :
    Prop where
  later : Throughout (fun v => w.site.now ≤ v.site.now) (w.act (.claim setup holder)) course
  alone : ∀ a ∈ course, a.keepsTo w.jobs.length = true
  persisted : ∃ n, w.report? setup holder course = some ⟨n, n⟩

section Cycle
variable {setup : Setup} {holder : String} {course : List Action}

/-- In a smooth cycle the store takes every write. -/
theorem IsSmooth.report (hw : w.Sound) (smooth : w.IsSmooth setup holder course) :
    w.report? setup holder course =
        some ⟨(w.ledger.claimOf setup holder).1.length, (w.ledger.claimOf setup holder).1.length⟩ ∧
      ∀ k < (w.ledger.claimOf setup holder).1.length,
        (w.act (.claim setup holder)).hasWritten (w.jobs.length + k) course = true := by
  obtain ⟨n, hreport⟩ := smooth.persisted
  obtain ⟨hclaimed, hpersisted, -⟩ := of_report?_eq_some hw hreport
  obtain rfl : n = _ := hclaimed
  refine ⟨hreport, fun k hk => ?_⟩
  have hall := List.countP_eq_length.1 (hpersisted.symm.trans List.length_range.symm)
  exact hall k (List.mem_range.2 hk)

/-- A claim that passes a record over takes a full batch from before it. -/
theorem batch_of_passed_over (hw : w.Sound) {q : Transfer} (hq : w.find? r.id = some q)
    (place : q.stateTimestamp = r.stateTimestamp) (claimable : q.isClaimable w.site.now = true)
    (passed : ∀ p ∈ (w.ledger.claimOf setup holder).1, p.id ≠ r.id) :
    (w.ledger.claimOf setup holder).1.length = setup.orchestration.batchSize ∧
      ∀ p ∈ (w.ledger.claimOf setup holder).1, p.Precedes r ∧ w.IsAhead r p.id := by
  have hkeyed := hw.isKeyed
  have hqid : q.id = r.id := Transfers.id_of_find? hkeyed hq
  have hcandidate : q ∈ w.site.transfers.candidates Transfer.State.actionable
      (SiteM.claimOf setup holder w.site.now) :=
    (Transfers.mem_candidates_iff hkeyed).2
      ⟨hqid ▸ hq, Transfer.mem_actionable_of_isClaimable claimable, claimable⟩
  have hout : q ∉ w.site.transfers.chosen Transfer.State.actionable
      setup.orchestration.batchSize (SiteM.claimOf setup holder w.site.now) :=
    fun hmem => passed _ (Transfers.mem_claim_iff.2 ⟨q, hmem, rfl⟩) hqid
  obtain ⟨hfull, hbefore⟩ := Transfers.precedes_of_passed_over hkeyed hcandidate hout
  refine ⟨(List.length_map _).trans hfull, fun p hp => ?_⟩
  obtain ⟨p₀, hchosen, rfl⟩ := Transfers.mem_claim_iff.1 hp
  have hp₀ : p₀.Precedes r := (Transfer.precedes_congr rfl rfl place hqid).1 (hbefore p₀ hchosen)
  exact ⟨(Transfer.precedes_congr rfl rfl rfl rfl).1 hp₀, p₀,
    Transfers.find?_of_mem_chosen hkeyed hchosen, hp₀⟩

/-- **A cycle that passes a record over.**  It takes a full batch from before the record, and when
it is over just these are no longer ahead of the record, which has kept its place. -/
theorem ahead_of_passed_over (hw : w.Sound) (hall : w.ledger.Everywhere fun _ r => r.IsCoherent)
    (smooth : w.IsSmooth setup holder course) {q : Transfer} (hq : w.find? r.id = some q)
    (place : q.stateTimestamp = r.stateTimestamp) (early : r.stateTimestamp < w.site.now)
    (claimable : q.isClaimable w.site.now = true)
    (passed : ∀ p ∈ (w.ledger.claimOf setup holder).1, p.id ≠ r.id) :
    let n := setup.orchestration.batchSize
    let w' := (w.act (.claim setup holder)).run course
    w.report? setup holder course = some ⟨n, n⟩ ∧
      (∀ p ∈ (w.ledger.claimOf setup holder).1, p.Precedes r) ∧
      w'.ahead r + n = w.ahead r ∧
      ∃ q', w'.find? r.id = some q' ∧ q'.stateTimestamp = r.stateTimestamp := by
  intro n w'
  have hkeyed := hw.isKeyed
  obtain ⟨hreport, hwritten⟩ := smooth.report hw
  obtain ⟨-, hledger⟩ := claim_of_report? hw hreport
  have hopened := sound_act hw (.claim setup holder)
  have hserves := serves_claim hw hall (congrArg Ledger.jobs hledger)
  have htransfers : (w.act (.claim setup holder)).site.transfers =
      (w.ledger.claimOf setup holder).2 := congrArg Ledger.transfers hledger
  obtain ⟨hfull, hbatch⟩ := batch_of_passed_over hw hq place claimable passed
  have hlength : (w.ledger.claimOf setup holder).1.length = n := hfull
  refine ⟨hlength ▸ hreport, fun p hp => (hbatch p hp).1, ?_, ?_⟩
  · rw [← hlength]
    refine Transfers.length_ahead_add hkeyed (sound_run hopened course).ledger.isKeyed
      (Transfers.pairwise_id_claim hkeyed _ _ _) (fun p hp => (hbatch p hp).2) fun id => ?_
    refine (isAhead_run_iff smooth.alone hopened hserves smooth.later early hwritten).trans
      (and_congr_left' ?_)
    rw [IsAhead, htransfers]
    exact Transfers.isAhead_claim_iff hkeyed
  · have hstored : (w.act (.claim setup holder)).find? r.id = some q := by
      rw [find?, htransfers]
      exact (Transfers.find?_claim_of_notMem hkeyed passed).trans hq
    obtain ⟨q', hq', hstamp⟩ :=
      stateTimestamp_run smooth.alone hopened hserves smooth.later passed hstored
    exact ⟨q', hq', hstamp.trans place⟩

end Cycle

/-- Where nobody sets the clock time does not turn back. -/
theorem throughout_now_le (hw : w.Sound) (hu : u ≤ w.site.now) {course : List Action}
    (unset : ∀ a ∈ course, ∀ t, a ≠ .pass t) :
    Throughout (fun v => u ≤ v.site.now) w course := by
  induction course generalizing w with
  | nil => exact throughout_nil_iff.2 hu
  | cons a rest ih =>
      obtain ⟨ha, hrest⟩ := List.forall_mem_cons.1 unset
      obtain ⟨hturn, -⟩ := turns_act hw.calm a
      have hnow : w.site.now ≤ (w.act a).site.now := hturn.now_le fun t heq => absurd heq (ha t)
      exact throughout_cons_iff.2 ⟨hu, ih (sound_act hw a) (Int.le_trans hu hnow) hrest⟩

/-- **Who comes later stands behind.** -/
theorem ahead_create (hw : w.Sound) (early : r.stateTimestamp < w.site.now) (id : String)
    (role : Transfer.Role) (request : DataRequest) :
    (w.act (.create id role request)).ahead r = w.ahead r := by
  have alone : ∀ a ∈ [Action.create id role request], a.keepsTo w.jobs.length = true := by
    simp [Action.keepsTo]
  exact ahead_run_of_still hw alone (throughout_now_le hw (Int.le_refl _) (by simp)) early

end World

/-! ## One cycle after the other -/

/-- A while in which nobody works, and a cycle that a worker opens then. -/
structure Round where
  pause : List Action
  setup : Setup
  holder : String
  course : List Action

namespace Round

/-- All that happens in a round. -/
def actions (x : Round) : List Action := x.pause ++ .claim x.setup x.holder :: x.course

/-- What the cycle of a round claims. -/
def batch (x : Round) (w : World) : List Transfer :=
  ((w.run x.pause).ledger.claimOf x.setup x.holder).1

/-- The cycle of a round claims the record of an id. -/
def Claims (x : Round) (w : World) (id : String) : Prop := ∃ q ∈ x.batch w, q.id = id

/-- A round in which a record waits: for a while nobody works and time does not turn back, then the
record can be claimed, and a smooth cycle for a batch of some size is opened. -/
structure IsOffered (x : Round) (w : World) (n : Nat) (r : Transfer) : Prop where
  later : World.Throughout (fun v => w.site.now ≤ v.site.now) w x.pause
  alone : ∀ a ∈ x.pause, a.keepsTo w.jobs.length = true
  claimable : ∃ q, (w.run x.pause).find? r.id = some q ∧
    q.isClaimable (w.run x.pause).site.now = true
  batchSize_eq : x.setup.orchestration.batchSize = n
  smooth : (w.run x.pause).IsSmooth x.setup x.holder x.course

end Round

namespace World

variable {w : World} {n : Nat} {r : Transfer}

/-- A record waits in one round after the other, until it is claimed. -/
def Awaits (n : Nat) (r : Transfer) : World → List Round → Prop
  | _, [] => True
  | w, x :: rest => x.IsOffered w n r ∧ (¬ x.Claims w r.id → Awaits n r (w.run x.actions) rest)

/-- What waits in its place since some time. -/
structure HasPlace (w : World) (r : Transfer) : Prop where
  sound : w.Sound
  coherent : w.ledger.Everywhere fun _ r => r.IsCoherent
  early : r.stateTimestamp < w.site.now
  stored : ∃ q, w.find? r.id = some q ∧ q.stateTimestamp = r.stateTimestamp

/-- A round that passes a record over leaves a full batch fewer ahead of it. -/
theorem HasPlace.passed_over (h : w.HasPlace r) {x : Round} (offered : x.IsOffered w n r)
    (passed : ¬ x.Claims w r.id) :
    (w.run x.actions).HasPlace r ∧ (w.run x.actions).ahead r + n = w.ahead r := by
  obtain ⟨hw, hall, early, q, hq, place⟩ := h
  obtain ⟨later, alone, ⟨q', hq', claimable⟩, rfl, smooth⟩ := offered
  obtain ⟨x', hx', hkept⟩ :=
    stateTimestamp_run alone hw (w.serves_nil w.site.now) later (by simp) hq
  cases hq'.symm.trans hx'
  have hpaused := sound_run hw x.pause
  have early' : r.stateTimestamp < (w.run x.pause).site.now :=
    Int.lt_of_lt_of_le early (later x.pause List.prefix_rfl)
  have hcoherent : ∀ actions, (w.run actions).ledger.Everywhere fun _ r => r.IsCoherent :=
    run_induction (fun hl h => Ledger.everywhere_turn Ledger.isCoherent_invariant hl h) hw hall
  obtain ⟨-, -, hahead, hstored⟩ := ahead_of_passed_over hpaused (hcoherent x.pause) smooth hq'
    (hkept.trans place) early' claimable fun p hp hid => passed ⟨p, hp, hid⟩
  have hrun : w.run x.actions =
      ((w.run x.pause).act (.claim x.setup x.holder)).run x.course := run_append _ _ _
  rw [hrun, hahead, ahead_run_of_still hw alone later early]
  refine ⟨⟨hrun ▸ sound_run hw _, hrun ▸ hcoherent _, ?_, hstored⟩, rfl⟩
  exact Int.lt_of_lt_of_le early' (smooth.later x.course List.prefix_rfl)

/-- Of the rounds before the one that claims a record, or of all, each takes a full batch from
before it. -/
theorem HasPlace.claims_or_le (h : w.HasPlace r) {rounds : List Round}
    (awaits : Awaits n r w rounds) :
    (∃ first x rest, rounds = first ++ x :: rest ∧
      x.Claims (w.run (first.flatMap Round.actions)) r.id ∧ first.length * n ≤ w.ahead r) ∨
    rounds.length * n ≤ w.ahead r := by
  induction rounds generalizing w with
  | nil => exact Or.inr (by simp)
  | cons x rest ih =>
      obtain ⟨offered, hnext⟩ := awaits
      by_cases hclaims : x.Claims w r.id
      · exact Or.inl ⟨[], x, rest, rfl, hclaims, by simp⟩
      · obtain ⟨hplace, hahead⟩ := h.passed_over offered hclaims
        rcases ih hplace (hnext hclaims) with ⟨first, y, last, rfl, hy, hle⟩ | hle
        · refine Or.inl ⟨x :: first, y, last, rfl, ?_, ?_⟩
          · rw [List.flatMap_cons, run_append]
            exact hy
          · rw [List.length_cons, Nat.succ_mul, ← hahead]
            exact Nat.add_le_add_right hle n
        · refine Or.inr ?_
          rw [List.length_cons, Nat.succ_mul, ← hahead]
          exact Nat.add_le_add_right hle n

/-- **Everyone has a turn.**  In a run from the start a record is stored that came to its state
before now.

A cycle that is opened now while the record can be claimed, that nobody interferes with and that
writes back all it claims, either claims the record or takes a full batch from before it; and then
just so many fewer are ahead of the record.  Who comes into being does not get ahead of it.  So
when such cycles follow each other, with pauses in which anybody may start transfers and send
signals, and the record can be claimed at each of them, it is claimed after at most as many as there
are full batches ahead of it. -/
theorem everyone_has_a_turn (now : Instant) (capacity : Nat) (liveness : Option Int)
    (before : List Action) (r : Transfer)
    (stored : ((start now capacity liveness).run before).find? r.id = some r)
    (early : r.stateTimestamp < ((start now capacity liveness).run before).site.now) :
    let w := (start now capacity liveness).run before
    (∀ setup holder course, r.isClaimable w.site.now = true → w.IsSmooth setup holder course →
      (∀ q ∈ (w.ledger.claimOf setup holder).1, q.id ≠ r.id) →
      let n := setup.orchestration.batchSize
      w.report? setup holder course = some ⟨n, n⟩ ∧
        (∀ q ∈ (w.ledger.claimOf setup holder).1, q.Precedes r) ∧
        ((w.act (.claim setup holder)).run course).ahead r + n = w.ahead r) ∧
    (∀ id role request, (w.act (.create id role request)).ahead r = w.ahead r) ∧
    ∀ n rounds, 0 < n → Awaits n r w rounds → w.ahead r / n < rounds.length →
      ∃ first x rest, rounds = first ++ x :: rest ∧ first.length ≤ w.ahead r / n ∧
        x.Claims (w.run (first.flatMap Round.actions)) r.id := by
  intro w
  have hw : w.Sound := sound_run (sound_start now capacity liveness) before
  have hall := isCoherent_run now capacity liveness before
  refine ⟨fun setup holder course claimable smooth passed => ?_, ahead_create hw early,
    fun n rounds positive awaits long => ?_⟩
  · obtain ⟨hreport, hprecedes, hahead, -⟩ :=
      ahead_of_passed_over hw hall smooth stored rfl early claimable passed
    exact ⟨hreport, hprecedes, hahead⟩
  · have hplace : w.HasPlace r := ⟨hw, hall, early, r, stored, rfl⟩
    rcases hplace.claims_or_le awaits with ⟨first, x, rest, heq, hclaims, hle⟩ | hle
    · exact ⟨first, x, rest, heq, (Nat.le_div_iff_mul_le positive).2 hle, hclaims⟩
    · exact absurd ((Nat.le_div_iff_mul_le positive).2 hle) (Nat.not_le.2 long)

/-- The world where a worker has opened a cycle, if it is known which records it chooses. -/
theorem act_claim_eq (hw : w.Sound) {setup : Setup} {holder : String} {taken : List Transfer}
    (hchosen : w.site.transfers.chosen Transfer.State.actionable setup.orchestration.batchSize
      (SiteM.claimOf setup holder w.site.now) = taken)
    (covered : (SiteM.claimOf setup holder w.site.now).expiresAt.inRange = true) :
    let c := SiteM.claimOf setup holder w.site.now
    let batch := taken.map (·.leased c)
    let site := { w.site with
      transfers := ⟨w.site.transfers.records.mapValues fun p =>
        if taken.any (·.id == p.id) then p.leased c else p⟩
      notes := SiteM.openingNotes holder batch ++ w.site.notes }
    SiteM.openCycle setup holder w.site = (.ok (.ok batch), site) ∧
      w.act (.claim setup holder) =
        ⟨site, w.jobs ++ batch.map (.fresh setup holder w.site.now)⟩ := by
  subst hchosen
  rcases SiteM.openCycle_cases hw.calm setup holder with ⟨-, late, -⟩ | ⟨-, heq⟩
  · cases late.symm.trans covered
  · refine ⟨heq, ?_⟩
    show w.claim setup holder = _
    rw [claim, heq]
    rfl

/-- Two transfers were started one after the other, and batches are of one.  The first cycle takes
the elder one, which is then behind the younger; so the second cycle takes the younger one. -/
theorem everyone_has_a_turn_of_two :
    let m : Config.Manifest := .standard "h"
    let request (id : String) : DataRequest :=
      ⟨id, "a", "s", "c", "http://c", "p", ⟨"blob", []⟩, ⟨"http", []⟩, []⟩
    let setup : Setup := ⟨m.spec.connector, { m.spec.orchestrator with batchSize := 1 }⟩
    let oracle : (q : Inquiry) → q.Answer
      | .judge _ _ => Decision.deny []
      | .select _ => Except.error .clock
      | .find _ => Except.ok none
    let before : List Action := [.create "s" .provider (request "r"), .pass ⟨1⟩,
      .create "t" .provider (request "q"), .pass ⟨2⟩]
    let course (i : Nat) : List Action := [.advance i oracle, .advance i oracle, .advance i oracle]
    let first : Round := ⟨[], setup, "v", course 0⟩
    let second : Round := ⟨[.pass ⟨3⟩], setup, "v", course 1⟩
    let w := (start ⟨0⟩ 16 none).run before
    let r := Transfer.create "t" .provider (request "q") ⟨1⟩
    w.find? r.id = some r ∧ r.stateTimestamp < w.site.now ∧ w.ahead r = 1 ∧
      r.isClaimable w.site.now = true ∧ w.IsSmooth setup "v" (course 0) ∧
      (w.ledger.claimOf setup "v").1.map Transfer.id = ["s"] ∧
      ((w.act (.claim setup "v")).run (course 0)).ahead r + 1 = 1 ∧
      Awaits 1 r w [first, second] ∧
      ∃ earlier x rest, [first, second] = earlier ++ x :: rest ∧ earlier.length ≤ 1 ∧
        x.Claims (w.run (earlier.flatMap Round.actions)) r.id := by
  intro m request setup oracle before course first second w r
  have hw : w.Sound := sound_run (sound_start _ _ _) _
  have stored : w.find? r.id = some r := by decide +kernel
  have early : r.stateTimestamp < w.site.now := by decide +kernel
  have hahead : w.ahead r = 1 := by decide +kernel
  have claimable : r.isClaimable w.site.now = true := by decide +kernel
  -- The kernel does not evaluate a sort, so it is said here what the cycles choose.
  let s := Transfer.create "s" .provider (request "r") ⟨0⟩
  have hchosen : w.site.transfers.chosen Transfer.State.actionable setup.orchestration.batchSize
      (SiteM.claimOf setup "v" w.site.now) = [s] := by
    have hline : w.site.transfers.line Transfer.State.actionable
        (SiteM.claimOf setup "v" w.site.now) = [s, r] :=
      Transfers.line_eq hw.isKeyed (by decide +kernel) (by decide +kernel)
    rw [Transfers.chosen_eq, hline]
    rfl
  obtain ⟨hopened, hact⟩ := act_claim_eq hw hchosen (by decide +kernel)
  have hids : (w.ledger.claimOf setup "v").1.map Transfer.id = ["s"] := by
    have hbatch := congrArg (List.map (·.leased (SiteM.claimOf setup "v" w.site.now))) hchosen
    exact congrArg (List.map Transfer.id) hbatch
  have passed : ∀ q ∈ (w.ledger.claimOf setup "v").1, q.id ≠ r.id := by
    intro q hq
    have hid := List.mem_map_of_mem (f := Transfer.id) hq
    rw [hids, List.mem_singleton] at hid
    rw [hid]
    decide
  have unset : ∀ i, ∀ a ∈ .claim setup "v" :: course i, ∀ t, a ≠ .pass t := by simp [course]
  have alone : ∀ i, ∀ a ∈ course i, a.keepsTo i = true := by simp [course, Action.keepsTo]
  have hjobs : w.jobs.length = 0 := by decide +kernel
  have halone : ∀ a ∈ course 0, a.keepsTo w.jobs.length = true := by
    rw [hjobs]
    exact alone 0
  have hreport : w.report? setup "v" (course 0) = some ⟨1, 1⟩ := by
    rw [report?, hopened, hact]
    decide +kernel
  have smooth : w.IsSmooth setup "v" (course 0) :=
    ⟨(throughout_cons_iff.1 (throughout_now_le hw (Int.le_refl _) (unset 0))).2, halone, 1, hreport⟩
  -- The second cycle is opened here.
  let w₁ := (w.run first.actions).run [.pass ⟨3⟩]
  have hw₁ : w₁.Sound := sound_run (sound_run hw _) _
  have hfirst : w.run first.actions = (w.act (.claim setup "v")).run (course 0) := run_cons ..
  rw [hact] at hfirst
  have heq₁ : w₁ = _ := congrArg (·.run [.pass ⟨3⟩]) hfirst
  have hjobs₁ : w₁.jobs.length = 1 := by
    rw [heq₁]
    decide +kernel
  have stored₁ : w₁.find? r.id = some r := by
    rw [heq₁]
    decide +kernel
  have hnow₁ : w₁.site.now = ⟨3⟩ := rfl
  have claimable₁ : r.isClaimable w₁.site.now = true := by
    rw [hnow₁]
    decide +kernel
  have halone₁ : ∀ a ∈ course 1, a.keepsTo w₁.jobs.length = true := by
    rw [hjobs₁]
    exact alone 1
  have hchosen₁ : w₁.site.transfers.chosen Transfer.State.actionable
      setup.orchestration.batchSize (SiteM.claimOf setup "v" w₁.site.now) = [r] := by
    have hline : w₁.site.transfers.line Transfer.State.actionable
        (SiteM.claimOf setup "v" w₁.site.now) = [r, (w₁.find? "s").getD s] := by
      refine Transfers.line_eq hw₁.isKeyed ?_ ?_ <;> rw [heq₁] <;> decide +kernel
    rw [Transfers.chosen_eq, hline]
    rfl
  obtain ⟨hopened₁, hact₁⟩ := act_claim_eq hw₁ hchosen₁ (by rw [hnow₁]; decide +kernel)
  have hreport₁ : w₁.report? setup "v" (course 1) = some ⟨1, 1⟩ := by
    rw [report?, hopened₁, hact₁, heq₁]
    decide +kernel
  have smooth₁ : w₁.IsSmooth setup "v" (course 1) :=
    ⟨(throughout_cons_iff.1 (throughout_now_le hw₁ (Int.le_refl _) (unset 1))).2, halone₁, 1,
      hreport₁⟩
  have later₁ : Throughout (fun v => (w.run first.actions).site.now ≤ v.site.now)
      (w.run first.actions) [.pass ⟨3⟩] := by
    have hnow : (w.run first.actions).site.now = ⟨2⟩ := by
      rw [hfirst]
      decide +kernel
    rw [throughout_cons_iff, throughout_nil_iff,
      show ((w.run first.actions).act (.pass ⟨3⟩)).site.now = ⟨3⟩ from hnow₁, hnow]
    decide
  have offered : first.IsOffered w 1 r :=
    ⟨throughout_nil_iff.2 (Int.le_refl _), fun a ha => absurd ha List.not_mem_nil,
      ⟨r, stored, claimable⟩, rfl, smooth⟩
  have offered₁ : second.IsOffered (w.run first.actions) 1 r :=
    ⟨later₁, by simp [second, Action.keepsTo], ⟨r, stored₁, claimable₁⟩, rfl, smooth₁⟩
  have awaits : Awaits 1 r w [first, second] := ⟨offered, fun _ => ⟨offered₁, fun _ => trivial⟩⟩
  have hturn := everyone_has_a_turn ⟨0⟩ 16 none before r stored early
  obtain ⟨hcycle, -, hrounds⟩ := hturn
  obtain ⟨-, -, hless⟩ := hcycle setup "v" (course 0) claimable smooth passed
  have hshort : w.ahead r / 1 < [first, second].length := by
    rw [hahead]
    decide
  have hclaims := hrounds 1 [first, second] Nat.one_pos awaits hshort
  rw [hahead] at hless hclaims
  exact ⟨stored, early, hahead, claimable, smooth, hids, hless, awaits, hclaims⟩

end World
end Connector
