import Connector.Proofs.World.Access
import Connector.Proofs.World.Coherence
import Mathlib.Data.List.Chain

/-!
# The history of a record

The history of an id is the record as it was created, and then as it was left by every result that
was written back.  Between these a record may be put on lease and get it back, and signals may
leave a command or a report; for the rest it stands as the last entry of its history.  Statements:

* `follows_of_written` — what is written follows on the record that is stored;
* `tells_run` — the history is a walk along the state graph from its first state, and every record
  stands as the last entry of its history;
* `history_follows_graph` — what an action may change of a record, how its version grows, and where
  the way from suspension leads.
-/

namespace Connector

/-- What an access does to a record. -/
inductive Touch where
  | claimed
  | written
  | released
  | signalled
  deriving DecidableEq, Repr

/-- Whether a record gets its next version. -/
def Touch.renews : Touch → Bool
  | .claimed | .written | .signalled => true
  | .released => false

namespace Transfer

/-- Whether a signal changes the record. -/
def heeds (r : Transfer) (x : Signal) : Bool :=
  match r.accept x with
  | .ok (some _) => true
  | .ok none | .error _ => false

/-- The first record is the second one, but for its lease and version and what signals change. -/
def StandsAs (r q : Transfer) : Prop :=
  r = { q with
    pendingCommand := r.pendingCommand, completion := r.completion, lease := r.lease
    version := r.version }

theorem StandsAs.refl (r : Transfer) : r.StandsAs r := rfl

theorem StandsAs.trans {r q p : Transfer} (h : r.StandsAs q) (h' : q.StandsAs p) :
    r.StandsAs p := by
  unfold StandsAs at h h' ⊢
  rw [h, h']

theorem StandsAs.state_eq {r q : Transfer} (h : r.StandsAs q) : r.state = q.state := by
  unfold StandsAs at h
  rw [h]

theorem StandsAs.stateCount_eq {r q : Transfer} (h : r.StandsAs q) :
    r.stateCount = q.stateCount := by
  unfold StandsAs at h
  rw [h]

/-- The second record follows on the first one in a history. -/
structure Follows (s : Step) (q q' : Transfer) : Prop where
  edge : q.state.next? s = some q'.state
  stateCount_eq : q'.stateCount = if q'.state = q.state then q.stateCount + 1 else 0
  suspendedFrom_eq : q'.suspendedFrom = q.suspendedAfter s
  resumes : ∀ prior, s = .resume prior → q.suspendedFrom = some prior
  dataFlow_eq : s ≠ .workerStarted → q'.dataFlow = q.dataFlow
  succeeds : q'.Succeeds q

/-- What is written after a passage follows on every record that stands the same. -/
theorem follows_of_passes {s : Step} {now : Instant} {r q p : Transfer} (hstands : r.StandsAs q)
    (h : r.Passes s now p) : Follows s q (p.written r) := by
  have hedge := h.edge
  have hcount := h.stateCount_eq
  have hfrom := h.suspendedFrom_eq
  have hresumes := h.resumes
  have hflow := h.dataFlow_eq
  have hcontinues := h.continues
  unfold StandsAs at hstands
  rw [hstands] at hedge hcount hfrom hresumes hflow hcontinues
  refine ⟨hedge, hcount, ?_, hresumes, hflow, hcontinues.id_eq, hcontinues.role_eq,
    hcontinues.createdAt_eq, hcontinues.request_eq⟩
  cases s <;> exact hfrom

/-- A suspension that is over led to termination, or back. -/
theorem Follows.returns {s s' : Step} {q₀ q₁ q₂ : Transfer} (h : Follows s q₀ q₁)
    (h' : Follows s' q₁ q₂) (hstate : q₁.state = .suspended) :
    (q₂.state = .terminating ∨ q₂.state = q₀.state) ∧ q₂.dataFlow = q₀.dataFlow ∧
      q₂.request = q₀.request := by
  obtain ⟨rfl, -⟩ := State.next?_eq_suspended (hstate ▸ h.edge)
  have hback := State.next?_suspended (hstate ▸ h'.edge)
  refine ⟨?_, ?_, h'.succeeds.request_eq.trans h.succeeds.request_eq⟩
  · rcases hback with hterm | rfl
    · exact Or.inl hterm
    · have hprior := (h'.resumes _ rfl).symm.trans h.suspendedFrom_eq
      exact Or.inr (Option.some.inj hprior)
  · have hne : s' ≠ .workerStarted := by
      rintro rfl
      have hedge := h'.edge
      rw [hstate] at hedge
      cases hedge
    exact (h'.dataFlow_eq hne).trans (h.dataFlow_eq (by simp))

end Transfer

namespace Transfers

/-- What an access does to the record of an id. -/
def touch? (s : Transfers) (id : String) : Operation → Option Touch
  | .create _ => none
  | .claim states batch c =>
      if (s.chosen states batch c).any (·.id == id) then some .claimed else none
  | .update p => if p.id == id && (s.update p).isOk then some .written else none
  | .release subject holder =>
      if subject == id && (s.find? id).any (·.lease.any (·.holder == holder)) then some .released
      else none
  | .signal subject x =>
      if subject == id && (s.find? id).any (·.heeds x) then some .signalled else none

variable {s : Transfers} {id : String} {r r' : Transfer} {op : Operation}

/-- What an effect on a record is, and what it leaves of the record. -/
theorem touch?_of_effect (hs : s.IsKeyed) (hr : s.find? id = some r) (h : Effect s r op r') :
    ∃ touch, s.touch? id op = some touch ∧
      r'.version = r.version + (if touch.renews then 1 else 0) ∧
      (touch ≠ .written → r'.StandsAs r) ∧ (touch = .written → ∃ p, op = .update p) := by
  obtain rfl : r.id = id := id_of_find? hs hr
  cases h with
  | @leased states batch c chosen =>
      refine ⟨.claimed, ?_, rfl, fun _ => rfl, by simp⟩
      have hany : (s.chosen states batch c).any (·.id == r.id) = true :=
        List.any_eq_true.2 ⟨r, chosen, beq_self_eq_true _⟩
      simp only [touch?, hany, if_true]
  | @written p id_eq version_eq holder_eq =>
      refine ⟨.written, ?_, rfl, fun hne => absurd rfl hne, fun _ => ⟨p, rfl⟩⟩
      have taken := update_eq_ok_iff.2 ⟨r, id_eq ▸ hr, version_eq, holder_eq, rfl⟩
      simp only [touch?, taken, id_eq, beq_self_eq_true, Except.isOk, Except.toBool, Bool.and_self,
        if_true]
  | @released holder held =>
      refine ⟨.released, ?_, rfl, fun _ => rfl, by simp⟩
      simp only [touch?, hr, Option.any_some, held, beq_self_eq_true, Bool.and_self, if_true]
  | @signalled x q accepted =>
      refine ⟨.signalled, ?_, ?_, fun _ => ?_, by simp⟩
      · have hheeds : r.heeds x = true := by simp only [Transfer.heeds, accepted]
        simp only [touch?, hr, Option.any_some, hheeds, beq_self_eq_true, Bool.and_self, if_true]
      · rw [← Transfer.version_of_accept accepted]
        rfl
      · unfold Transfer.StandsAs Transfer.bumped
        rw [Transfer.accept_frame accepted]

/-- An access that does something to a record has an effect on it. -/
theorem effect_of_touch? (hs : s.IsKeyed) (hr : s.find? id = some r) {touch : Touch}
    (h : s.touch? id op = some touch) : ∃ r', Effect s r op r' := by
  obtain rfl : r.id = id := id_of_find? hs hr
  cases op with
  | create p => cases h
  | claim states batch c =>
      simp only [touch?] at h
      split at h
      · rename_i hany
        obtain ⟨q, hq, hid⟩ := List.any_eq_true.1 hany
        have hstored := find?_of_mem_chosen hs hq
        rw [beq_iff_eq.1 hid, hr] at hstored
        cases hstored
        exact ⟨_, .leased hq⟩
      · cases h
  | update p =>
      simp only [touch?] at h
      split at h
      · rename_i hwritten
        obtain ⟨hid, hok⟩ := (Bool.and_eq_true_iff).1 hwritten
        cases taken : s.update p with
        | error e =>
            rw [taken] at hok
            cases hok
        | ok t =>
            obtain ⟨q, hq, version_eq, holder_eq, -⟩ := update_eq_ok_iff.1 taken
            rw [beq_iff_eq.1 hid, hr] at hq
            cases hq
            exact ⟨_, .written (beq_iff_eq.1 hid) version_eq holder_eq⟩
      · cases h
  | release subject holder =>
      simp only [touch?, hr, Option.any_some] at h
      split at h
      · rename_i hheld
        obtain ⟨hid, held⟩ := (Bool.and_eq_true_iff).1 hheld
        cases beq_iff_eq.1 hid
        exact ⟨_, .released held⟩
      · cases h
  | signal subject x =>
      simp only [touch?, hr, Option.any_some] at h
      split at h
      · rename_i hheeded
        obtain ⟨hid, heeds⟩ := (Bool.and_eq_true_iff).1 hheeded
        cases beq_iff_eq.1 hid
        unfold Transfer.heeds at heeds
        split at heeds
        · exact ⟨_, .signalled ‹_›⟩
        · cases heeds
        · cases heeds
      · cases h

end Transfers

namespace World

/-- What an action does to the record of an id. -/
def touch? (w : World) (id : String) (a : Action) : Option Touch :=
  (w.access? a).bind (w.site.transfers.touch? id)

/-- The entry that an action makes in the history of an id: the record if it is new, or was
written. -/
def added? (w : World) (id : String) (a : Action) : Option Transfer :=
  if w.find? id = none ∨ w.touch? id a = some .written then (w.act a).find? id else none

/-- The history of an id in a run. -/
def history (id : String) (w : World) : List Action → List Transfer
  | [] => []
  | a :: rest => (w.added? id a).toList ++ history id (w.act a) rest

/-- A list of records is the history of an id as far as a world has come. -/
structure Tells (w : World) (id : String) (h : List Transfer) : Prop where
  unknown : w.find? id = none → h = []
  stands : ∀ r, w.find? id = some r → ∃ q, h.getLast? = some q ∧ r.StandsAs q
  head : ∀ q, h.head? = some q → q.state = .initial ∧ q.stateCount = 0
  linked : h.IsChain fun q q' => ∃ s, Transfer.Follows s q q'

variable {w : World} {a : Action} {id : String} {r : Transfer}

theorem history_append (before after : List Action) :
    w.history id (before ++ after) = w.history id before ++ (w.run before).history id after := by
  induction before generalizing w with
  | nil => rfl
  | cons a rest ih => simp only [List.cons_append, history, ih, run_cons, List.append_assoc]

/-- What an action does to a record: its touch tells whether the record is written, and whether it
gets its next version. -/
theorem find?_act_touch (hw : w.Sound) (hr : w.find? id = some r) (a : Action) :
    ∃ r', (w.act a).find? id = some r' ∧
      r'.version = r.version + (if (w.touch? id a).any Touch.renews then 1 else 0) ∧
      (w.touch? id a ≠ some .written → r'.StandsAs r) ∧
      (w.touch? id a = some .written → ∃ p, w.access? a = some (.update p) ∧
        Transfers.Effect w.site.transfers r (.update p) r') := by
  rcases find?_act hw hr a with ⟨op, r', hop, heff, hr'⟩ | ⟨hno, hr'⟩
  · obtain ⟨touch, htouch, hversion, hstands, hwritten⟩ :=
      Transfers.touch?_of_effect hw.ledger.isKeyed hr heff
    have heq : w.touch? id a = some touch := by
      rw [touch?, hop, Option.bind_some]
      exact htouch
    rw [heq]
    refine ⟨r', hr', hversion, fun hne => hstands fun h => hne (congrArg some h), fun h => ?_⟩
    obtain ⟨p, rfl⟩ := hwritten (Option.some.inj h)
    exact ⟨p, hop, heff⟩
  · have heq : w.touch? id a = none := by
      cases hop : w.access? a with
      | none => rw [touch?, hop, Option.bind_none]
      | some op =>
          cases htouch : w.site.transfers.touch? id op with
          | none => rw [touch?, hop, Option.bind_some, htouch]
          | some touch =>
              obtain ⟨r', heff⟩ := Transfers.effect_of_touch? hw.ledger.isKeyed hr htouch
              exact absurd heff (hno op hop r')
    rw [heq]
    exact ⟨r, hr', rfl, fun _ => .refl r, fun h => (by cases h)⟩

/-- What is written follows on the record that is stored. -/
theorem follows_of_written (hw : w.Sound) (hjobs : w.ledger.HandsOutActionable)
    (hr : w.find? id = some r) {p r' : Transfer} (hop : w.access? a = some (.update p))
    (heff : Transfers.Effect w.site.transfers r (.update p) r') {q : Transfer}
    (hstands : r.StandsAs q) : ∃ s, Transfer.Follows s q r' := by
  obtain ⟨rfl, j, hj, rfl, ⟨now, result⟩, -⟩ := attempted_of_written hw hop hr heff
  obtain ⟨s, t, hpasses⟩ := result.passes (hjobs j hj)
  exact ⟨s, Transfer.follows_of_passes hstands hpasses⟩

/-- A list of records that begins as a history has begun goes on with what follows on its last
record. -/
theorem Tells.append_written {w' : World} {h : List Transfer} (htells : w.Tells id h)
    {q r' : Transfer} (hlast : h.getLast? = some q) (hfollows : ∃ s, Transfer.Follows s q r')
    (hr' : w'.find? id = some r') : w'.Tells id (h ++ [r']) where
  unknown hnone := by cases hr'.symm.trans hnone
  stands r hr := by
    cases hr'.symm.trans hr
    exact ⟨r', List.getLast?_concat, .refl r'⟩
  head first hfirst := by
    refine htells.head first ?_
    cases h with
    | nil => cases hlast
    | cons first' rest => exact hfirst
  linked := by
    refine List.isChain_append.2 ⟨htells.linked, .singleton _, ?_⟩
    intro x hx y hy
    cases hlast.symm.trans hx
    cases hy
    exact hfollows

/-- What an action adds to a history goes on with it. -/
theorem tells_act (hw : w.Sound) (hjobs : w.ledger.HandsOutActionable) {h : List Transfer}
    (htells : w.Tells id h) (a : Action) :
    (w.act a).Tells id (h ++ (w.added? id a).toList) := by
  cases hr : w.find? id with
  | none =>
      rw [htells.unknown hr, added?, if_pos (Or.inl hr), List.nil_append]
      cases hr' : (w.act a).find? id with
      | none => exact ⟨fun _ => rfl, fun r h => (by cases hr'.symm.trans h), by simp, .nil⟩
      | some r =>
          obtain ⟨role, request, -, rfl⟩ := find?_act_of_eq_none hw hr hr'
          refine ⟨fun h => (by cases hr'.symm.trans h), ?_, ?_, .singleton _⟩
          · intro r' h
            cases hr'.symm.trans h
            exact ⟨_, rfl, .refl _⟩
          · rintro q ⟨⟩
            exact ⟨rfl, rfl⟩
  | some r =>
      obtain ⟨q, hlast, hstands⟩ := htells.stands r hr
      obtain ⟨r', hr', -, hkept, hwritten⟩ := find?_act_touch hw hr a
      by_cases htouch : w.touch? id a = some .written
      · rw [added?, if_pos (Or.inr htouch), hr']
        obtain ⟨p, hop, heff⟩ := hwritten htouch
        exact htells.append_written hlast (follows_of_written hw hjobs hr hop heff hstands) hr'
      · have hentry : w.added? id a = none := by
          rw [added?, if_neg]
          rintro (h | h)
          · cases hr.symm.trans h
          · exact htouch h
        rw [hentry, Option.toList_none, List.append_nil]
        refine ⟨fun h => (by cases hr'.symm.trans h), ?_, htells.head, htells.linked⟩
        intro r'' h
        cases hr'.symm.trans h
        exact ⟨q, hlast, (hkept htouch).trans hstands⟩

/-- In every run the history of an id is a walk along the state graph, and leads to the record that
is stored. -/
theorem tells_run (now : Instant) (capacity : Nat) (liveness : Option Int) (id : String)
    (actions : List Action) :
    ((start now capacity liveness).run actions).Tells id
      ((start now capacity liveness).history id actions) := by
  induction actions using List.reverseRecOn with
  | nil => exact ⟨fun _ => rfl, fun r h => (by cases h), by simp [history], .nil⟩
  | append_singleton before a ih =>
      have hw := sound_run (sound_start now capacity liveness) before
      have hjobs := actionable_run now capacity liveness before
      rw [run_append, history_append]
      have hnext := tells_act hw hjobs ih a
      simpa only [history, List.append_nil, run_cons, run_nil] using hnext

/-- A later record of the same transfer is stored after every action. -/
theorem succeeds_act (hw : w.Sound) (hr : w.find? id = some r) {r' : Transfer}
    (hr' : (w.act a).find? id = some r') : r'.Succeeds r := by
  obtain ⟨hturn, -⟩ := turns_act hw.calm a
  rcases Ledger.find?_turn hw.ledger hturn hr with hsame | ⟨q, hq, hchange⟩
  · cases hr'.symm.trans hsame
    exact ⟨rfl, rfl, rfl, rfl⟩
  · cases hr'.symm.trans hq
    exact hchange.succeeds

/-- **The history of a record follows the state graph.**  Take any run and any id.  Whatever
action comes next, the record of the id stays stored, as a record of the same transfer; unless it
is written it stands as before, and its version grows by one with every claim, write and signal
that has an effect, and with nothing else.  The record stands as the last entry of its history.
The history begins in the first state, and its entries are linked by edges of the state graph; the
count of entries into a state begins anew with every change of state.  And what comes after a
suspension is termination or the very state before it, with the same flow and the same request. -/
theorem history_follows_graph (now : Instant) (capacity : Nat) (liveness : Option Int)
    (id : String) (actions : List Action) :
    let w := (start now capacity liveness).run actions
    let h := (start now capacity liveness).history id actions
    (∀ r, w.find? id = some r → ∀ a, ∃ r', (w.act a).find? id = some r' ∧ r'.Succeeds r ∧
      (w.touch? id a ≠ some .written → r'.StandsAs r) ∧
      r'.version = r.version + if (w.touch? id a).any Touch.renews then 1 else 0) ∧
    (∀ r, w.find? id = some r → ∃ q, h.getLast? = some q ∧ r.StandsAs q) ∧
    (∀ q, h.head? = some q → q.state = .initial ∧ q.stateCount = 0) ∧
    (h.IsChain fun q q' => (∃ s, q.state.next? s = some q'.state) ∧
      q'.stateCount = if q'.state = q.state then q.stateCount + 1 else 0) ∧
    ∀ q₀ q₁ q₂, [q₀, q₁, q₂] <:+: h → q₁.state = .suspended →
      (q₂.state = .terminating ∨ q₂.state = q₀.state) ∧ q₂.dataFlow = q₀.dataFlow ∧
        q₂.request = q₀.request := by
  intro w h
  have hw : w.Sound := sound_run (sound_start now capacity liveness) actions
  have htells : w.Tells id h := tells_run now capacity liveness id actions
  refine ⟨?_, htells.stands, htells.head, ?_, ?_⟩
  · intro r hr a
    obtain ⟨r', hr', hversion, hkept, -⟩ := find?_act_touch hw hr a
    exact ⟨r', hr', succeeds_act hw hr hr', hkept, hversion⟩
  · exact htells.linked.imp fun q q' ⟨s, hfollows⟩ =>
      ⟨⟨s, hfollows.edge⟩, hfollows.stateCount_eq⟩
  · intro q₀ q₁ q₂ hpart hstate
    have hlinked := htells.linked.infix hpart
    rw [List.isChain_cons_cons, List.isChain_cons_cons] at hlinked
    obtain ⟨⟨s, hfirst⟩, ⟨s', hsecond⟩, -⟩ := hlinked
    exact hfirst.returns hsecond hstate

/-- A transfer is suspended while it is about to be opened, and resumed. -/
theorem history_follows_graph_through_suspension :
    let request : DataRequest :=
      ⟨"r", "a", "s", "c", "http://c", "p", ⟨"blob", []⟩, ⟨"http", []⟩, []⟩
    let setup : Setup := ⟨.ofHost "h", .standard⟩
    let oracle : (q : Inquiry) → q.Answer
      | .judge _ _ => Decision.deny []
      | .select _ => Except.error .clock
      | .find _ => Except.ok none
    let actions : List Action := [.create "t" .consumer request,
      .claim setup "w", .advance 0 oracle, .advance 0 oracle, .deliver "t" .suspend,
      .claim setup "w", .advance 1 oracle, .advance 1 oracle, .advance 1 oracle,
      .deliver "t" .resume, .claim setup "w", .advance 2 oracle, .advance 2 oracle,
      .advance 2 oracle]
    let w := (start ⟨0⟩ 16 none).run actions
    let h := (start ⟨0⟩ 16 none).history "t" actions
    h.map (·.state) = [.initial, .requesting, .suspended, .requesting] ∧
      ∃ r q₀ q₁ q₂, w.find? "t" = some r ∧ r.version = 8 ∧ [q₀, q₁, q₂] <:+: h ∧
        q₁.state = .suspended ∧ (q₂.state = .terminating ∨ q₂.state = q₀.state) ∧
        ∃ r', (w.act (.deliver "t" .cancel)).find? "t" = some r' ∧ r'.StandsAs r ∧
          r'.version = 9 := by
  intro request setup oracle actions w h
  have hstates : h.map (·.state) = [.initial, .requesting, .suspended, .requesting] := by
    decide +kernel
  have hversion : (w.find? "t").map (·.version) = some 8 := by decide +kernel
  have htouch : w.touch? "t" (.deliver "t" .cancel) = some .signalled := by decide +kernel
  obtain ⟨hkept, -, -, -, hback⟩ := history_follows_graph ⟨0⟩ 16 none "t" actions
  obtain ⟨q, rest, heq, -, hrest⟩ := List.map_eq_cons_iff.1 hstates
  obtain ⟨q₀, rest, rfl, -, hrest⟩ := List.map_eq_cons_iff.1 hrest
  obtain ⟨q₁, rest, rfl, hstate, hrest⟩ := List.map_eq_cons_iff.1 hrest
  obtain ⟨q₂, rest, rfl, -, -⟩ := List.map_eq_cons_iff.1 hrest
  have hpart : [q₀, q₁, q₂] <:+: h := ⟨[q], rest, by rw [heq]; rfl⟩
  obtain ⟨r, hr, hr_version⟩ := Option.map_eq_some_iff.1 hversion
  obtain ⟨r', hr', -, hstands, hr'_version⟩ := hkept r hr (.deliver "t" .cancel)
  refine ⟨hstates, r, q₀, q₁, q₂, hr, hr_version, hpart, hstate,
    (hback q₀ q₁ q₂ hpart hstate).1, r', hr', ?_, ?_⟩
  · exact hstands (by rw [htouch]; decide)
  · rw [hr'_version, hr_version, htouch]
    rfl

end World
end Connector
