import Connector.Proofs.Event.Log

/-!
# Everybody who listens

Events are told on a bus, and any number of listeners hear them, each at a pace of its own; some
want all events and others those of one transfer only.  Listeners come and go, and a listener of one
transfer may be held up between any two events that it looks at, while others are told.  Through all
of this the answers to a listener account for the events told since it came, one after the other:
each answer for the events that it passes over, for the one that it gives or for the gap that it
admits.  What is not accounted for yet is ahead.  Statements:

* `hears_act`, `hears_run` — what one act and a run of them leave ahead of a listener;
* `Accounts.wanted_eq` — without a gap the answers are the wanted events;
* `receivers_account` — the answers account for all events, and nothing is withheld.
-/

namespace Connector

/-- Somebody who listens, to everything or to the events of one transfer. -/
structure Listener where
  receiver : Receiver
  about : Option String
  deriving DecidableEq, Repr, Inhabited

/-- What a listener is answered and where it stands then.  One that wants all events looks at one;
another looks at so many events at most, and on the way it is told that there is none for it. -/
def Listener.listen (b : Bus) (looks : Nat) (l : Listener) :
    Except ReceiveFault Event × Listener :=
  match l.about with
  | none => ((b.receive l.receiver).1, { l with receiver := (b.receive l.receiver).2 })
  | some id =>
      ((b.receiveAbout id looks l.receiver).1.map .transfer,
        { l with receiver := (b.receiveAbout id looks l.receiver).2 })

/-- What a listener is answered that nothing holds up. -/
def Listener.hear (b : Bus) (l : Listener) : Except ReceiveFault Event :=
  match l.about with
  | none => (b.receive l.receiver).1
  | some id => (b.receiveTransfer id l.receiver).1.map .transfer

/-- A bus, and all who ever came to listen; those who left are gone. -/
structure Audience where
  bus : Bus
  listeners : List (Option Listener)

namespace Audience

/-- What may happen. -/
inductive Act where
  | publish (e : Event)
  /-- Somebody comes to listen. -/
  | subscribe (about : Option String)
  /-- A listener looks at so many events at most. -/
  | listen (i looks : Nat)
  | leave (i : Nat)
  /-- The bus is given up. -/
  | close

/-- Nobody listens to a bus of a capacity. -/
def opened (capacity : Nat) : Audience := ⟨.create capacity, []⟩

/-- A listener, if it has not left. -/
def listener? (a : Audience) (i : Nat) : Option Listener := a.listeners[i]?.join

/-- What is left of an act. -/
def act (a : Audience) : Act → Audience
  | .publish e => { a with bus := a.bus.publish e }
  | .subscribe about => ⟨a.bus.subscribe.2, a.listeners ++ [some ⟨a.bus.subscribe.1, about⟩]⟩
  | .listen i looks =>
      match a.listener? i with
      | some l => { a with listeners := a.listeners.set i (some (l.listen a.bus looks).2) }
      | none => a
  | .leave i =>
      match a.listener? i with
      | some _ => ⟨a.bus.unsubscribe, a.listeners.set i none⟩
      | none => a
  | .close => { a with bus := a.bus.close }

/-- What is left of some acts. -/
def run (a : Audience) (acts : List Act) : Audience := acts.foldl act a

/-- What a listener is answered in an act. -/
def answer? (a : Audience) (i : Nat) : Act → Option (Except ReceiveFault Event)
  | .listen j looks =>
      if j = i then (a.listener? i).map fun l => (l.listen a.bus looks).1 else none
  | .publish _ | .subscribe _ | .leave _ | .close => none

/-- What a listener is answered in some acts. -/
def answers (a : Audience) (i : Nat) : List Act → List (Except ReceiveFault Event)
  | [] => []
  | x :: acts => (a.answer? i x).toList ++ (a.act x).answers i acts

/-- The event that an act tells. -/
def Act.told? : Act → Option Event
  | .publish e => some e
  | .subscribe _ | .listen _ _ | .leave _ | .close => none

/-- The events that some acts tell. -/
def told (acts : List Act) : List Event := acts.filterMap Act.told?

end Audience

/-- Answers account for the events ahead one after the other, and leave the rest. -/
inductive Bus.Accounts (wants : Event → Bool) :
    List Event → List (Except ReceiveFault Event) → List Event → Prop where
  | nil {ahead : List Event} : Accounts wants ahead [] ahead
  | cons {ahead between rest : List Event} {answer : Except ReceiveFault Event}
      {answers : List (Except ReceiveFault Event)} (takes : Bus.Takes wants ahead answer between)
      (accounts : Accounts wants between answers rest) :
      Accounts wants ahead (answer :: answers) rest

/-- The events among some answers. -/
def Bus.heard (answers : List (Except ReceiveFault Event)) : List Event :=
  answers.flatMap fun answer => answer.toOption.toList

namespace Bus

variable {wants : Event → Bool} {ahead between rest : List Event}
  {answers : List (Except ReceiveFault Event)}

/-! ## Answers one after the other -/

namespace Accounts

theorem append (h : Accounts wants ahead answers rest) (later : List Event) :
    Accounts wants (ahead ++ later) answers (rest ++ later) := by
  induction h with
  | nil => exact nil
  | cons takes _ ih => exact cons (takes.append later) ih

theorem trans {more : List (Except ReceiveFault Event)}
    (h : Accounts wants ahead answers between) (h' : Accounts wants between more rest) :
    Accounts wants ahead (answers ++ more) rest := by
  induction h with
  | nil => exact h'
  | cons takes _ ih => exact cons takes (ih h')

end Accounts

/-- Without a gap an answer is the next wanted event, or there is none among those passed over. -/
theorem Takes.wanted_eq {answer : Except ReceiveFault Event} (h : Takes wants ahead answer rest)
    (gapless : ∀ lost, answer ≠ .error (.lagged lost)) :
    ahead.filter wants = answer.toOption.toList ++ rest.filter wants := by
  have hskipped : ∀ {skipped : List Event}, (∀ x ∈ skipped, wants x = false) →
      skipped.filter wants = [] := by
    intro skipped h
    rw [List.filter_eq_nil_iff]
    exact fun x hx => by simp [h x hx]
  cases h with
  | event skipped unwanted wanted =>
      rw [List.filter_append, hskipped unwanted, List.filter_cons_of_pos wanted]
      rfl
  | gap => exact absurd rfl (gapless _)
  | nothing skipped unwanted =>
      rw [List.filter_append, hskipped unwanted]
      rfl

/-- Without a gap the wanted events are those among the answers, in order, and those left. -/
theorem Accounts.wanted_eq (h : Accounts wants ahead answers rest)
    (gapless : ∀ lost, .error (.lagged lost) ∉ answers) :
    ahead.filter wants = heard answers ++ rest.filter wants := by
  induction h with
  | nil => rfl
  | cons takes _ ih =>
      have hhead := takes.wanted_eq fun lost heq => gapless lost (by simp [heq])
      have htail := ih fun lost hmem => gapless lost (List.mem_cons_of_mem _ hmem)
      rw [hhead, htail, heard, heard, List.flatMap_cons, List.append_assoc]

/-- Any change but to what is kept leaves the log as it was. -/
theorem Keeps.of_eq {b c : Bus} {log : List Event} (h : b.Keeps log) (room_eq : c.room = b.room)
    (first_eq : c.first = b.first) (kept_eq : c.kept = b.kept) : c.Keeps log where
  room_pos := room_eq ▸ h.room_pos
  first_eq := by rw [first_eq, room_eq, h.first_eq]
  kept_eq := by rw [kept_eq, first_eq, h.kept_eq]

end Bus

/-! ## One listener -/

namespace Listener

variable {b : Bus} {l : Listener} {log ahead : List Event}

theorem about_listen (b : Bus) (looks : Nat) (l : Listener) :
    (l.listen b looks).2.about = l.about := by
  unfold listen
  cases l.about <;> rfl

/-- What a listener is answered accounts for what it passes. -/
theorem listen_takes (hb : b.Keeps log) (hl : l.receiver.Faces log ahead) (looks : Nat) :
    ∃ rest, Bus.Takes (Event.isFor l.about) ahead (l.listen b looks).1 rest ∧
      (l.listen b looks).2.receiver.Faces log rest := by
  unfold listen
  cases l.about with
  | none => exact Bus.receive_takes hb hl
  | some id => exact Bus.receiveAbout_takes hb id looks hl

/-- A listener that nothing holds up is answered what is due. -/
theorem hear_eq_outlook (hb : b.Keeps log) (hl : l.receiver.Faces log ahead) :
    l.hear b = b.outlook (Event.isFor l.about) ahead := by
  unfold hear
  cases l.about with
  | none => exact Bus.receive_eq_outlook hb hl
  | some id => exact Bus.receiveTransfer_eq_outlook hb id hl

/-- So is one that may look at as many events as are ahead and kept, and once more. -/
theorem listen_eq_outlook (hb : b.Keeps log) (hl : l.receiver.Faces log ahead) {looks : Nat}
    (hlooks : min ahead.length b.room < looks) :
    (l.listen b looks).1 = b.outlook (Event.isFor l.about) ahead := by
  unfold listen
  cases l.about with
  | none => exact Bus.receive_eq_outlook hb hl
  | some id => exact Bus.receiveAbout_eq_outlook hb id hl hlooks

end Listener

namespace Audience

variable {a : Audience} {capacity i : Nat} {about : Option String} {log ahead : List Event}

/-! ## Everybody -/

theorem listener?_eq_some_iff {l : Listener} :
    a.listener? i = some l ↔ a.listeners[i]? = some (some l) := by
  unfold listener?
  exact Option.join_eq_some_iff

section Place
variable {j : Nat} {l : Listener} (hj : a.listener? j = some l)
include hj

theorem getElem_of_listener? : ∃ h : j < a.listeners.length, a.listeners[j] = some l :=
  List.getElem?_eq_some_iff.1 (listener?_eq_some_iff.1 hj)

/-- Who is put in the place of a listener is there, and the others stay. -/
theorem listener?_set (b : Bus) (x : Option Listener) :
    (⟨b, a.listeners.set j x⟩ : Audience).listener? i = if j = i then x else a.listener? i := by
  obtain ⟨hlt, -⟩ := getElem_of_listener? hj
  unfold listener?
  dsimp only
  rw [List.getElem?_set]
  split <;> rfl

/-- Where a listener was somebody is, or nobody. -/
theorem countP_set (x : Option Listener) :
    (a.listeners.set j x).countP Option.isSome + 1 =
      a.listeners.countP Option.isSome + x.toList.length := by
  obtain ⟨hlt, hget⟩ := getElem_of_listener? hj
  have hmem : some l ∈ a.listeners := hget ▸ List.getElem_mem hlt
  have hcount := List.countP_pos_iff.2 ⟨some l, hmem, (rfl : (some l).isSome = true)⟩
  rw [List.countP_set hlt, hget]
  cases x with
  | none =>
      simp
      omega
  | some l' =>
      simp
      omega

theorem act_listen (looks : Nat) : a.act (.listen j looks) =
    { a with listeners := a.listeners.set j (some (l.listen a.bus looks).2) } := by
  simp only [act, hj]

theorem act_leave : a.act (.leave j) = ⟨a.bus.unsubscribe, a.listeners.set j none⟩ := by
  simp only [act, hj]

theorem answer?_listen (looks : Nat) :
    a.answer? j (.listen j looks) = some (l.listen a.bus looks).1 := by
  rw [answer?, if_pos rfl, hj, Option.map_some]

end Place

section Gone
variable {j : Nat} (hj : a.listener? j = none)
include hj

/-- Who has left does nothing. -/
theorem act_listen_of_none (looks : Nat) : a.act (.listen j looks) = a := by
  simp only [act, hj]

theorem act_leave_of_none : a.act (.leave j) = a := by
  simp only [act, hj]

end Gone

/-- The bus has the room that a capacity asks for, keeps the end of a log in it and counts those who
listen. -/
structure IsSound (a : Audience) (capacity : Nat) (log : List Event) : Prop where
  room_eq : a.bus.room = Bus.powerOfTwo capacity
  keeps : a.bus.Keeps log
  counted : a.bus.subscribers = a.listeners.countP Option.isSome

/-- The log after an act: an event that somebody hears comes to its end. -/
def logged (a : Audience) (log : List Event) : Act → List Event
  | .publish e => if a.bus.isHeard then log ++ [e] else log
  | .subscribe _ | .listen _ _ | .leave _ | .close => log

theorem isSound_opened (capacity : Nat) : (opened capacity).IsSound capacity [] :=
  ⟨rfl, Bus.keeps_create capacity, rfl⟩

/-- Where somebody listens, events are heard. -/
theorem IsSound.isHeard (h : a.IsSound capacity log) {l : Listener}
    (hl : a.listener? i = some l) : a.bus.isHeard = true := by
  have hcount := countP_set hl none
  have hsubscribers := h.counted
  unfold Bus.isHeard
  rw [Option.toList_none, List.length_nil] at hcount
  exact bne_iff_ne.2 (by omega)

theorem isSound_publish (h : a.IsSound capacity log) (e : Event) :
    (a.act (.publish e)).IsSound capacity (a.logged log (.publish e)) := by
  have hroom : (a.bus.publish e).room = a.bus.room := by
    unfold Bus.publish
    split_ifs <;> rfl
  have hsubscribers : (a.bus.publish e).subscribers = a.bus.subscribers := by
    unfold Bus.publish
    split_ifs <;> rfl
  refine ⟨hroom.trans h.room_eq, ?_, hsubscribers.trans h.counted⟩
  show (a.bus.publish e).Keeps (if a.bus.isHeard then log ++ [e] else log)
  by_cases heard : a.bus.isHeard = true
  · rw [if_pos heard]
    exact h.keeps.publish heard e
  · rw [if_neg heard, Bus.publish, if_neg heard]
    exact h.keeps

/-- A sound bus stays sound whatever happens. -/
theorem isSound_act (h : a.IsSound capacity log) (x : Act) :
    (a.act x).IsSound capacity (a.logged log x) := by
  cases x with
  | publish e => exact isSound_publish h e
  | subscribe about =>
      refine ⟨h.room_eq, h.keeps.of_eq rfl rfl rfl, ?_⟩
      show a.bus.subscribers + 1 = List.countP _ (a.listeners ++ [_])
      rw [List.countP_append, h.counted]
      rfl
  | listen j looks =>
      cases hj : a.listener? j with
      | none => rwa [act_listen_of_none hj]
      | some l =>
          rw [act_listen hj]
          have hcount := countP_set hj (some (l.listen a.bus looks).2)
          exact ⟨h.room_eq, h.keeps, h.counted.trans (Nat.add_right_cancel hcount).symm⟩
  | leave j =>
      cases hj : a.listener? j with
      | none => rwa [act_leave_of_none hj]
      | some l =>
          rw [act_leave hj]
          have hcount := countP_set hj none
          have hsubscribers := h.counted
          refine ⟨h.room_eq, h.keeps.of_eq rfl rfl rfl, ?_⟩
          show a.bus.subscribers - 1 = (a.listeners.set j none).countP Option.isSome
          rw [Option.toList_none, List.length_nil] at hcount
          omega
  | close => exact ⟨h.room_eq, h.keeps.of_eq rfl rfl rfl, h.counted⟩

/-- A sound bus is sound after any acts. -/
theorem exists_isSound_run (h : a.IsSound capacity log) (acts : List Act) :
    ∃ log', (a.run acts).IsSound capacity log' := by
  induction acts generalizing a log with
  | nil => exact ⟨log, h⟩
  | cons x acts ih => exact ih (isSound_act h x)

/-- A listener that came has some events ahead, unless it has left. -/
structure Hears (a : Audience) (log : List Event) (i : Nat) (about : Option String)
    (ahead : List Event) : Prop where
  came : i < a.listeners.length
  faces : ∀ l, a.listener? i = some l → l.about = about ∧ l.receiver.Faces log ahead

/-- Who comes to listen has nothing ahead. -/
theorem hears_subscribe (h : a.IsSound capacity log) (about : Option String) :
    (a.act (.subscribe about)).Hears log a.listeners.length about [] where
  came := by
    show _ < (a.listeners ++ [_]).length
    rw [List.length_append, List.length_singleton]
    exact Nat.lt_succ_self _
  faces l hl := by
    rw [listener?_eq_some_iff, act, List.getElem?_concat_length] at hl
    obtain rfl := Option.some.inj (Option.some.inj hl)
    exact ⟨rfl, Bus.faces_subscribe h.keeps⟩

/-- A listener keeps its place and what is ahead of it if somebody else does something. -/
theorem Hears.set (h : a.Hears log i about ahead) {j : Nat} {l : Listener}
    (hj : a.listener? j = some l) (hne : j ≠ i) (b : Bus) (x : Option Listener) :
    Hears ⟨b, a.listeners.set j x⟩ log i about ahead where
  came := by
    rw [List.length_set]
    exact h.came
  faces l' hl' := by
    rw [listener?_set hj, if_neg hne] at hl'
    exact h.faces l' hl'

/-- A listener is answered, and what the answer accounts for is ahead of it no more. -/
theorem hears_listen (hs : a.IsSound capacity log) (h : a.Hears log i about ahead)
    {l : Listener} (hl : a.listener? i = some l) (looks : Nat) :
    ∃ rest, Bus.Takes (Event.isFor about) ahead (l.listen a.bus looks).1 rest ∧
      (a.act (.listen i looks)).Hears log i about rest := by
  obtain ⟨rfl, hfaces⟩ := h.faces l hl
  obtain ⟨rest, htakes, hrest⟩ := Listener.listen_takes hs.keeps hfaces looks
  refine ⟨rest, htakes, ?_⟩
  rw [act_listen hl]
  refine ⟨?_, fun l' hl' => ?_⟩
  · rw [List.length_set]
    exact h.came
  · rw [listener?_set hl, if_pos rfl] at hl'
    obtain rfl := Option.some.inj hl'
    exact ⟨Listener.about_listen _ _ _, hrest⟩

/-- Who leaves has its place still. -/
theorem hears_leave (h : a.Hears log i about ahead) {l : Listener}
    (hl : a.listener? i = some l) : (a.act (.leave i)).Hears log i about ahead := by
  rw [act_leave hl]
  refine ⟨?_, fun l' hl' => ?_⟩
  · rw [List.length_set]
    exact h.came
  · rw [listener?_set hl, if_pos rfl] at hl'
    exact nomatch hl'

/-- **One act.**  An event comes to the end of what is ahead of a listener, and the answer to it, if
it gets one, accounts for what it passes. -/
theorem hears_act (hs : a.IsSound capacity log) (h : a.Hears log i about ahead) (x : Act) :
    ∃ rest, Bus.Accounts (Event.isFor about) (ahead ++ x.told?.toList) (a.answer? i x).toList rest ∧
      (a.act x).Hears (a.logged log x) i about rest := by
  cases x with
  | publish e =>
      refine ⟨ahead ++ [e], .nil, h.came, fun l hl => ?_⟩
      obtain ⟨habout, hfaces⟩ := h.faces l hl
      rw [logged, if_pos (hs.isHeard hl)]
      exact ⟨habout, hfaces.publish e⟩
  | subscribe about' =>
      refine ⟨ahead, ?_, ?_, fun l hl => h.faces l ?_⟩
      · rw [Act.told?, Option.toList_none, List.append_nil]
        exact .nil
      · show i < (a.listeners ++ [_]).length
        rw [List.length_append]
        exact Nat.lt_add_right _ h.came
      · rw [listener?_eq_some_iff] at hl ⊢
        rwa [act, List.getElem?_append_left h.came] at hl
  | listen j looks =>
      rw [Act.told?, Option.toList_none, List.append_nil]
      by_cases hji : j = i
      · subst hji
        cases hj : a.listener? j with
        | none =>
            rw [answer?, if_pos rfl, hj, act_listen_of_none hj]
            exact ⟨ahead, .nil, h⟩
        | some l =>
            obtain ⟨rest, htakes, hrest⟩ := hears_listen hs h hj looks
            rw [answer?_listen hj]
            exact ⟨rest, .cons htakes .nil, hrest⟩
      · rw [answer?, if_neg hji]
        refine ⟨ahead, .nil, ?_⟩
        cases hj : a.listener? j with
        | none => rwa [act_listen_of_none hj]
        | some l =>
            rw [act_listen hj]
            exact h.set hj hji _ _
  | leave j =>
      rw [Act.told?, Option.toList_none, List.append_nil]
      refine ⟨ahead, .nil, ?_⟩
      cases hj : a.listener? j with
      | none => rwa [act_leave_of_none hj]
      | some l =>
          by_cases hji : j = i
          · subst hji
            exact hears_leave h hj
          · rw [act_leave hj]
            exact h.set hj hji _ _
  | close =>
      refine ⟨ahead, ?_, h.came, h.faces⟩
      rw [Act.told?, Option.toList_none, List.append_nil]
      exact .nil

/-- **A run.**  The answers to a listener account for what was ahead of it and what was told since;
the rest is ahead of it now, and the bus is sound. -/
theorem hears_run (hs : a.IsSound capacity log) (h : a.Hears log i about ahead)
    (acts : List Act) :
    ∃ rest log', Bus.Accounts (Event.isFor about) (ahead ++ told acts) (a.answers i acts) rest ∧
      (a.run acts).IsSound capacity log' ∧ (a.run acts).Hears log' i about rest := by
  induction acts generalizing a log ahead with
  | nil =>
      refine ⟨ahead, log, ?_, hs, h⟩
      rw [told, List.filterMap_nil, List.append_nil]
      exact .nil
  | cons x acts ih =>
      obtain ⟨between, hfirst, hbetween⟩ := hears_act hs h x
      obtain ⟨rest, log', hthen, hs', hrest⟩ := ih (isSound_act hs x) hbetween
      refine ⟨rest, log', ?_, hs', hrest⟩
      have htold : told (x :: acts) = x.told?.toList ++ told acts := by
        unfold told
        rw [List.filterMap_cons]
        cases x.told? <;> rfl
      rw [htold, ← List.append_assoc]
      exact (hfirst.append (told acts)).trans hthen

/-- **Everybody hears everything.**  Whatever happened on a bus of a capacity, somebody comes to
listen, to everything or to the events of one transfer, and whatever happens then.  The answers to
it account for the events told since it came, one after the other, each for the events that are not
for it and then for the one that it gives or for as many as are missing.  If none is missing, the
events for it are those of the answers, in order, and those among the rest.  As long as it has not
left, it hears of a gap if the rest is more than the least power of two that is not less than the
capacity, and only then; and else of the first event for it among the rest.  So it does when it
listens next and may look at one event more than are ahead of it and kept. -/
theorem receivers_account (capacity : Nat) (before after : List Act) (about : Option String) :
    let there := (opened capacity).run before
    let joined := there.act (.subscribe about)
    let i := there.listeners.length
    let now := joined.run after
    ∃ rest, Bus.Accounts (Event.isFor about) (told after) (joined.answers i after) rest ∧
      ((∀ lost, .error (.lagged lost) ∉ joined.answers i after) →
        (told after).filter (Event.isFor about) =
          Bus.heard (joined.answers i after) ++ rest.filter (Event.isFor about)) ∧
      now.bus.room = Bus.powerOfTwo capacity ∧
      ∀ l, now.listener? i = some l →
        l.hear now.bus = now.bus.outlook (Event.isFor about) rest ∧
        (rest.length ≤ Bus.powerOfTwo capacity →
          ∀ lost, l.hear now.bus ≠ .error (.lagged lost)) ∧
        ∀ looks, min rest.length (Bus.powerOfTwo capacity) < looks →
          now.answer? i (.listen i looks) = some (l.hear now.bus) := by
  intro there joined i now
  obtain ⟨log, hthere⟩ := exists_isSound_run (isSound_opened capacity) before
  have hjoined : joined.IsSound capacity log := isSound_act hthere (.subscribe about)
  obtain ⟨rest, log', haccounts, hs, hears⟩ :=
    hears_run hjoined (hears_subscribe hthere about) after
  rw [List.nil_append] at haccounts
  refine ⟨rest, haccounts, haccounts.wanted_eq, hs.room_eq, fun l hl => ?_⟩
  obtain ⟨rfl, hfaces⟩ := hears.faces l hl
  have hhear := Listener.hear_eq_outlook hs.keeps hfaces
  refine ⟨hhear, fun hfits lost => ?_, fun looks hlooks => ?_⟩
  · rw [hhear]
    exact Bus.outlook_ne_lagged (hs.room_eq ▸ hfits) lost
  · rw [answer?_listen hl, hhear,
      Listener.listen_eq_outlook hs.keeps hfaces (hs.room_eq ▸ hlooks)]

/-- Somebody who wants to know of one transfer passes over an event of another, and is waiting when
three more are told on a bus that has room for two.  It is told of a gap, and then of the last event,
which is for it, behind one that is not. -/
theorem receivers_account_of_gap :
    let done : String → Event := fun id => .transfer (.completed id default)
    let after : List Act := [.publish (done "b"), .listen 0 9, .publish (done "a"),
      .publish (done "b"), .publish (done "a"), .listen 0 9]
    let joined := (opened 2).act (.subscribe (some "a"))
    let now := joined.run after
    (∃ rest, Bus.Accounts (Event.isFor (some "a")) (told after)
      [.error .empty, .error (.lagged 1)] rest) ∧
    ∃ l, now.listener? 0 = some l ∧ l.hear now.bus = .ok (done "a") ∧
      now.answer? 0 (.listen 0 3) = some (.ok (done "a")) := by
  intro done after joined now
  obtain ⟨rest, haccounts, -, -, hnext⟩ := receivers_account 2 [] after (some "a")
  let l : Listener := ⟨⟨2⟩, some "a"⟩
  have hanswers : joined.answers 0 after = [.error .empty, .error (.lagged 1)] := by decide +kernel
  have hl : now.listener? 0 = some l := by decide +kernel
  have hhear : l.hear now.bus = .ok (done "a") := by decide +kernel
  refine ⟨⟨rest, hanswers ▸ haccounts⟩, l, hl, hhear, ?_⟩
  obtain ⟨-, -, hanswer⟩ := hnext l hl
  rw [← hhear]
  exact hanswer 3 (Nat.lt_succ_of_le (Nat.min_le_right _ _))

end Audience
end Connector
