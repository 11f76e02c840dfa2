import Connector.Event.Bus
import Mathlib.Algebra.Group.Nat.Defs
import Mathlib.Order.Bounds.Basic

/-!
# The bus as a log

Of all the events that were ever told on a bus it keeps the last ones, as many as it has room for.
A receiver stands somewhere in the log of them all, with the events behind it done and those ahead
of it to come; and what it gets depends on what is ahead alone.  If that is more than the bus has
room for, it is told how many are gone and goes on with those that are kept; else it gets the first
event ahead that it wants.  Statements:

* `powerOfTwo_isLeast` — the room of a bus is its capacity rounded up to a power of two;
* `Keeps.publish`, `Faces.publish` — what an event does to the log and to what is ahead;
* `receive_cases` — what a receiver gets, and what is ahead of it then;
* `receive_takes`, `receiveAbout_takes` — an answer accounts for what the receiver passes;
* `receive_eq_outlook`, `receiveTransfer_eq_outlook` — which answer comes next.
-/

namespace Connector

namespace Event

/-- An event tells of a transfer exactly if it is one of a transfer, and of that one. -/
theorem concerns_eq_some_iff {e : Event} {id : String} {t : TransferEvent} :
    e.concerns id = some t ↔ e = .transfer t ∧ t.transferId = id := by
  cases e with
  | transfer s =>
      simp only [concerns, Option.ite_none_right_eq_some, Option.some.injEq, transfer.injEq]
      constructor
      · rintro ⟨hid, rfl⟩
        exact ⟨rfl, hid⟩
      · rintro ⟨rfl, hid⟩
        exact ⟨hid, rfl⟩
  | dataPlane s => exact ⟨nofun, nofun⟩

/-- Whether an event is for who wants to know of one transfer, or of everything. -/
def isFor (about : Option String) (e : Event) : Bool :=
  match about with
  | none => true
  | some id => (e.concerns id).isSome

theorem isFor_of_concerns {e : Event} {id : String} {t : TransferEvent}
    (h : e.concerns id = some t) : e.isFor (some id) = true :=
  Option.isSome_iff_exists.2 ⟨t, h⟩

theorem not_isFor_of_concerns {e : Event} {id : String} (h : e.concerns id = none) :
    e.isFor (some id) = false :=
  Option.isSome_eq_false_iff.2 (Option.isNone_iff_eq_none.2 h)

end Event

namespace Bus

variable {b : Bus} {r : Receiver} {log ahead : List Event}

/-! ## The room of a bus -/

theorem le_powerOfTwo (n : Nat) : n ≤ powerOfTwo n := by
  unfold powerOfTwo
  split
  · assumption
  · have : n - 1 < 2 ^ (Nat.log2 (n - 1) + 1) := Nat.lt_log2_self
    show n ≤ 2 ^ (Nat.log2 (n - 1) + 1)
    omega

theorem powerOfTwo_pos (n : Nat) : 0 < powerOfTwo n := by
  unfold powerOfTwo
  split
  · exact Nat.one_pos
  · exact Nat.two_pow_pos _

/-- The room of a bus is the least power of two that is not less than its capacity. -/
theorem powerOfTwo_isLeast (n : Nat) :
    IsLeast {m | (∃ k, m = 2 ^ k) ∧ n ≤ m} (powerOfTwo n) := by
  refine ⟨⟨?_, le_powerOfTwo n⟩, ?_⟩
  · unfold powerOfTwo
    split
    · exact ⟨0, rfl⟩
    · exact ⟨_, rfl⟩
  · rintro m ⟨⟨k, rfl⟩, hn⟩
    unfold powerOfTwo
    split
    · exact Nat.two_pow_pos k
    · have hlog : Nat.log2 (n - 1) < k := (Nat.log2_lt (by omega)).2 (by omega)
      exact Nat.pow_le_pow_right (by decide) hlog

/-! ## What is kept -/

/-- A bus keeps the end of a log, as much of it as there is room for. -/
structure Keeps (b : Bus) (log : List Event) : Prop where
  room_pos : 0 < b.room
  first_eq : b.first = log.length - b.room
  kept_eq : b.kept = log.drop b.first

theorem keeps_create (capacity : Nat) : (create capacity).Keeps [] where
  room_pos := powerOfTwo_pos capacity
  first_eq := (Nat.zero_sub _).symm
  kept_eq := rfl

namespace Keeps

theorem length_kept (h : b.Keeps log) : b.kept.length = min log.length b.room := by
  have := h.first_eq
  rw [h.kept_eq, List.length_drop]
  omega

theorem next_eq (h : b.Keeps log) : b.next = log.length := by
  have hfirst := h.first_eq
  have hlength := h.length_kept
  unfold next
  omega

/-- An event that somebody hears comes to the end of the log. -/
theorem publish (h : b.Keeps log) (heard : b.isHeard = true) (e : Event) :
    (b.publish e).Keeps (log ++ [e]) := by
  have hfirst := h.first_eq
  have hlength := h.length_kept
  have hpos := h.room_pos
  unfold Bus.publish
  rw [if_pos heard]
  split
  · refine ⟨hpos, ?_, ?_⟩
    · show b.first = (log ++ [e]).length - b.room
      rw [List.length_append, List.length_singleton]
      omega
    · show b.kept ++ [e] = (log ++ [e]).drop b.first
      rw [List.drop_append_of_le_length (by omega), h.kept_eq]
  · refine ⟨hpos, ?_, ?_⟩
    · show b.first + 1 = (log ++ [e]).length - b.room
      rw [List.length_append, List.length_singleton]
      omega
    · show b.kept.drop 1 ++ [e] = (log ++ [e]).drop (b.first + 1)
      rw [List.drop_append_of_le_length (by omega), h.kept_eq, List.drop_drop]

end Keeps
end Bus

/-! ## What is ahead -/

/-- A receiver stands in a log where some events are ahead of it. -/
structure Receiver.Faces (r : Receiver) (log ahead : List Event) : Prop where
  position_le : r.position ≤ log.length
  ahead_eq : log.drop r.position = ahead

namespace Receiver.Faces

variable {b : Bus} {r : Receiver} {log ahead : List Event}

theorem length_ahead (h : r.Faces log ahead) : r.position + ahead.length = log.length := by
  have := h.position_le
  rw [← h.ahead_eq, List.length_drop]
  omega

/-- An event at the end of the log is ahead of everybody. -/
theorem publish (h : r.Faces log ahead) (e : Event) : r.Faces (log ++ [e]) (ahead ++ [e]) where
  position_le := by
    have := h.position_le
    rw [List.length_append]
    omega
  ahead_eq := by rw [List.drop_append_of_le_length h.position_le, h.ahead_eq]

/-- Who goes on by some events has the others ahead. -/
theorem advance (passed : List Event) {rest : List Event} (h : r.Faces log (passed ++ rest)) :
    Receiver.Faces ⟨r.position + passed.length⟩ log rest where
  position_le := by
    have := h.length_ahead
    rw [List.length_append] at this
    show r.position + passed.length ≤ log.length
    omega
  ahead_eq := by
    show log.drop (r.position + passed.length) = rest
    rw [← List.drop_drop, h.ahead_eq, List.drop_left]

end Receiver.Faces

namespace Bus

variable {b : Bus} {r : Receiver} {log ahead : List Event}

/-- Who begins to listen has nothing ahead. -/
theorem faces_subscribe (h : b.Keeps log) : b.subscribe.1.Faces log [] where
  position_le := Nat.le_of_eq h.next_eq
  ahead_eq := by
    show log.drop b.next = []
    rw [h.next_eq, List.drop_length]

/-- What a receiver is told that has nothing to come. -/
def silence (b : Bus) : ReceiveFault := if b.isOpen then .empty else .closed

/-- **What a receiver gets.**  If there is more ahead than the bus has room for, it is told how many
events are gone, and stands behind them; else it gets the first event ahead, if there is one. -/
theorem receive_cases (hb : b.Keeps log) (hr : r.Faces log ahead) :
    (∃ lost rest r', ahead = lost ++ rest ∧ lost ≠ [] ∧ rest.length = b.room ∧
      b.receive r = (.error (.lagged lost.length), r') ∧ r'.Faces log rest) ∨
    (∃ e rest r', ahead = e :: rest ∧ ahead.length ≤ b.room ∧
      b.receive r = (.ok e, r') ∧ r'.Faces log rest) ∨
    (ahead = [] ∧ b.receive r = (.error b.silence, r)) := by
  have hfirst := hb.first_eq
  have hlength := hr.length_ahead
  rcases Nat.lt_or_ge r.position b.first with hbehind | hwithin
  · left
    let lost := ahead.take (b.first - r.position)
    let rest := ahead.drop (b.first - r.position)
    have hsplit : ahead = lost ++ rest := (List.take_append_drop _ _).symm
    have hlost : lost.length = b.first - r.position := by
      rw [List.length_take]
      omega
    refine ⟨lost, rest, ⟨b.first⟩, hsplit, ?_, ?_, ?_, ?_⟩
    · exact List.ne_nil_of_length_pos (by omega)
    · rw [List.length_drop]
      omega
    · rw [receive_lagged hbehind, hlost]
    · have hadvanced := Receiver.Faces.advance lost (hsplit ▸ hr)
      rwa [hlost, Nat.add_sub_cancel' (Nat.le_of_lt hbehind)] at hadvanced
  · right
    -- What is kept from where the receiver stands is what is ahead.
    have hkept : b.kept[r.position - b.first]? = ahead.head? := by
      rw [hb.kept_eq, List.getElem?_drop, Nat.add_sub_cancel' hwithin, ← hr.ahead_eq,
        List.head?_drop]
    cases ahead with
    | nil =>
        right
        refine ⟨rfl, ?_⟩
        unfold receive
        rw [if_neg (Nat.not_lt.2 hwithin), hkept]
        rfl
    | cons e rest =>
        left
        refine ⟨e, rest, ⟨r.position + 1⟩, rfl, by omega, receive_kept hwithin hkept, ?_⟩
        exact Receiver.Faces.advance [e] hr

/-! ## What an answer accounts for -/

/-- An answer accounts for some of the events ahead, and leaves the rest.  Events that are not
wanted are passed over first.  Then there is a wanted one, or a gap of as many events as the answer
says, or nothing else for the moment. -/
inductive Takes (wants : Event → Bool) :
    List Event → Except ReceiveFault Event → List Event → Prop where
  | event (skipped : List Event) {rest : List Event} {e : Event}
      (unwanted : ∀ x ∈ skipped, wants x = false) (wanted : wants e = true) :
      Takes wants (skipped ++ e :: rest) (.ok e) rest
  | gap (skipped : List Event) {lost rest : List Event}
      (unwanted : ∀ x ∈ skipped, wants x = false) (some_lost : lost ≠ []) :
      Takes wants (skipped ++ (lost ++ rest)) (.error (.lagged lost.length)) rest
  | nothing (skipped : List Event) {rest : List Event} {fault : ReceiveFault}
      (unwanted : ∀ x ∈ skipped, wants x = false) (silent : fault = .empty ∨ fault = .closed) :
      Takes wants (skipped ++ rest) (.error fault) rest

namespace Takes

variable {wants : Event → Bool} {rest : List Event} {answer : Except ReceiveFault Event}

/-- One more event that is not wanted is passed over. -/
theorem skip {x : Event} (hx : wants x = false) (h : Takes wants ahead answer rest) :
    Takes wants (x :: ahead) answer rest := by
  cases h with
  | event skipped unwanted wanted =>
      exact event (x :: skipped) (List.forall_mem_cons.2 ⟨hx, unwanted⟩) wanted
  | gap skipped unwanted some_lost =>
      exact gap (x :: skipped) (List.forall_mem_cons.2 ⟨hx, unwanted⟩) some_lost
  | nothing skipped unwanted silent =>
      exact nothing (x :: skipped) (List.forall_mem_cons.2 ⟨hx, unwanted⟩) silent

/-- What comes later is left too. -/
theorem append (h : Takes wants ahead answer rest) (later : List Event) :
    Takes wants (ahead ++ later) answer (rest ++ later) := by
  cases h with
  | event skipped unwanted wanted =>
      rw [List.append_assoc]
      exact event skipped unwanted wanted
  | gap skipped unwanted some_lost =>
      rw [List.append_assoc, List.append_assoc]
      exact gap skipped unwanted some_lost
  | nothing skipped unwanted silent =>
      rw [List.append_assoc]
      exact nothing skipped unwanted silent

end Takes

/-- Where nothing is ahead the bus is silent. -/
theorem takes_silence (wants : Event → Bool) : Takes wants [] (.error b.silence) [] := by
  refine .nothing [] nofun ?_
  unfold silence
  cases b.isOpen with
  | false => exact Or.inr rfl
  | true => exact Or.inl rfl

/-- What a receiver gets accounts for what it passes. -/
theorem receive_takes (hb : b.Keeps log) (hr : r.Faces log ahead) :
    ∃ rest, Takes (Event.isFor none) ahead (b.receive r).1 rest ∧
      (b.receive r).2.Faces log rest := by
  rcases receive_cases hb hr with ⟨lost, rest, r', rfl, hlost, -, heq, hr'⟩ |
    ⟨e, rest, r', rfl, -, heq, hr'⟩ | ⟨rfl, heq⟩
  · rw [heq]
    exact ⟨rest, .gap [] nofun hlost, hr'⟩
  · rw [heq]
    exact ⟨rest, .event [] nofun rfl, hr'⟩
  · rw [heq]
    exact ⟨[], takes_silence _, hr⟩

/-- However many events a receiver looks at, what it gets accounts for those it passes. -/
theorem receiveAbout_takes (hb : b.Keeps log) (id : String) (looks : Nat)
    (hr : r.Faces log ahead) :
    ∃ rest, Takes (Event.isFor (some id)) ahead
        ((b.receiveAbout id looks r).1.map .transfer) rest ∧
      (b.receiveAbout id looks r).2.Faces log rest := by
  induction looks generalizing r ahead with
  | zero => exact ⟨ahead, .nothing [] nofun (Or.inl rfl), hr⟩
  | succ looks ih =>
      unfold receiveAbout
      rcases receive_cases hb hr with ⟨lost, rest, r', rfl, hlost, -, heq, hr'⟩ |
        ⟨e, rest, r', rfl, -, heq, hr'⟩ | ⟨rfl, heq⟩
      · rw [heq]
        exact ⟨rest, .gap [] nofun hlost, hr'⟩
      · rw [heq]
        cases hconcerns : e.concerns id with
        | some t =>
            obtain ⟨rfl, -⟩ := Event.concerns_eq_some_iff.1 hconcerns
            simp only [hconcerns]
            exact ⟨rest, .event [] nofun (Event.isFor_of_concerns hconcerns), hr'⟩
        | none =>
            obtain ⟨left, htakes, hfaces⟩ := ih hr'
            simp only [hconcerns]
            exact ⟨left, htakes.skip (Event.not_isFor_of_concerns hconcerns), hfaces⟩
      · rw [heq]
        exact ⟨[], takes_silence _, hr⟩

/-! ## What comes next -/

/-- What a receiver is told that looks as far ahead as it has to: of a gap if there is more ahead
than the bus has room for, or else the first event that is wanted. -/
def outlook (b : Bus) (wants : Event → Bool) (ahead : List Event) : Except ReceiveFault Event :=
  if b.room < ahead.length then .error (.lagged (ahead.length - b.room))
  else
    match ahead.find? wants with
    | some e => .ok e
    | none => .error b.silence

/-- A receiver of all events looks as far as it has to. -/
theorem receive_eq_outlook (hb : b.Keeps log) (hr : r.Faces log ahead) :
    (b.receive r).1 = b.outlook (Event.isFor none) ahead := by
  unfold outlook
  rcases receive_cases hb hr with ⟨lost, rest, r', rfl, hlost, hroom, heq, -⟩ |
    ⟨e, rest, r', rfl, hfits, heq, -⟩ | ⟨rfl, heq⟩
  · have hpos := List.length_pos_iff.2 hlost
    rw [heq, List.length_append, if_pos (by omega), hroom, Nat.add_sub_cancel]
  · rw [heq, if_neg (Nat.not_lt.2 hfits)]
    rfl
  · rw [heq]
    rfl

/-- So does a receiver of one transfer's events if it may look at as many as are ahead and kept, and
once more. -/
theorem receiveAbout_eq_outlook (hb : b.Keeps log) (id : String) {looks : Nat}
    (hr : r.Faces log ahead) (hlooks : min ahead.length b.room < looks) :
    (b.receiveAbout id looks r).1.map .transfer = b.outlook (Event.isFor (some id)) ahead := by
  induction looks generalizing r ahead with
  | zero => exact absurd hlooks (Nat.not_lt_zero _)
  | succ looks ih =>
      unfold receiveAbout
      rcases receive_cases hb hr with ⟨lost, rest, r', rfl, hlost, hroom, heq, -⟩ |
        ⟨e, rest, r', rfl, hfits, heq, hr'⟩ | ⟨rfl, heq⟩
      · have hpos := List.length_pos_iff.2 hlost
        unfold outlook
        rw [heq, List.length_append, if_pos (by omega), hroom, Nat.add_sub_cancel]
        rfl
      · rw [List.length_cons] at hlooks hfits
        rw [heq]
        cases hconcerns : e.concerns id with
        | some t =>
            obtain ⟨rfl, -⟩ := Event.concerns_eq_some_iff.1 hconcerns
            unfold outlook
            simp only [hconcerns]
            rw [if_neg (by rw [List.length_cons]; omega),
              List.find?_cons_of_pos (Event.isFor_of_concerns hconcerns)]
            rfl
        | none =>
            simp only [hconcerns]
            rw [ih hr' (by omega)]
            unfold outlook
            rw [if_neg (by omega), if_neg (by rw [List.length_cons]; omega),
              List.find?_cons_of_neg (by simp [Event.not_isFor_of_concerns hconcerns])]
      · rw [heq]
        rfl

/-- A receiver of one transfer's events looks as far as it has to. -/
theorem receiveTransfer_eq_outlook (hb : b.Keeps log) (id : String) (hr : r.Faces log ahead) :
    (b.receiveTransfer id r).1.map .transfer = b.outlook (Event.isFor (some id)) ahead := by
  have hkept := hb.length_kept
  have hahead := hr.length_ahead
  exact receiveAbout_eq_outlook hb id hr (by omega)

/-- Nobody is told of a gap who has no more ahead than the bus has room for. -/
theorem outlook_ne_lagged {wants : Event → Bool} (h : ahead.length ≤ b.room) (lost : Nat) :
    b.outlook wants ahead ≠ .error (.lagged lost) := by
  unfold outlook silence
  rw [if_neg (Nat.not_lt.2 h)]
  cases ahead.find? wants with
  | some e => nofun
  | none => cases b.isOpen <;> nofun

end Bus
end Connector
