import Connector.Worker.Attempt

/-!
# The course of an attempt

An attempt asks others and goes on with what they answer.  A course is one way from an attempt to
what is left of it, with everything that was exchanged on the way; whatever the others may answer
is a course.  Statements:

* `Course.trans` — courses follow each other;
* `yields_note_iff`, `yields_ask_iff`, `yields_call_iff`, `yields_ended_iff` — which courses of an
  attempt lead to a record, by the first thing that the attempt does.
-/

namespace Connector

/-- What an attempt asked, and what it was answered. -/
inductive Exchange where
  | inquiry (q : Inquiry) (answer : q.Answer)
  /-- Nothing is the answer when the wait was over; the instant is the one of the answer. -/
  | call (c : Call) (answer : Option c.Answer) (now : Instant)

namespace Exchange

/-- The question of an exchange to somebody outside. -/
def call? : Exchange → Option Call
  | inquiry _ _ => none
  | call c _ _ => some c

/-- The calls among some exchanges. -/
def calls (xs : List Exchange) : List Call := xs.filterMap call?

@[simp] theorem calls_nil : calls [] = [] := rfl

@[simp] theorem calls_cons_inquiry (q : Inquiry) (answer : q.Answer) (xs : List Exchange) :
    calls (.inquiry q answer :: xs) = calls xs := rfl

@[simp] theorem calls_cons_call (c : Call) (answer : Option c.Answer) (now : Instant)
    (xs : List Exchange) : calls (.call c answer now :: xs) = c :: calls xs := rfl

@[simp] theorem calls_append (xs ys : List Exchange) : calls (xs ++ ys) = calls xs ++ calls ys :=
  List.filterMap_append

end Exchange

namespace Attempt

/-- From the first attempt, by these exchanges, the second is what is left. -/
inductive Course : Attempt → List Exchange → Attempt → Prop where
  | refl (a : Attempt) : Course a [] a
  | note {n : Note} {rest b : Attempt} {xs : List Exchange} (tail : Course rest xs b) :
      Course (.note n rest) xs b
  | ask {q : Inquiry} {next : q.Answer → Attempt} {answer : q.Answer} {b : Attempt}
      {xs : List Exchange} (tail : Course (next answer) xs b) :
      Course (.ask q next) (.inquiry q answer :: xs) b
  | call {c : Call} {next : Option c.Answer → Instant → Attempt} {answer : Option c.Answer}
      {now : Instant} {b : Attempt} {xs : List Exchange} (tail : Course (next answer now) xs b) :
      Course (.call c next) (.call c answer now :: xs) b

/-- Courses follow each other. -/
theorem Course.trans {a b d : Attempt} {xs ys : List Exchange} (h : Course a xs b)
    (h' : Course b ys d) : Course a (xs ++ ys) d := by
  induction h with
  | refl => exact h'
  | note _ ih => exact .note (ih h')
  | ask _ ih => exact .ask (ih h')
  | call _ ih => exact .call (ih h')

/-- By these exchanges the attempt ends with a record to be written back. -/
def Yields (a : Attempt) (xs : List Exchange) (p : Transfer) : Prop :=
  Course a xs (.done (.ok p))

@[simp] theorem yields_done_iff {r : Except AttemptFault Transfer} {xs : List Exchange}
    {p : Transfer} : (Attempt.done r).Yields xs p ↔ xs = [] ∧ r = .ok p := by
  constructor
  · intro h
    cases h
    exact ⟨rfl, rfl⟩
  · rintro ⟨rfl, rfl⟩
    exact .refl _

@[simp] theorem yields_ended_iff {r : Except Transfer.Refusal Transfer} {xs : List Exchange}
    {p : Transfer} : (ended r).Yields xs p ↔ xs = [] ∧ r = .ok p := by
  unfold ended
  cases r with
  | error e =>
      have heq : (Except.error e : Except Transfer.Refusal Transfer).mapError
        AttemptFault.refused = .error (.refused e) := rfl
      simp [heq]
  | ok q =>
      have heq : (Except.ok q : Except Transfer.Refusal Transfer).mapError
        AttemptFault.refused = .ok q := rfl
      simp [heq]

@[simp] theorem yields_note_iff {n : Note} {rest : Attempt} {xs : List Exchange} {p : Transfer} :
    (Attempt.note n rest).Yields xs p ↔ rest.Yields xs p := by
  constructor
  · intro h
    cases h with
    | note tail => exact tail
  · exact .note

theorem yields_ask_iff {q : Inquiry} {next : q.Answer → Attempt} {xs : List Exchange}
    {p : Transfer} :
    (Attempt.ask q next).Yields xs p ↔
      ∃ answer ys, xs = .inquiry q answer :: ys ∧ (next answer).Yields ys p := by
  constructor
  · intro h
    cases h with
    | ask tail => exact ⟨_, _, rfl, tail⟩
  · rintro ⟨answer, ys, rfl, h⟩
    exact .ask h

theorem yields_call_iff {c : Call} {next : Option c.Answer → Instant → Attempt}
    {xs : List Exchange} {p : Transfer} :
    (Attempt.call c next).Yields xs p ↔
      ∃ answer now ys, xs = .call c answer now :: ys ∧ (next answer now).Yields ys p := by
  constructor
  · intro h
    cases h with
    | call tail => exact ⟨_, _, _, rfl, tail⟩
  · rintro ⟨answer, now, ys, rfl, h⟩
    exact .call h

end Attempt
end Connector
