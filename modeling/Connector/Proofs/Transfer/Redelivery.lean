import Connector.Proofs.Transfer.Signal

/-!
# Signals that are sent twice, or taken back

Whoever sends a signal may not learn that it arrived, and send it again; and may think better of it,
and send the opposite one.  What a signal is answered and what it leaves of the record are said
together by `deliver`.  A command is kept once however often it is sent, of the reports on the flow
the first one stays, and suspension and resumption take each other back as long as no worker came in
between.  Statements:

* `deliver_cases`, `accept_eq_deliver` — what is answered, and what is left;
* `changes_of_accept` — a signal that is taken changes the command or the report, not both;
* `accept_again` — but for a resumption, a signal that was not refused has no effect again;
* `accept_resume_of_suspend`, `accept_suspend_of_resume` — the one takes back the other;
* `completion_deliverAll` — whatever is sent, the first report stays;
* `signals_settle` — all of these, for every record and every signal.
-/

namespace Connector.Transfer

/-- Delivers a signal: whether it had an effect, or why it was refused, and the record that it
leaves. -/
def deliver (p : Transfer) (x : Signal) : Except Refusal Bool × Transfer :=
  match p.accept x with
  | .ok (some q) => (.ok true, q)
  | .ok none => (.ok false, p)
  | .error e => (.error e, p)

/-- Delivers one signal after the other. -/
def deliverAll (p : Transfer) (xs : List Signal) : Transfer :=
  xs.foldl (fun p x => (p.deliver x).2) p

variable {p q : Transfer} {x : Signal}

/-- What is answered tells what is left: another record, or the one that there was. -/
theorem deliver_cases (p : Transfer) (x : Signal) :
    (∃ q, p.accept x = .ok (some q) ∧ p.deliver x = (.ok true, q)) ∨
      (p.accept x = .ok none ∧ p.deliver x = (.ok false, p)) ∨
      ∃ e, p.accept x = .error e ∧ p.deliver x = (.error e, p) := by
  unfold deliver
  rcases p.accept x with e | _ | q
  · exact Or.inr (Or.inr ⟨e, rfl, rfl⟩)
  · exact Or.inr (Or.inl ⟨rfl, rfl⟩)
  · exact Or.inl ⟨q, rfl, rfl⟩

theorem deliver_of_accept (h : p.accept x = .ok (some q)) : p.deliver x = (.ok true, q) := by
  rw [deliver, h]

theorem deliver_of_idle (h : p.accept x = .ok none) : p.deliver x = (.ok false, p) := by
  rw [deliver, h]

/-- What a delivery answers and leaves is what the signal is taken as. -/
theorem accept_eq_deliver (p : Transfer) (x : Signal) :
    p.accept x = (p.deliver x).1.map fun taken => if taken then some (p.deliver x).2 else none := by
  rcases deliver_cases p x with ⟨q, hq, heq⟩ | ⟨hnone, heq⟩ | ⟨e, he, heq⟩
  · rw [hq, heq]
    rfl
  · rw [hnone, heq]
    rfl
  · rw [he, heq]
    rfl

theorem accept_of_deliver (h : (p.deliver x).1 = .ok true) :
    p.accept x = .ok (some (p.deliver x).2) := by
  rw [accept_eq_deliver, h]
  rfl

/-- A signal without an effect leaves the record as it is. -/
theorem eq_of_deliver (h : (p.deliver x).1 ≠ .ok true) : (p.deliver x).2 = p := by
  rcases deliver_cases p x with ⟨q, -, heq⟩ | ⟨-, heq⟩ | ⟨e, -, heq⟩
  · exact absurd (congrArg Prod.fst heq) h
  · rw [heq]
  · rw [heq]

/-- A signal that is taken changes the command that waits or the report on the flow, one of them
and nothing else. -/
theorem changes_of_accept (h : p.accept x = .ok (some q)) :
    (q.pendingCommand ≠ p.pendingCommand ∧ q = { p with pendingCommand := q.pendingCommand }) ∨
      (q.completion ≠ p.completion ∧ q = { p with completion := q.completion }) := by
  cases x with
  | cancel =>
      obtain ⟨-, hne, rfl⟩ := accept_cancel_iff.1 h
      exact Or.inl ⟨hne.symm, rfl⟩
  | suspend =>
      rcases accept_suspend_iff.1 h with ⟨-, hpending, rfl⟩ | ⟨-, hpending, rfl⟩
      · exact Or.inl ⟨by simp [withoutCommand, hpending], rfl⟩
      · refine Or.inl ⟨?_, rfl⟩
        rcases hpending with hpending | hpending <;> simp [withCommand, hpending]
  | resume =>
      rcases accept_resume_iff.1 h with ⟨hpending, rfl⟩ | ⟨-, hpending, rfl⟩
      · exact Or.inl ⟨by simp [withoutCommand, hpending], rfl⟩
      · exact Or.inl ⟨by simp [withCommand, hpending], rfl⟩
  | completion handle outcome =>
      obtain ⟨-, first, -, rfl⟩ := accept_completion_iff.1 h
      exact Or.inr ⟨by simp [first], rfl⟩

/-! ## Signals that are sent twice -/

/-- Where a report was recorded no other one has an effect. -/
theorem accept_completion_of_isSome (h : p.completion.isSome = true) (handle : String)
    (outcome : Outcome) : p.accept (.completion handle outcome) = .ok none := by
  simp [accept, h]

/-- But for a resumption, a signal that was taken has no effect on what it left. -/
theorem accept_again (hx : x ≠ .resume) (h : p.accept x = .ok (some q)) :
    q.accept x = .ok none := by
  cases x with
  | cancel =>
      obtain ⟨-, -, rfl⟩ := accept_cancel_iff.1 h
      simp [accept, withCommand]
  | suspend =>
      rcases accept_suspend_iff.1 h with ⟨hstate, -, rfl⟩ | ⟨hsuspend, -, rfl⟩
      · simp [accept, withoutCommand, hstate]
      · simp [accept, withCommand, hsuspend]
  | resume => exact absurd rfl hx
  | completion handle outcome =>
      rw [eq_of_accept_completion h]
      exact accept_completion_of_isSome rfl handle outcome

/-- A report that was recorded stays, whatever is sent. -/
theorem completion_deliver {outcome : Outcome} (h : p.completion = some outcome) (x : Signal) :
    (p.deliver x).2.completion = some outcome := by
  rcases deliver_cases p x with ⟨q, hq, heq⟩ | ⟨-, heq⟩ | ⟨e, -, heq⟩
  · rw [heq]
    rcases completion_of_accept hq with hsame | ⟨_, _, -, hnone, -⟩
    · exact hsame.trans h
    · cases hnone.symm.trans h
  · rw [heq]
    exact h
  · rw [heq]
    exact h

theorem completion_deliverAll {outcome : Outcome} (h : p.completion = some outcome)
    (xs : List Signal) : (p.deliverAll xs).completion = some outcome := by
  induction xs generalizing p with
  | nil => exact h
  | cons x rest ih => exact ih (completion_deliver h x)

/-! ## Signals that are taken back -/

theorem withoutCommand_withCommand (calm : p.pendingCommand = none) (c : Command) :
    (p.withCommand c).withoutCommand = p := by
  unfold withoutCommand withCommand
  rw [← calm]

/-- A resumption takes back the suspension before it. -/
theorem accept_resume_of_suspend (calm : p.pendingCommand = none)
    (h : p.accept .suspend = .ok (some q)) : q.accept .resume = .ok (some p) := by
  rcases accept_suspend_iff.1 h with ⟨-, hpending, -⟩ | ⟨-, -, rfl⟩
  · cases calm.symm.trans hpending
  · exact accept_resume_iff.2 (Or.inl ⟨rfl, (withoutCommand_withCommand calm _).symm⟩)

/-- A suspension takes back the resumption before it. -/
theorem accept_suspend_of_resume (calm : p.pendingCommand = none)
    (h : p.accept .resume = .ok (some q)) : q.accept .suspend = .ok (some p) := by
  rcases accept_resume_iff.1 h with ⟨hpending, -⟩ | ⟨hstate, -, rfl⟩
  · cases calm.symm.trans hpending
  · exact accept_suspend_iff.2
      (Or.inl ⟨hstate, rfl, (withoutCommand_withCommand calm _).symm⟩)

/-- **Signals that are sent twice, or taken back.**  Whatever the record and the signal: a signal
that is refused or has no effect leaves the record as it is, and one that has an effect changes the
command or the report, one of the two and nothing else.  Unless it is to resume the transfer, a
signal that was not refused has no effect when it is sent again; and once a report was taken no
report has an effect, whatever was sent in between.  Where no command waits, a resumption takes back
a suspension that had an effect, and a suspension such a resumption. -/
theorem signals_settle (p : Transfer) (x : Signal) :
    let answer := (p.deliver x).1
    let q := (p.deliver x).2
    (answer ≠ .ok true → q = p) ∧
    (answer = .ok true →
      (q.pendingCommand ≠ p.pendingCommand ∧ q = { p with pendingCommand := q.pendingCommand }) ∨
        (q.completion ≠ p.completion ∧ q = { p with completion := q.completion })) ∧
    (x ≠ .resume → ∀ b, answer = .ok b → q.deliver x = (.ok false, q)) ∧
    (∀ handle outcome, x = .completion handle outcome → answer = .ok true →
      ∀ xs handle' outcome', (q.deliverAll xs).deliver (.completion handle' outcome') =
        (.ok false, q.deliverAll xs)) ∧
    (p.pendingCommand = none → answer = .ok true →
      (x = .suspend → q.deliver .resume = (.ok true, p)) ∧
        (x = .resume → q.deliver .suspend = (.ok true, p))) := by
  intro answer q
  have taken : answer = .ok true → p.accept x = .ok (some q) := accept_of_deliver
  refine ⟨eq_of_deliver, fun h => changes_of_accept (taken h), ?again, ?reported, ?back⟩
  case again =>
    intro hx b h
    cases b with
    | true => exact deliver_of_idle (accept_again hx (taken h))
    | false =>
        have same : q = p := eq_of_deliver (by rw [show (p.deliver x).1 = .ok false from h]; simp)
        rw [same]
        exact Prod.ext h same
  case reported =>
    rintro handle outcome rfl h xs handle' outcome'
    have first : q.completion = some outcome := by rw [eq_of_accept_completion (taken h)]
    have stays := completion_deliverAll first xs
    exact deliver_of_idle
      (accept_completion_of_isSome (Option.isSome_of_eq_some stays) handle' outcome')
  case back =>
    intro calm h
    constructor
    · rintro rfl
      exact deliver_of_accept (accept_resume_of_suspend calm (taken h))
    · rintro rfl
      exact deliver_of_accept (accept_suspend_of_resume calm (taken h))

/-- A transfer whose flow is tracked is to be suspended, and then is not; and its flow is reported
to have failed, and then to have succeeded. -/
theorem signals_settle_while_tracked :
    let request : DataRequest :=
      ⟨"r", "a", "s", "c", "http://c", "p", ⟨"blob", []⟩, ⟨"http", []⟩, []⟩
    let p : Transfer := { Transfer.create "t" .consumer request ⟨0⟩ with
      state := .started, dataFlow := some ⟨"d", "h", ⟨0⟩⟩ }
    let q := (p.deliver .suspend).2
    let r := (p.deliver (.completion "h" (.failed "f"))).2
    (p.deliver .suspend).1 = .ok true ∧
      q.deliver .suspend = (.ok false, q) ∧ q.deliver .resume = (.ok true, p) ∧
      (r.deliverAll [.cancel]).deliver (.completion "h" .succeeded) =
        (.ok false, r.deliverAll [.cancel]) := by
  intro request p q r
  have hsuspend : (p.deliver .suspend).1 = .ok true := rfl
  have hreport : (p.deliver (.completion "h" (.failed "f"))).1 = .ok true := rfl
  obtain ⟨-, -, hagain, -, hback⟩ := signals_settle p .suspend
  obtain ⟨-, -, -, hreported, -⟩ := signals_settle p (.completion "h" (.failed "f"))
  exact ⟨hsuspend, hagain (by simp) true hsuspend, (hback rfl hsuspend).1 rfl,
    hreported "h" (.failed "f") rfl hreport [.cancel] "h" .succeeded⟩

end Connector.Transfer
