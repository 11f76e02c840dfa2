import Connector.Proofs.Sql.Row
import Connector.Sql.TransferTable

/-!
# What a claim selects

A claim on a database looks at columns that may hold nothing, and a comparison with nothing is
neither true nor false.  Each of its four conditions is led back to what it says of the record that
the columns show.  Statements:

* `holds_listed`, `holds_unleased`, `holds_awake`, `holds_due` — what the four conditions say;
* `claimCondition_holds_iff` — together they select just the records that a claim may take.
-/

namespace Connector.Sql.TransferTable

open Expression (column param literal null)

/-- The columns that a claim looks at hold what the statements write for a record. -/
structure Shows (r : Row) (p : Transfer) : Prop where
  state_eq : r.value "state" = .text p.state.name
  expiresAt_eq : r.value "lease_expires_at" = .ofInstant? (p.lease.map (·.expiresAt))
  command_eq : r.value "pending_command" = commandValue p.pendingCommand
  completion_eq : r.value "has_completion" = .truth p.completion.isSome
  retryAt_eq : r.value "retry_at" = .ofInstant? p.retryAt

/-- The instants of a record that a claim compares are whole microseconds. -/
structure IsWhole (p : Transfer) : Prop where
  expiresAt_eq : ∀ lease, p.lease = some lease → toMicros lease.expiresAt = lease.expiresAt
  retryAt_eq : ∀ t, p.retryAt = some t → toMicros t = t

theorem name_inj {s t : Transfer.State} : s.name = t.name ↔ s = t := by
  constructor
  · intro h
    have hparse := congrArg Transfer.State.parse? h
    rw [Transfer.State.parse?_name, Transfer.State.parse?_name] at hparse
    exact Option.some.inj hparse
  · rintro rfl
    rfl

section Conditions

variable {p : Transfer} {states : List Transfer.State} {now : Instant} {s : Scope}

/-- The state is among those that are asked for. -/
theorem holds_listed (shows : Shows s.row p) (listed : s.param 1 = stateNames states) :
    (Condition.among (column "state") (param 1 none)).holds s = true ↔ p.state ∈ states := by
  have hstate : s.eval (column "state") = .text p.state.name := shows.state_eq
  have hlist : s.eval (param 1 none) = .texts (states.map Transfer.State.name) := listed
  rw [Condition.holds_among hstate hlist, List.mem_map]
  simp only [name_inj, exists_eq_right]

/-- Nobody has a lease that still counts. -/
theorem holds_unleased (shows : Shows s.row p) (whole : IsWhole p)
    (dated : s.param 2 = .instant now) :
    (Condition.either (.isNull (column "lease_expires_at"))
      (.atMost (column "lease_expires_at") (param 2 none))).holds s = true ↔
      p.lease.any (fun lease => lease.isActive now) = false := by
  have hexpires : s.eval (column "lease_expires_at") = _ := shows.expiresAt_eq
  have hnow : s.eval (param 2 none) = .instant now := dated
  rw [Condition.holds_either, Condition.holds_isNull]
  cases hlease : p.lease with
  | none =>
      rw [hlease] at hexpires
      exact iff_of_true (Or.inl hexpires) rfl
  | some lease =>
      rw [hlease, Option.map_some, Value.ofInstant?, Value.ofInstant,
        whole.expiresAt_eq lease hlease] at hexpires
      rw [Condition.holds_atMost_instant hexpires hnow, hexpires, Option.any_some, Lease.isActive,
        decide_eq_false_iff_not]
      simp only [reduceCtorEq, false_or]
      exact Int.not_lt.symm

/-- A suspended transfer waits for a command. -/
theorem holds_awake (shows : Shows s.row p) :
    (Condition.either (.unequal (column "state") (literal "SUSPENDED"))
      (.isNotNull (column "pending_command"))).holds s = true ↔
      ¬ (p.state = .suspended ∧ p.pendingCommand = none) := by
  have hstate : s.eval (column "state") = .text p.state.name := shows.state_eq
  have hword : s.eval (literal "SUSPENDED") = .text Transfer.State.suspended.name := rfl
  have hcommand : s.eval (column "pending_command") = commandValue p.pendingCommand :=
    shows.command_eq
  have hnull : commandValue p.pendingCommand = .null ↔ p.pendingCommand = none := by
    cases p.pendingCommand <;> simp [commandValue, Value.ofText]
  rw [Condition.holds_either, Condition.holds_unequal_text hstate hword,
    Condition.holds_isNotNull, hcommand, ne_eq, ne_eq, hnull, name_inj]
  exact Decidable.not_and_iff_not_or_not.symm

/-- The transfer waits for no instant that is still to come, unless something else is urgent. -/
theorem holds_due (shows : Shows s.row p) (whole : IsWhole p) (dated : s.param 2 = .instant now) :
    (Condition.either (.isNull (column "retry_at"))
      (.either (.atMost (column "retry_at") (param 2 none))
        (.either (.equal (column "pending_command") (literal "cancel"))
          (.group false (.both (.equal (column "state") (literal "STARTED"))
            (.isTrue (column "has_completion"))))))).holds s = true ↔
      p.isUrgent = true ∨ p.retryAt.all (fun t => decide (t ≤ now)) = true := by
  have hstate : s.eval (column "state") = .text p.state.name := shows.state_eq
  have hstarted : s.eval (literal "STARTED") = .text Transfer.State.started.name := rfl
  have hcommand : s.eval (column "pending_command") = commandValue p.pendingCommand :=
    shows.command_eq
  have hcancel : s.eval (literal "cancel") = .text (commandWord .cancel) := rfl
  have hcompletion : s.eval (column "has_completion") = .truth p.completion.isSome :=
    shows.completion_eq
  have hretry : s.eval (column "retry_at") = .ofInstant? p.retryAt := shows.retryAt_eq
  have hnow : s.eval (param 2 none) = .instant now := dated
  have hword : commandValue p.pendingCommand = .text (commandWord .cancel) ↔
      p.pendingCommand = some .cancel := by
    rcases p.pendingCommand with _ | (_ | _ | _) <;>
      simp [commandValue, Value.ofText, commandWord]
  have hurgent : p.isUrgent = true ↔
      p.pendingCommand = some .cancel ∨ p.state = .started ∧ p.completion.isSome = true := by
    simp [Transfer.isUrgent]
  have hdue : (s.eval (column "retry_at") = .null ∨
      (Condition.atMost (column "retry_at") (param 2 none)).holds s = true) ↔
      p.retryAt.all (fun t => decide (t ≤ now)) = true := by
    cases hretryAt : p.retryAt with
    | none =>
        rw [hretryAt] at hretry
        exact iff_of_true (Or.inl hretry) rfl
    | some t =>
        rw [hretryAt, Value.ofInstant?, Value.ofInstant, whole.retryAt_eq t hretryAt] at hretry
        rw [Condition.holds_atMost_instant hretry hnow, hretry]
        simp
  rw [Condition.holds_either, Condition.holds_either, Condition.holds_either,
    Condition.holds_isNull, Condition.holds_group, Condition.holds_both,
    Condition.holds_equal_text hcancel, Condition.holds_equal_text hstarted,
    Condition.holds_isTrue, hcommand, hword, hstate, hcompletion, hurgent, ← hdue]
  simp only [Value.text.injEq, Value.truth.injEq, name_inj]
  rw [← or_assoc]
  exact or_comm

end Conditions

theorem isTerminal_of_actionable {s : Transfer.State} (h : s ∈ Transfer.State.actionable) :
    s.isTerminal = false := by
  cases s <;> first | rfl | simp [Transfer.State.actionable] at h

/-- Cutting the instant of a claim makes no difference to a record in whole microseconds. -/
theorem isClaimable_toMicros {p : Transfer} (whole : IsWhole p) {now : Instant}
    (late : toMicros now = now ∨ epoch ≤ now.nanos) :
    p.isClaimable (toMicros now) = p.isClaimable now := by
  have hlease : (p.lease.any fun lease => lease.isActive (toMicros now)) =
      p.lease.any fun lease => lease.isActive now := by
    cases hlease : p.lease with
    | none => rfl
    | some lease =>
        have hcut := le_toMicros_iff (whole.expiresAt_eq lease hlease) late
        have hlt : toMicros now < lease.expiresAt ↔ now < lease.expiresAt :=
          Int.not_le.symm.trans ((not_congr hcut).trans Int.not_le)
        simp only [Option.any_some, Lease.isActive, hlt]
  have hretry : (p.retryAt.all fun t => decide (t ≤ toMicros now)) =
      p.retryAt.all fun t => decide (t ≤ now) := by
    cases hretry : p.retryAt with
    | none => rfl
    | some t => simp only [Option.all_some, le_toMicros_iff (whole.retryAt_eq t hretry) late]
  simp only [Transfer.isClaimable, hlease, hretry]

/-- **The condition of a claim selects what a claim may take.**  Let a row show a record in whole
microseconds, and let a claim ask for states in which there is something to do.  At every instant
the condition is known to be true of the row exactly if the claim may take the record.  The instant
of the claim is cut when it is sent, which makes no difference from the year 2000 on. -/
theorem claimCondition_holds_iff {r : Row} {p : Transfer} (shows : Shows r p) (whole : IsWhole p)
    {states : List Transfer.State} (actionable : ∀ s ∈ states, s ∈ Transfer.State.actionable)
    (c : Claim) (rest : List Value) :
    (∀ now, claimCondition.holds ⟨r, stateNames states :: .instant now :: rest, []⟩ = true ↔
      Transfers.isCandidate states { c with now := now } p = true) ∧
    (toMicros c.now = c.now ∨ epoch ≤ c.now.nanos →
      (claimCondition.holds ⟨r, stateNames states :: .ofInstant c.now :: rest, []⟩ = true ↔
        Transfers.isCandidate states c p = true)) := by
  have hat : ∀ now,
      claimCondition.holds ⟨r, stateNames states :: .instant now :: rest, []⟩ = true ↔
        Transfers.isCandidate states { c with now := now } p = true := by
    intro now
    have hterminal : p.state ∈ states → p.state.isTerminal = false := fun hlisted =>
      isTerminal_of_actionable (actionable _ hlisted)
    simp only [claimCondition, Condition.holds_both, Condition.holds_group]
    rw [holds_listed shows rfl, holds_unleased shows whole rfl, holds_awake shows,
      holds_due shows whole rfl]
    have hnone : p.pendingCommand.isNone = false ↔ p.pendingCommand ≠ none := by
      rw [← Option.not_isSome, Bool.not_eq_false', Option.isSome_iff_ne_none]
    simp only [Transfers.isCandidate, Transfer.isClaimable, Bool.and_eq_true, Bool.or_eq_true,
      List.contains_iff_mem, Bool.not_eq_true', Bool.and_eq_false_iff, beq_eq_false_iff_ne, hnone]
    constructor
    · rintro ⟨hlisted, hfree, hawake, hdue⟩
      refine ⟨hlisted, ⟨⟨hterminal hlisted, hfree⟩, ?_⟩, hdue⟩
      exact Decidable.not_and_iff_not_or_not.1 hawake
    · rintro ⟨hlisted, ⟨⟨-, hfree⟩, hawake⟩, hdue⟩
      exact ⟨hlisted, hfree, Decidable.not_and_iff_not_or_not.2 hawake, hdue⟩
  refine ⟨hat, fun late => ?_⟩
  rw [Value.ofInstant, hat, Transfers.isCandidate, isClaimable_toMicros whole late]
  rfl

/-- A suspended transfer is to be cancelled.  It is selected at the instant at which its lease runs
out, though it was not to be claimed yet, and a nanosecond before it is not. -/
theorem claimCondition_holds_of_cancelled_suspension :
    let address : DataAddress := ⟨"http", []⟩
    let request : DataRequest := ⟨"r", "a", "s", "c", "http://c", "p", address, address, []⟩
    let p : Transfer := { Transfer.create "t" .consumer request ⟨0⟩ with
      state := .suspended
      pendingCommand := some .cancel
      retryAt := some ⟨9000⟩
      lease := some ⟨"w", ⟨5000⟩⟩ }
    let r : Row := [("has_completion", .truth false), ("lease_expires_at", .instant ⟨5000⟩),
      ("pending_command", .text "cancel"), ("retry_at", .instant ⟨9000⟩),
      ("state", .text "SUSPENDED")]
    let states := Transfer.State.actionable
    Shows r p ∧ IsWhole p ∧
    claimCondition.holds ⟨r, [stateNames states, .ofInstant ⟨5000⟩], []⟩ = true ∧
    ¬ claimCondition.holds ⟨r, [stateNames states, .instant ⟨4999⟩], []⟩ = true := by
  intro address request p r states
  have shows : Shows r p := ⟨rfl, rfl, rfl, rfl, rfl⟩
  have whole : IsWhole p := by
    constructor
    · rintro lease h
      cases h
      decide
    · rintro t h
      cases h
      decide
  obtain ⟨hat, hsent⟩ := claimCondition_holds_iff shows whole (fun _ h => h)
    ⟨"w", ⟨5000⟩, 55000⟩ []
  refine ⟨shows, whole, ?_, ?_⟩
  · exact (hsent (Or.inl (by decide))).2 (by decide)
  · rw [hat]
    decide

end Connector.Sql.TransferTable
