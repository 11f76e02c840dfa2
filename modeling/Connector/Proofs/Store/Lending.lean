import Connector.Proofs.Store.Claiming
import Connector.Store.Counted

/-!
# What the store lends

A claim gets to the records at the front of the line one after the other.  If the clock covers the
end of the lease and no record is under the last version, it gets through, and has done then what
`claim` says.  Otherwise it breaks off: on the clock at the first record, before anything was done;
and on the word at the first record under the last version, which is on lease by then, as are those
before it.  Statements:

* `find?_leaseAll_of_mem`, `find?_leaseAll_of_notMem` — the store when the claim got to some
  records;
* `lendAll_append` — by getting to some records a claim puts them on lease;
* `lend_of_overdue`, `lend_of_next`, `lend_of_last` — where a claim breaks off, and where it gets
  through;
* `lend_spec` — all that a claim does, to the records it hands out and to the others.
-/

namespace Connector.Transfers

open Transfer (Precedes)

variable {s : Transfers} {states : List Transfer.State} {batch : Nat} {c : Claim}
  {p q : Transfer} {ps taken : List Transfer}

/-! ## Record by record -/

/-- The store with some records on lease. -/
def leaseAll (s : Transfers) (c : Claim) : List Transfer → Transfers
  | [] => s
  | p :: rest => leaseAll ⟨Table.put p.id (p.leased c) s.records⟩ c rest

theorem find?_leaseAll_of_notMem {id : String} (hid : ∀ q ∈ ps, q.id ≠ id) :
    (s.leaseAll c ps).find? id = s.find? id := by
  induction ps generalizing s with
  | nil => rfl
  | cons p rest ih =>
      obtain ⟨hp, hrest⟩ := List.forall_mem_cons.1 hid
      rw [leaseAll, ih hrest, find?_put, if_neg (Ne.symm hp)]

theorem find?_leaseAll_of_mem (hids : ps.Pairwise fun p q => p.id ≠ q.id) (hp : p ∈ ps) :
    (s.leaseAll c ps).find? p.id = some (p.leased c) := by
  induction ps generalizing s with
  | nil => cases hp
  | cons q rest ih =>
      obtain ⟨hq, hrest⟩ := List.pairwise_cons.1 hids
      rw [leaseAll]
      rcases List.mem_cons.1 hp with rfl | hp
      · -- The records behind it have other ids.
        rw [find?_leaseAll_of_notMem fun r hr => (hq r hr).symm, find?_put, if_pos rfl]
      · exact ih hrest hp

theorem isKeyed_leaseAll (hs : s.IsKeyed) (c : Claim) (ps : List Transfer) :
    (s.leaseAll c ps).IsKeyed := by
  induction ps generalizing s with
  | nil => exact hs
  | cons p rest ih => exact ih (isKeyed_put hs rfl)

/-- To put all that was chosen on lease is to claim it. -/
theorem leaseAll_chosen (hs : s.IsKeyed) (states : List Transfer.State) (batch : Nat) (c : Claim) :
    s.leaseAll c (s.chosen states batch c) = (s.claim states batch c).2 := by
  have hids := pairwise_id_chosen hs states batch c
  have hget : ∀ id, (s.leaseAll c (s.chosen states batch c)).find? id =
      (s.claim states batch c).2.find? id := by
    intro id
    by_cases hid : ∃ q ∈ s.chosen states batch c, q.id = id
    · obtain ⟨p, hp, rfl⟩ := hid
      rw [find?_leaseAll_of_mem hids hp, find?_claim_of_mem hs hp]
    · have hother : ∀ q ∈ s.chosen states batch c, q.id ≠ id := fun q hq heq => hid ⟨q, hq, heq⟩
      rw [find?_leaseAll_of_notMem hother, find?_claim_of_notMem hs]
      intro q hq
      obtain ⟨p, hp, rfl⟩ := mem_claim_iff.1 hq
      exact hother p hp
  have hrecords := Table.eq_of_get? (isKeyed_leaseAll hs c _).isSorted
    (isKeyed_claim hs states batch c).isSorted hget
  exact congrArg Transfers.mk hrecords

/-- By getting to some records a claim puts them on lease. -/
theorem lendAll_append (fits : c.lease? = some c.lease)
    (hids : ps.Pairwise fun p q => p.id ≠ q.id) (stored : ∀ p ∈ ps, s.find? p.id = some p)
    (next : ∀ p ∈ ps, p.hasNextVersion = true) (rest : List String) :
    lendAll c (ps.map (·.id) ++ rest) s =
      (let r := lendAll c rest (s.leaseAll c ps)
       (r.1.map (ps.map (·.leased c) ++ ·), r.2)) := by
  induction ps generalizing s with
  | nil =>
      have hsame : ∀ x : Except Overrun (List Transfer), x.map (fun taken => taken) = x := by
        rintro (_ | _) <;> rfl
      simp only [List.map_nil, leaseAll, List.nil_append, hsame]
  | cons p ps ih =>
      obtain ⟨hp, hps⟩ := List.forall_mem_cons.1 stored
      obtain ⟨hnext, hnexts⟩ := List.forall_mem_cons.1 next
      obtain ⟨hother, hids⟩ := List.pairwise_cons.1 hids
      have hstored : ∀ q ∈ ps, find? ⟨Table.put p.id (p.leased c) s.records⟩ q.id = some q := by
        intro q hq
        rw [find?_put, if_neg (hother q hq).symm, hps q hq]
      have hmap : ∀ x : Except Overrun (List Transfer),
          (x.map (ps.map (·.leased c) ++ ·)).map (p.leased c :: ·) =
            x.map ((p :: ps).map (·.leased c) ++ ·) := by
        rintro (_ | _) <;> rfl
      have hrest := ih hids hstored hnexts
      rw [List.map_cons, List.cons_append, lendAll_of_next hp fits hnext]
      change (let r := lendAll c _ ⟨Table.put p.id (p.leased c) s.records⟩
        (r.1.map (p.leased c :: ·), r.2)) = _
      rw [hrest]
      simp only [hmap, leaseAll]

/-! ## Where a claim breaks off -/

theorem lend_of_chosen_eq_nil (h : s.chosen states batch c = []) :
    s.lend states batch c = (.ok [], s) := by
  rw [lend, h]
  rfl

theorem lend_of_overdue (hs : s.IsKeyed) (hsome : s.chosen states batch c ≠ [])
    (late : c.lease? = none) : s.lend states batch c = (.error .clock, s) := by
  cases hchosen : s.chosen states batch c with
  | nil => exact absurd hchosen hsome
  | cons p rest =>
      have hp : s.find? p.id = some p :=
        find?_of_mem_chosen hs (hchosen ▸ List.mem_cons_self)
      rw [lend, hchosen]
      exact lendAll_of_overdue hp late

theorem lend_of_next (hs : s.IsKeyed) (fits : c.lease? = some c.lease)
    (next : ∀ p ∈ s.chosen states batch c, p.hasNextVersion = true) :
    s.lend states batch c = (.ok (s.claim states batch c).1, (s.claim states batch c).2) := by
  have hall := lendAll_append fits (pairwise_id_chosen hs states batch c)
    (fun _ hp => find?_of_mem_chosen hs hp) next []
  rw [List.append_nil] at hall
  rw [lend, hall, ← leaseAll_chosen hs]
  simp [claim, Except.map]

theorem lend_of_last (hs : s.IsKeyed) (fits : c.lease? = some c.lease) {rest : List Transfer}
    (hchosen : s.chosen states batch c = ps ++ p :: rest)
    (next : ∀ q ∈ ps, q.hasNextVersion = true) (last : p.hasNextVersion = false) :
    s.lend states batch c =
      (.error .word, ⟨Table.put p.id (p.withLease c.lease) (s.leaseAll c ps).records⟩) := by
  have stored : ∀ q ∈ ps ++ p :: rest, s.find? q.id = some q := fun q hq =>
    find?_of_mem_chosen hs (hchosen ▸ hq)
  have hids := pairwise_id_chosen hs states batch c
  rw [hchosen, List.pairwise_append] at hids
  obtain ⟨hids, -, hother⟩ := hids
  have hp : (s.leaseAll c ps).find? p.id = some p := by
    rw [find?_leaseAll_of_notMem fun q hq => hother q hq p List.mem_cons_self]
    exact stored p (List.mem_append_right _ List.mem_cons_self)
  rw [lend, hchosen, List.map_append, List.map_cons,
    lendAll_append fits hids (fun q hq => stored q (List.mem_append_left _ hq)) next,
    lendAll_of_last hp fits last]
  rfl

/-- The first of some records that is under the last version. -/
theorem exists_last (h : ¬ ∀ p ∈ ps, p.hasNextVersion = true) :
    ∃ first p rest, ps = first ++ p :: rest ∧ (∀ q ∈ first, q.hasNextVersion = true) ∧
      p.hasNextVersion = false := by
  induction ps with
  | nil => exact absurd (List.forall_mem_nil _) h
  | cons p ps ih =>
      cases hp : p.hasNextVersion with
      | false => exact ⟨[], p, ps, rfl, List.forall_mem_nil _, hp⟩
      | true =>
          obtain ⟨first, q, rest, rfl, hfirst, hq⟩ := ih fun hall =>
            h (List.forall_mem_cons.2 ⟨hp, hall⟩)
          exact ⟨p :: first, q, rest, rfl, List.forall_mem_cons.2 ⟨hp, hfirst⟩, hq⟩

/-- A claim that gets through hands out what is claimed. -/
theorem eq_claim_of_lend (hs : s.IsKeyed) (h : (s.lend states batch c).1 = .ok taken) :
    taken = (s.claim states batch c).1 := by
  by_cases hempty : s.chosen states batch c = []
  · rw [lend_of_chosen_eq_nil hempty] at h
    cases h
    rw [claim, hempty]
    rfl
  · rcases c.lease?_eq_none_or with late | fits
    · rw [lend_of_overdue hs hempty late] at h
      cases h
    · by_cases next : ∀ p ∈ s.chosen states batch c, p.hasNextVersion = true
      · rw [lend_of_next hs fits next] at h
        cases h
        rfl
      · obtain ⟨first, p, rest, hchosen, hfirst, hp⟩ := exists_last next
        rw [lend_of_last hs fits hchosen hfirst hp] at h
        cases h

/-! ## The whole claim -/

/-- The records that a claim gets to as of an instant, in their order. -/
structure IsFront (s : Transfers) (states : List Transfer.State) (batch : Nat) (now : Instant)
    (front : List Transfer) : Prop where
  /-- The records stand in line, and none of them stands there twice. -/
  inLine : front.Pairwise Precedes
  /-- There are as many as asked for, or else all candidates. -/
  length_eq : front.length = min batch
    (s.records.values.filter fun p => states.contains p.state && p.isClaimable now).length
  /-- Each is a candidate. -/
  candidate : ∀ p ∈ front, s.find? p.id = some p ∧ p.state ∈ states ∧ p.isClaimable now = true
  /-- A candidate that is left out stands behind all of them. -/
  left_out : ∀ p, s.find? p.id = some p → p.state ∈ states → p.isClaimable now = true →
    p ∉ front → ∀ q ∈ front, q.Precedes p

/-- What a claim does that gets through: the records it hands out and the store it leaves. -/
structure Lends (s : Transfers) (c : Claim) (front taken : List Transfer) (t : Transfers) :
    Prop where
  /-- Each record is handed out with the lease and under the next version. -/
  taken_eq : taken = front.map fun p =>
    { p with version := p.version + 1, lease := some ⟨c.holder, ⟨c.now.nanos + c.duration⟩⟩ }
  /-- The records stand in line. -/
  inLine : taken.Pairwise Precedes
  /-- They are stored as they are handed out. -/
  stored : ∀ q ∈ taken, t.find? q.id = some q
  /-- The other records stay as they are. -/
  others : ∀ id, (∀ q ∈ taken, q.id ≠ id) → t.find? id = s.find? id
  isKeyed : t.IsKeyed
  /-- No second claim at that instant hands one of them out again. -/
  exclusive : 0 < c.duration → ∀ states' batch' holder' duration' taken',
    (t.lend states' batch' ⟨holder', c.now, duration'⟩).1 = .ok taken' →
      ∀ q' ∈ taken', ∀ q ∈ taken, q'.id ≠ q.id

/-- What a claim leaves that breaks off at a record, after others. -/
structure Leaves (s : Transfers) (c : Claim) (first : List Transfer) (p : Transfer)
    (t : Transfers) : Prop where
  /-- The records before are on lease. -/
  before : ∀ q ∈ first, t.find? q.id = some
    { q with version := q.version + 1, lease := some ⟨c.holder, ⟨c.now.nanos + c.duration⟩⟩ }
  /-- The record is on lease, under its old version. -/
  at_it : t.find? p.id = some { p with lease := some ⟨c.holder, ⟨c.now.nanos + c.duration⟩⟩ }
  /-- The other records stay as they are. -/
  others : ∀ id, (∀ q ∈ first, q.id ≠ id) → p.id ≠ id → t.find? id = s.find? id

theorem isFront_chosen (hs : s.IsKeyed) (states : List Transfer.State) (batch : Nat) (c : Claim) :
    s.IsFront states batch c.now (s.chosen states batch c) where
  inLine := pairwise_precedes_chosen hs states batch c
  length_eq := length_chosen s states batch c
  candidate p hp := by
    obtain ⟨hstored, hstate, hclaimable⟩ := mem_chosen hp
    exact ⟨(mem_values_iff hs).1 hstored, hstate, hclaimable⟩
  left_out p hp hstate hclaimable hout q hq :=
    precedes_of_left_out hs hq ((mem_candidates_iff hs).2 ⟨hp, hstate, hclaimable⟩) hout

theorem lends_claim (hs : s.IsKeyed) (states : List Transfer.State) (batch : Nat) (c : Claim) :
    s.Lends c (s.chosen states batch c) (s.claim states batch c).1 (s.claim states batch c).2 where
  taken_eq := rfl
  inLine := List.pairwise_map.2 ((pairwise_precedes_chosen hs states batch c).imp
    (Transfer.precedes_leased_iff c c).2)
  stored q hq := by
    obtain ⟨p, hp, rfl⟩ := mem_claim_iff.1 hq
    exact find?_claim_of_mem hs hp
  others _ hid := find?_claim_of_notMem hs hid
  isKeyed := isKeyed_claim hs states batch c
  exclusive := by
    intro hlong states' batch' holder' duration' taken' htaken q' hq' q hq
    have hlasts : (Claim.mk holder' c.now duration').now < c.expiresAt := by
      change c.now.nanos < c.now.nanos + c.duration
      omega
    rw [eq_claim_of_lend (isKeyed_claim hs states batch c) htaken] at hq'
    exact not_claimed_again hs hq states' batch' hlasts q' hq'

theorem leaves_leaseAll {rest : List Transfer} (hs : s.IsKeyed)
    (hchosen : s.chosen states batch c = ps ++ p :: rest) :
    s.Leaves c ps p ⟨Table.put p.id (p.withLease c.lease) (s.leaseAll c ps).records⟩ := by
  have hids := pairwise_id_chosen hs states batch c
  rw [hchosen, List.pairwise_append] at hids
  obtain ⟨hids, -, hother⟩ := hids
  refine ⟨fun q hq => ?_, ?_, fun id hid hpid => ?_⟩
  · rw [find?_put, if_neg (hother q hq p List.mem_cons_self)]
    exact find?_leaseAll_of_mem hids hq
  · rw [find?_put, if_pos rfl]
    rfl
  · rw [find?_put, if_neg (Ne.symm hpid)]
    exact find?_leaseAll_of_notMem hid

/-- **The claim specification.**  A claim gets to the candidates at the front of the line.  If
there are none, or the clock covers the end of the lease and none of them is under the last version,
it hands them out on lease.  Otherwise it breaks off: with nothing done where the lease would end
beyond the clock, and else as it counts the versions of the first record under the last one. -/
theorem lend_spec (hs : s.IsKeyed) (states : List Transfer.State) (batch : Nat) (c : Claim) :
    ∃ front, s.IsFront states batch c.now front ∧
      (front = [] ∨ (c.now.later? c.duration).isSome = true ∧
          (∀ p ∈ front, p.version < Transfer.lastVersion) →
        ∃ taken t, s.lend states batch c = (.ok taken, t) ∧ s.Lends c front taken t) ∧
      (front ≠ [] → c.now.later? c.duration = none →
        s.lend states batch c = (.error .clock, s)) ∧
      ∀ first p rest, front = first ++ p :: rest → (c.now.later? c.duration).isSome = true →
        (∀ q ∈ first, q.version < Transfer.lastVersion) → Transfer.lastVersion ≤ p.version →
        ∃ t, s.lend states batch c = (.error .word, t) ∧ s.Leaves c first p t := by
  have hfits : (c.now.later? c.duration).isSome = true → c.lease? = some c.lease := by
    intro hsome
    refine c.lease?_eq_none_or.resolve_left fun hnone => ?_
    rw [Option.map_eq_none_iff.1 hnone] at hsome
    cases hsome
  have hnext : ∀ {q : Transfer}, q.version < Transfer.lastVersion → q.hasNextVersion = true :=
    fun h => decide_eq_true h
  refine ⟨s.chosen states batch c, isFront_chosen hs states batch c, ?through, ?clock, ?word⟩
  case through =>
    have hlends := lends_claim hs states batch c
    rintro (hempty | ⟨hsome, hversions⟩)
    · have hclaim : s.lend states batch c =
          (.ok (s.claim states batch c).1, (s.claim states batch c).2) := by
        rw [lend_of_chosen_eq_nil hempty, claim_of_chosen_eq_nil hempty, claim, hempty]
        rfl
      exact ⟨_, _, hclaim, hlends⟩
    · exact ⟨_, _, lend_of_next hs (hfits hsome) fun p hp => hnext (hversions p hp), hlends⟩
  case clock =>
    intro hsome hlate
    exact lend_of_overdue hs hsome (Option.map_eq_none_iff.2 hlate)
  case word =>
    intro first p rest hchosen hsome hfirst hp
    refine ⟨_, lend_of_last hs (hfits hsome) hchosen (fun q hq => hnext (hfirst q hq)) ?_,
      leaves_leaseAll hs hchosen⟩
    exact decide_eq_false (Nat.not_lt.2 hp)

/-- Of three transfers the one that came in first and, of the other two, the one with the lesser id
are handed out. -/
theorem lend_spec_of_three :
    let new (id : String) (now : Int) : Operation :=
      .create (Transfer.create id .consumer default ⟨now⟩)
    let s := empty.after [new "c" 0, new "b" 3, new "a" 3]
    let c : Claim := ⟨"w", ⟨10⟩, 60⟩
    ∃ front taken t, s.IsFront Transfer.State.actionable 2 ⟨10⟩ front ∧
      s.lend Transfer.State.actionable 2 c = (.ok taken, t) ∧ s.Lends c front taken t ∧
      taken.map (·.id) = ["c", "a"] := by
  intro new s c
  have hs : s.IsKeyed := isKeyed_after isKeyed_empty _
  let waiting : List Transfer :=
    [.create "c" .consumer default ⟨0⟩, .create "a" .consumer default ⟨3⟩,
      .create "b" .consumer default ⟨3⟩]
  have hline : s.line Transfer.State.actionable c = waiting :=
    line_eq hs (by decide +kernel) (by decide +kernel)
  have hversions : ∀ p ∈ s.records.values, p.version < Transfer.lastVersion := by decide +kernel
  obtain ⟨front, hfront, hthrough, -⟩ := lend_spec hs Transfer.State.actionable 2 c
  obtain ⟨taken, t, hlend, hlends⟩ := hthrough (Or.inr ⟨by decide +kernel, fun p hp =>
    hversions p ((mem_values_iff hs).2 (hfront.candidate p hp).1)⟩)
  refine ⟨front, taken, t, hfront, hlend, hlends, ?_⟩
  rw [eq_claim_of_lend hs (congrArg Prod.fst hlend), claim, chosen_eq, hline]
  rfl

/-- A claim for 270000 years from 2026 on breaks off, though there is a candidate. -/
theorem lend_of_long_lease :
    let now : Instant := ⟨1767225600000000000⟩
    let s := empty.after [.create (Transfer.create "t" .consumer default now)]
    let c : Claim := ⟨"w", now, 270000 * 31557600000000000⟩
    s.IsKeyed ∧ (s.candidates Transfer.State.actionable c).length = 1 ∧
      ∀ taken, (s.lend Transfer.State.actionable 10 c).1 ≠ .ok taken := by
  intro now s c
  have hs : s.IsKeyed := isKeyed_after isKeyed_empty _
  have hcandidates : (s.candidates Transfer.State.actionable c).length = 1 := by decide +kernel
  have hsome : s.chosen Transfer.State.actionable 10 c ≠ [] := by
    intro hempty
    have hlength := length_chosen s Transfer.State.actionable 10 c
    rw [hempty, hcandidates] at hlength
    cases hlength
  refine ⟨hs, hcandidates, fun taken htaken => ?_⟩
  rw [lend_of_overdue hs hsome (by decide +kernel)] at htaken
  cases htaken

end Connector.Transfers
