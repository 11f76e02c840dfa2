import Connector.DataPlane.Selection
import Mathlib.Data.List.MinMax
import Mathlib.Data.List.Nodup
import Mathlib.Data.Prod.Lex
import Mathlib.Data.String.Basic
import Mathlib.Order.Bounds.Basic

/-!
# Which data plane is chosen

A data plane is eligible for a need if it is live, has every required property, and advertises a
single capability both ends of which match: ends of two capabilities are not put together.  Among
the eligible ones the choice goes by three things in turn: how many ends the best of those
capabilities names, the load, and the id.  Read as a triple under the lexicographic order
(`Candidate.rank`) they order the candidates linearly, and the fold that keeps the better of two is
the least element of the list (`best_eq_argmin`).  With distinct ids no two candidates have one
rank, so the order in which the data planes are listed cannot matter.  Statements:

* `Capability.specificity_eq_some_iff`, `specificity_eq_some_iff` — how well a capability and a data
  plane fit;
* `compare_eq_gt_iff`, `best_eq_argmin` — candidates are compared by their ranks;
* `isFirst_of_select`, `IsFirst.unique` — what is chosen is preferred to all others, and only one
  can be;
* `selects_first` — the choice, for every list of data planes.
-/

namespace Connector

namespace Capability

variable {c : Capability} {t : TransferType} {n : Nat}

/-- An advertised end matches the one that is asked for: it stands for any, or it is that one but
for the case of ASCII letters. -/
def EndMatches (advertised requested : String) : Prop :=
  advertised = "*" ∨ Text.eqIgnoringAsciiCase advertised requested = true

/-- Both ends of a capability match. -/
def Connects (c : Capability) (t : TransferType) : Prop :=
  EndMatches c.source t.source ∧ EndMatches c.destination t.destination

/-- The number of ends that a capability names; the mark for any names none. -/
def named (c : Capability) : Nat :=
  (if c.source = "*" then 0 else 1) + (if c.destination = "*" then 0 else 1)

theorem endSpecificity_eq_iff_matches {advertised requested : String} :
    endSpecificity advertised requested = some n ↔
      EndMatches advertised requested ∧ n = if advertised = "*" then 0 else 1 := by
  rw [endSpecificity_eq_some_iff, EndMatches, wildcard]
  by_cases h : advertised = "*"
  · simp [h]
  · simp [h]

/-- A capability fits if both ends match, by the number of ends that it names. -/
theorem specificity_eq_some_iff : c.specificity t = some n ↔ c.Connects t ∧ c.named = n := by
  simp only [specificity, Option.bind_eq_bind, Option.bind_eq_some_iff, Option.pure_def,
    Option.some.injEq, endSpecificity_eq_iff_matches, Connects, named]
  constructor
  · rintro ⟨_, ⟨hsource, rfl⟩, _, ⟨hdestination, rfl⟩, rfl⟩
    exact ⟨⟨hsource, hdestination⟩, rfl⟩
  · rintro ⟨⟨hsource, hdestination⟩, rfl⟩
    exact ⟨_, ⟨hsource, rfl⟩, _, ⟨hdestination, rfl⟩, rfl⟩

end Capability

namespace DataPlane

/-- A data plane can be chosen: it was seen within the timeout, has every required property with
the value asked for, and a single one of its capabilities connects the two ends. -/
structure IsEligible (d : DataPlane) (need : Need) (now : Instant) (timeout : Option Int) :
    Prop where
  isLive : ∀ limit, timeout = some limit → now.since d.lastSeen ≤ limit
  properties : ∀ p ∈ need.properties, Table.get? p.1 d.properties = some p.2
  connects : ∃ c ∈ d.capabilities, c.Connects need.transferType

/-- The best of the capabilities that connect two ends names so many of them. -/
def HasFit (d : DataPlane) (t : TransferType) (n : Nat) : Prop :=
  IsGreatest {m | ∃ c ∈ d.capabilities, c.Connects t ∧ c.named = m} n

/-- A load stands before another: it is less, or the other one was not reported. -/
def LoadBefore : Option Nat → Option Nat → Prop
  | some a, some b => a < b
  | some _, none => True
  | none, _ => False

/-- A data plane is preferred to another: its best capability names more of the ends; or as many,
and its load stands before; or the loads are the same too, and its id is less. -/
def IsPreferred (t : TransferType) (d e : DataPlane) : Prop :=
  ∃ m n, d.HasFit t m ∧ e.HasFit t n ∧
    (n < m ∨ n = m ∧ (LoadBefore d.load e.load ∨ d.load = e.load ∧ d.id < e.id))

/-- Of some data planes one is eligible and preferred to all others that are. -/
structure IsFirst (all : List DataPlane) (need : Need) (now : Instant) (timeout : Option Int)
    (d : DataPlane) : Prop where
  mem : d ∈ all
  eligible : d.IsEligible need now timeout
  preferred : ∀ e ∈ all, e.IsEligible need now timeout → e ≠ d →
    d.IsPreferred need.transferType e

variable {d e : DataPlane} {all : List DataPlane} {need : Need} {now : Instant}
  {timeout : Option Int} {t : TransferType} {a b : Candidate} {n : Nat}

/-! ## Who is eligible -/

theorem isLive_iff :
    d.isLive now timeout = true ↔ ∀ limit, timeout = some limit → now.since d.lastSeen ≤ limit := by
  cases timeout with
  | none => simp [isLive]
  | some limit => simp [isLive]

theorem hasProperties_iff :
    d.hasProperties need = true ↔
      ∀ p ∈ need.properties, Table.get? p.1 d.properties = some p.2 := by
  simp [hasProperties]

theorem max?_eq_some_iff_hasFit :
    (d.capabilities.filterMap fun c => c.specificity t).max? = some n ↔ d.HasFit t n := by
  rw [List.max?_eq_some_iff, HasFit, IsGreatest, mem_upperBounds]
  simp only [List.mem_filterMap, Capability.specificity_eq_some_iff]
  rfl

/-- A data plane fits if it has the properties, by its best capability. -/
theorem specificity_eq_some_iff :
    d.specificity need = some n ↔
      (∀ p ∈ need.properties, Table.get? p.1 d.properties = some p.2) ∧
        d.HasFit need.transferType n := by
  rw [specificity, ← max?_eq_some_iff_hasFit, ← hasProperties_iff]
  split
  · rename_i h
    simp [h]
  · rename_i h
    simp [h]

theorem HasFit.unique {m : Nat} (hm : d.HasFit t m) (hn : d.HasFit t n) : m = n :=
  IsGreatest.unique hm hn

/-- Of the capabilities that connect two ends one is the best, if there are any. -/
theorem exists_hasFit_iff : (∃ n, d.HasFit t n) ↔ ∃ c ∈ d.capabilities, c.Connects t := by
  constructor
  · rintro ⟨n, ⟨c, hc, hconnects, -⟩, -⟩
    exact ⟨c, hc, hconnects⟩
  · rintro ⟨c, hc, hconnects⟩
    have hmem : c.named ∈ d.capabilities.filterMap fun c => c.specificity t :=
      List.mem_filterMap.2 ⟨c, hc, Capability.specificity_eq_some_iff.2 ⟨hconnects, rfl⟩⟩
    obtain ⟨n, hn⟩ := Option.isSome_iff_exists.1 (List.isSome_max?_of_mem hmem)
    exact ⟨n, max?_eq_some_iff_hasFit.1 hn⟩

/-- The candidates are the eligible data planes, each with its fit. -/
theorem mem_candidates_iff {c : Candidate} :
    c ∈ candidates all need now timeout ↔
      c.dataPlane ∈ all ∧ c.dataPlane.IsEligible need now timeout ∧
        c.dataPlane.HasFit need.transferType c.score := by
  simp only [candidates, List.mem_filterMap, List.mem_filter, Option.map_eq_some_iff,
    specificity_eq_some_iff, isLive_iff]
  constructor
  · rintro ⟨d, ⟨hd, hlive⟩, n, ⟨hproperties, hfit⟩, rfl⟩
    exact ⟨hd, ⟨hlive, hproperties, exists_hasFit_iff.1 ⟨n, hfit⟩⟩, hfit⟩
  · rintro ⟨hd, heligible, hfit⟩
    exact ⟨c.dataPlane, ⟨hd, heligible.isLive⟩, c.score, ⟨heligible.properties, hfit⟩, rfl⟩

theorem IsEligible.exists_candidate (hd : d ∈ all) (h : d.IsEligible need now timeout) :
    ∃ n, ⟨n, d⟩ ∈ candidates all need now timeout := by
  obtain ⟨n, hn⟩ := exists_hasFit_iff.2 h.connects
  exact ⟨n, mem_candidates_iff.2 ⟨hd, h, hn⟩⟩

/-! ## How candidates are compared -/

/-- A load among all loads, an unreported one above the others. -/
def loadRank : Option Nat → WithTop ℕ
  | some n => WithTop.some n
  | none => ⊤

/-- What candidates are compared by, and in which order: the fit, the greater the better, the load,
and the id. -/
def Candidate.rank (c : Candidate) : ℕᵒᵈ ×ₗ WithTop ℕ ×ₗ String :=
  toLex (OrderDual.toDual c.score, toLex (loadRank c.dataPlane.load, c.dataPlane.id))

theorem loadRank_lt_iff {x y : Option Nat} : loadRank x < loadRank y ↔ LoadBefore x y := by
  cases x <;> cases y <;> simp [loadRank, LoadBefore]

theorem loadRank_inj {x y : Option Nat} : loadRank x = loadRank y ↔ x = y := by
  cases x <;> cases y <;> simp [loadRank]

theorem compareLoad_eq_gt_iff {x y : Option Nat} : compareLoad x y = .gt ↔ LoadBefore y x := by
  cases x <;> cases y <;> simp [compareLoad, LoadBefore, Nat.compare_eq_gt]

theorem compareLoad_eq_eq_iff {x y : Option Nat} : compareLoad x y = .eq ↔ x = y := by
  cases x <;> cases y <;> simp [compareLoad]

theorem Candidate.rank_lt_iff :
    a.rank < b.rank ↔
      b.score < a.score ∨ b.score = a.score ∧
        (LoadBefore a.dataPlane.load b.dataPlane.load ∨
          a.dataPlane.load = b.dataPlane.load ∧ a.dataPlane.id < b.dataPlane.id) := by
  rw [rank, rank, Prod.Lex.toLex_lt_toLex, Prod.Lex.toLex_lt_toLex, loadRank_lt_iff, loadRank_inj,
    OrderDual.toDual_lt_toDual, OrderDual.toDual_inj, eq_comm]

/-- A candidate comes after another if its rank is greater. -/
theorem Candidate.compare_eq_gt_iff : a.compare b = .gt ↔ b.rank < a.rank := by
  rw [rank_lt_iff, Candidate.compare, Ordering.then_eq_gt, Ordering.then_eq_gt,
    Nat.compare_eq_gt, Nat.compare_eq_eq, compareLoad_eq_gt_iff, compareLoad_eq_eq_iff,
    compare_gt_iff_gt, @eq_comm _ a.dataPlane.load, @eq_comm _ b.score]

/-- Keeping the better one of two, over a whole list, leaves the first of the least ranks. -/
theorem best_eq_argmin (cs : List Candidate) : best cs = cs.argmin Candidate.rank := by
  cases cs with
  | nil => rfl
  | cons c rest =>
      have hfold : ∀ c, some (rest.foldl Candidate.better c) =
          rest.foldl (List.argAux fun x y => Candidate.rank x < Candidate.rank y) (some c) := by
        induction rest with
        | nil => exact fun _ => rfl
        | cons next rest ih =>
            intro c
            rw [List.foldl_cons, List.foldl_cons, ih, List.argAux]
            congr 1
            simp only [Candidate.better, beq_iff_eq, Candidate.compare_eq_gt_iff]
            split
            · rfl
            · rfl
      exact hfold c

/-! ## The choice -/

theorem isPreferred_iff :
    d.IsPreferred t e ↔ ∃ m n, d.HasFit t m ∧ e.HasFit t n ∧
      (⟨m, d⟩ : Candidate).rank < (⟨n, e⟩ : Candidate).rank := by
  simp only [IsPreferred, Candidate.rank_lt_iff]

theorem IsPreferred.asymm (h : d.IsPreferred t e) : ¬ e.IsPreferred t d := by
  rw [isPreferred_iff] at h ⊢
  obtain ⟨m, n, hm, hn, hlt⟩ := h
  rintro ⟨n', m', hn', hm', hlt'⟩
  rw [hn'.unique hn, hm'.unique hm] at hlt'
  exact lt_asymm hlt hlt'

/-- No two data planes are first among the same ones. -/
theorem IsFirst.unique (hd : IsFirst all need now timeout d)
    (he : IsFirst all need now timeout e) : d = e := by
  by_contra hne
  have hde := hd.preferred e he.mem he.eligible (Ne.symm hne)
  have hed := he.preferred d hd.mem hd.eligible hne
  exact hde.asymm hed

/-- Who is first does not depend on the order of the list. -/
theorem IsFirst.of_perm {other : List DataPlane} (h : all.Perm other)
    (hd : IsFirst all need now timeout d) : IsFirst other need now timeout d where
  mem := h.mem_iff.1 hd.mem
  eligible := hd.eligible
  preferred e he := hd.preferred e (h.mem_iff.2 he)

theorem select_eq_some_iff_argmin :
    select all need now timeout = some d ↔
      ∃ c, (candidates all need now timeout).argmin Candidate.rank = some c ∧ c.dataPlane = d := by
  rw [select, best_eq_argmin, Option.map_eq_some_iff]

/-- Nothing is chosen if nothing is eligible. -/
theorem select_eq_none_iff :
    select all need now timeout = none ↔ ∀ d ∈ all, ¬ d.IsEligible need now timeout := by
  rw [select, Option.map_eq_none_iff, best_eq_argmin, List.argmin_eq_none,
    List.eq_nil_iff_forall_not_mem]
  constructor
  · intro hnone d hd heligible
    obtain ⟨n, hn⟩ := heligible.exists_candidate hd
    exact hnone _ hn
  · intro hnone c hc
    obtain ⟨hd, heligible, -⟩ := mem_candidates_iff.1 hc
    exact hnone _ hd heligible

/-- What is chosen is first, if no two data planes have one id. -/
theorem isFirst_of_select (distinct : (all.map (·.id)).Nodup)
    (h : select all need now timeout = some d) : IsFirst all need now timeout d := by
  obtain ⟨c, hc, rfl⟩ := select_eq_some_iff_argmin.1 h
  obtain ⟨hd, heligible, hfit⟩ := mem_candidates_iff.1 (List.argmin_mem hc)
  refine ⟨hd, heligible, ?_⟩
  intro e he heligible' hne
  obtain ⟨n, hn⟩ := heligible'.exists_candidate he
  have hle : c.rank ≤ (⟨n, e⟩ : Candidate).rank := List.le_of_mem_argmin hn hc
  -- The ids differ, so the ranks do, and the chosen one is not just as good but better.
  have hrank : c.rank ≠ (⟨n, e⟩ : Candidate).rank := by
    intro hsame
    have hid : c.dataPlane.id = e.id := congrArg (fun r => (ofLex (ofLex r).2).2) hsame
    exact hne (List.inj_on_of_nodup_map distinct he hd hid.symm)
  have hfit' := (mem_candidates_iff.1 hn).2.2
  exact isPreferred_iff.2 ⟨c.score, n, hfit, hfit', lt_of_le_of_ne hle hrank⟩

theorem select_eq_some_iff (distinct : (all.map (·.id)).Nodup) :
    select all need now timeout = some d ↔ IsFirst all need now timeout d := by
  constructor
  · exact isFirst_of_select distinct
  · intro hd
    cases h : select all need now timeout with
    | none => exact absurd hd.eligible (select_eq_none_iff.1 h d hd.mem)
    | some e => rw [(isFirst_of_select distinct h).unique hd]

/-- **The choice of a data plane.**  Let no two of some data planes have one id.  None is chosen if
and only if none is live, has every required property with the value asked for, and has a single
capability both ends of which are the mark for any or, up to the case of ASCII letters, the type
asked for.  Otherwise there is exactly one that is preferred to all others of the kind, by the
number of ends that the best of those capabilities names, then by the lesser load, an unreported one
last, then by the lesser id; and that one is chosen.  In whatever order the data planes are listed,
the choice is the same. -/
theorem selects_first (distinct : (all.map (·.id)).Nodup) (need : Need) (now : Instant)
    (timeout : Option Int) :
    (select all need now timeout = none ↔ ∀ d ∈ all, ¬ d.IsEligible need now timeout) ∧
    ((∃ d ∈ all, d.IsEligible need now timeout) →
      ∃! d, IsFirst all need now timeout d) ∧
    (∀ d, select all need now timeout = some d ↔ IsFirst all need now timeout d) ∧
    ∀ other : List DataPlane, all.Perm other →
      select other need now timeout = select all need now timeout := by
  refine ⟨select_eq_none_iff, ?_, fun d => select_eq_some_iff distinct, ?_⟩
  · rintro ⟨d, hd, heligible⟩
    cases h : select all need now timeout with
    | none => exact absurd heligible (select_eq_none_iff.1 h d hd)
    | some e =>
        have he := isFirst_of_select distinct h
        exact ⟨e, he, fun e' he' => he'.unique he⟩
  · intro other hperm
    have distinct' : (other.map (·.id)).Nodup := (hperm.map _).nodup distinct
    apply Option.ext
    intro d
    rw [select_eq_some_iff distinct, select_eq_some_iff distinct']
    exact ⟨IsFirst.of_perm hperm.symm, IsFirst.of_perm hperm⟩

/-- Five data planes: one connects anything, two name both ends, one has the two ends in different
capabilities, and one was not seen in time.  Of the two that name both ends the one that reported a
load is chosen, from whichever side the list is read.  Of the last two none is eligible. -/
theorem selects_first_of_five :
    let plane (id : String) (capabilities : List Capability) (seen : Int) (load : Option Nat) :
        DataPlane := ⟨id, "http://" ++ id, capabilities, [("region", "eu")], ⟨0⟩, ⟨seen⟩, load⟩
    let chosen := plane "c" [⟨"*", "http"⟩, ⟨"Blob", "HTTP"⟩] 40 (some 7)
    let split := plane "d" [⟨"blob", "s3"⟩, ⟨"s3", "http"⟩] 100 none
    let stale := plane "e" [⟨"blob", "http"⟩] 39 (some 0)
    let all := [plane "a" [⟨"*", "*"⟩] 100 (some 0), plane "b" [⟨"blob", "http"⟩] 100 none, chosen,
      split, stale]
    let need : Need := ⟨⟨"blob", "http"⟩, [("region", "eu")]⟩
    (all.map (·.id)).Nodup ∧ IsFirst all need ⟨100⟩ (some 60) chosen ∧
      select all.reverse need ⟨100⟩ (some 60) = some chosen ∧
      ¬ split.IsEligible need ⟨100⟩ (some 60) ∧ ¬ stale.IsEligible need ⟨100⟩ (some 60) := by
  intro plane chosen split stale all need
  have distinct : (all.map (·.id)).Nodup := by decide +kernel
  have hchosen : select all need ⟨100⟩ (some 60) = some chosen := by decide +kernel
  have hnone : select [split, stale] need ⟨100⟩ (some 60) = none := by decide +kernel
  obtain ⟨-, -, hfirst, hperm⟩ := selects_first distinct need ⟨100⟩ (some 60)
  have distinct' : ([split, stale].map (·.id)).Nodup := by decide +kernel
  obtain ⟨hunfit, -, -, -⟩ := selects_first distinct' need ⟨100⟩ (some 60)
  have hrest := hunfit.1 hnone
  refine ⟨distinct, (hfirst chosen).1 hchosen, ?_, hrest split ?_, hrest stale ?_⟩
  · rw [hperm all.reverse (List.reverse_perm all).symm, hchosen]
  · exact List.mem_cons_self
  · exact List.mem_cons_of_mem _ List.mem_cons_self

end DataPlane
end Connector
