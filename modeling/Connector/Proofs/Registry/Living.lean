import Connector.Proofs.DataPlane.Selection
import Connector.Proofs.Registry.Eviction
import Connector.Proofs.Site.Opening

/-!
# What a sweep leaves

A sweep that nobody comes between finds every data plane as it listed it.  So it drops exactly
those that are not live (`evictEach_swept`), and the ones that are left are `DataPlanes.living`.

A data plane that is not live at one moment is not live at a later one, unless it reports life.  So
the ones that a sweep dropped could not have been chosen from then on, and whoever asks for a data
plane is answered as if there had been no sweep.

* `eviction_invisible` — what is dropped, what is left, and that nobody who asks for a data plane
  can tell.
-/

namespace Connector

variable {now later cutoff : Instant} {timeout : Option Int} {limit : Int}

namespace DataPlane

/-- What is live later is live now. -/
theorem isLive_of_later {d : DataPlane} (h : now ≤ later) (hlive : d.isLive later timeout = true) :
    d.isLive now timeout = true := by
  rw [isLive_iff] at hlive ⊢
  intro limit hlimit
  have hle : now.nanos ≤ later.nanos := h
  have hsince : later.nanos - d.lastSeen.nanos ≤ limit := hlive limit hlimit
  show now.nanos - d.lastSeen.nanos ≤ limit
  omega

/-- What is not live now is not chosen later, so that it may as well not be there. -/
theorem select_filter_isLive (all : List DataPlane) (need : Need) (timeout : Option Int)
    (h : now ≤ later) :
    select (all.filter (·.isLive now timeout)) need later timeout =
      select all need later timeout := by
  have hlive : ∀ d : DataPlane,
      (d.isLive later timeout && d.isLive now timeout) = d.isLive later timeout := by
    intro d
    cases hd : d.isLive later timeout with
    | true => rw [isLive_of_later h hd, Bool.and_self]
    | false => rw [Bool.false_and]
  simp only [select, candidates, List.filter_filter, hlive]

end DataPlane

namespace DataPlanes

variable {s : DataPlanes} {d : DataPlane} {id : String}

/-- The data planes that are live at an instant. -/
def living (s : DataPlanes) (now : Instant) (timeout : Option Int) : DataPlanes :=
  ⟨s.records.filter fun e => e.2.isLive now timeout⟩

/-- The data planes but those of some ids. -/
def without (s : DataPlanes) (ids : List String) : DataPlanes :=
  ⟨s.records.filter fun e => e.1 ∉ ids⟩

/-- The ids of the data planes that are not live at an instant, in their order. -/
def deadIds (s : DataPlanes) (now : Instant) (timeout : Option Int) : List String :=
  (s.list.filter fun d => !d.isLive now timeout).map (·.id)

theorem list_living (s : DataPlanes) (now : Instant) (timeout : Option Int) :
    (s.living now timeout).list = s.list.filter (·.isLive now timeout) := by
  rw [list, list, living, Table.values, Table.values, List.filter_map]
  rfl

theorem isKeyed_living (hs : s.IsKeyed) (now : Instant) (timeout : Option Int) :
    (s.living now timeout).IsKeyed :=
  ⟨hs.isSorted.filter _, fun e he => hs.id_eq e (List.mem_filter.1 he).1⟩

/-- Under an id is what was there, if it is live. -/
theorem find?_living (hs : s.IsKeyed) (now : Instant) (timeout : Option Int) (id : String) :
    (s.living now timeout).find? id = (s.find? id).filter (·.isLive now timeout) := by
  apply Option.ext
  intro d
  have hkeyed := isKeyed_living hs now timeout
  rw [Option.filter_eq_some_iff, find?, find?, Table.get?_eq_some_iff hkeyed.isSorted,
    Table.get?_eq_some_iff hs.isSorted]
  exact List.mem_filter

theorem living_none (s : DataPlanes) (now : Instant) : s.living now none = s := by
  have hall : s.records.filter (fun e => e.2.isLive now none) = s.records :=
    List.filter_eq_self.2 fun _ _ => rfl
  rw [living, hall]

theorem deadIds_none (s : DataPlanes) (now : Instant) : s.deadIds now none = [] := by
  have hnone : s.list.filter (fun d => !d.isLive now none) = [] :=
    List.filter_eq_nil_iff.2 fun _ _ => Bool.false_ne_true
  rw [deadIds, hnone, List.map_nil]

theorem without_nil (s : DataPlanes) : s.without [] = s := by
  have hall : s.records.filter (fun e => decide (e.1 ∉ ([] : List String))) = s.records :=
    List.filter_eq_self.2 fun _ _ => decide_eq_true List.not_mem_nil
  rw [without, hall]

/-- To be without some ids the entries are deleted one after the other. -/
theorem without_cons (s : DataPlanes) (id : String) (ids : List String) :
    s.without (id :: ids) = (s.delete id).2.without ids := by
  simp only [without, delete, Table.remove, List.filter_filter]
  congr 1
  apply List.filter_congr
  intro e _
  by_cases h : e.1 = id
  · simp [h]
  · simp [h]

/-- The living are what is there without the ids of the dead. -/
theorem without_deadIds (hs : s.IsKeyed) (now : Instant) (timeout : Option Int) :
    s.without (s.deadIds now timeout) = s.living now timeout := by
  rw [without, living]
  congr 1
  apply List.filter_congr
  intro e he
  have hdead : e.1 ∈ s.deadIds now timeout ↔ e.2.isLive now timeout = false := by
    rw [deadIds, List.mem_map]
    constructor
    · rintro ⟨d, hd, hid⟩
      obtain ⟨hmem, hlive⟩ := List.mem_filter.1 hd
      -- One id has one data plane.
      have hthere : s.find? e.1 = some d := by
        rw [← hid]
        exact (mem_list_iff hs).1 hmem
      have hsame : s.find? e.1 = some e.2 := (Table.get?_eq_some_iff hs.isSorted).2 he
      have heq : d = e.2 := Option.some.inj (hthere.symm.trans hsame)
      rw [← heq]
      simpa using hlive
    · intro hlive
      refine ⟨e.2, List.mem_filter.2 ⟨List.mem_map.2 ⟨e, he, rfl⟩, ?_⟩, hs.id_eq e he⟩
      rw [hlive, Bool.not_false]
  cases hlive : e.2.isLive now timeout with
  | true => simp [hdead, hlive]
  | false => simp [hdead, hlive]

end DataPlanes

namespace SiteM

variable {s : Site} {d : DataPlane}

/-- What is told of the data planes that are dropped. -/
def evictions (now : Instant) (dropped : List DataPlane) : List Event :=
  dropped.map fun d => .dataPlane (.evicted d.id d.lastSeen now)

/-- What is passed over leaves the rest of a sweep as it is. -/
theorem evictEach_cons_of_none {rest : List DataPlane}
    (hnone : evictOne now cutoff d s = (.ok none, s)) :
    evictEach now cutoff (d :: rest) s = evictEach now cutoff rest s := by
  rw [evictEach]
  refine (bind_eq hnone).trans ?_
  cases hmore : (evictEach now cutoff rest s).1 with
  | error e => exact (bind_eq (Prod.ext hmore rfl)).trans (Prod.ext hmore.symm rfl)
  | ok more => exact (bind_eq (Prod.ext hmore rfl)).trans (Prod.ext hmore.symm rfl)

/-- Of some data planes that are there as they are listed, each once, the ones that are not live are
dropped. -/
theorem evictEach_swept (calm : s.failing = []) (hlimit : s.liveness = some limit)
    (hcutoff : now.later? (-limit) = some cutoff) {listed : List DataPlane}
    (distinct : listed.Pairwise fun d e => d.id ≠ e.id)
    (found : ∀ d ∈ listed, s.dataPlanes.find? d.id = some d) :
    let dropped := listed.filter fun d => !d.isLive now (some limit)
    (evictEach now cutoff listed s).1 = .ok (dropped.map (·.id)) ∧
      s.Becomes (s.dataPlanes.without (dropped.map (·.id))) (evictions now dropped)
        (evictEach now cutoff listed s).2 := by
  induction listed generalizing s with
  | nil =>
      refine ⟨rfl, ?_⟩
      show s.Becomes (s.dataPlanes.without []) [] s
      rw [DataPlanes.without_nil]
      exact .refl s
  | cons d rest ih =>
      obtain ⟨hd, hrest⟩ := List.pairwise_cons.1 distinct
      obtain ⟨hthere, hfound⟩ := List.forall_mem_cons.1 found
      cases hlive : d.isLive now (some limit) with
      | true =>
          have hone : evictOne now cutoff d s = (.ok none, s) :=
            evictOne_of_not_stale calm (Or.inl (by rw [hlimit, hlive]))
          rw [List.filter_cons_of_neg (by rw [hlive]; exact Bool.false_ne_true),
            evictEach_cons_of_none hone]
          exact ih calm hlimit hrest hfound
      | false =>
          have hlt : d.lastSeen < cutoff := (DataPlane.not_isLive_iff hcutoff d).1 hlive
          have hstale : s.dataPlanes.isStale d.id cutoff = true :=
            DataPlanes.isStale_iff.2 ⟨d, hthere, hlt⟩
          obtain ⟨hone, hafter⟩ := evictOne_of_stale calm (by rw [hlimit, hlive]) hstale
          -- The others are there as listed still, as they have other ids.
          have hfound' : ∀ e ∈ rest,
              (evictOne now cutoff d s).2.dataPlanes.find? e.id = some e := by
            intro e he
            rw [hafter.dataPlanes_eq, DataPlanes.find?_deleted, if_neg (Ne.symm (hd e he))]
            exact hfound e he
          obtain ⟨hanswer, hbecomes⟩ := ih (hafter.failing_eq.trans calm)
            (hafter.liveness_eq.trans hlimit) hrest hfound'
          intro dropped
          have hdropped : dropped = d :: rest.filter fun d => !d.isLive now (some limit) :=
            List.filter_cons_of_pos (by rw [hlive, Bool.not_false])
          rw [hdropped, evictEach_cons hone hanswer, List.map_cons, DataPlanes.without_cons,
            ← hafter.dataPlanes_eq]
          exact ⟨rfl, hafter.trans hbecomes⟩

/-- A sweep that nobody comes between drops the data planes that are not live, and leaves those that
are. -/
theorem evictStale_swept (calm : s.failing = []) (keyed : s.dataPlanes.IsKeyed)
    (reaches : now.Reaches s.liveness) :
    ∃ es, (evictStale now s).1 = .ok (s.dataPlanes.deadIds now s.liveness) ∧
      s.Becomes (s.dataPlanes.living now s.liveness) es (evictStale now s).2 := by
  cases hlimit : s.liveness with
  | none =>
      rw [evictStale_of_none hlimit, DataPlanes.deadIds_none, DataPlanes.living_none]
      exact ⟨[], rfl, .refl s⟩
  | some limit =>
      obtain ⟨cutoff, hcutoff⟩ := reaches limit hlimit
      have hdistinct : s.dataPlanes.list.Pairwise fun d e => d.id ≠ e.id :=
        (DataPlanes.pairwise_list keyed).imp String.ne_of_lt
      obtain ⟨hanswer, hbecomes⟩ := evictEach_swept calm hlimit hcutoff hdistinct
        fun d hd => (DataPlanes.mem_list_iff keyed).1 hd
      rw [evictStale_eq calm hlimit hcutoff, ← DataPlanes.without_deadIds keyed]
      exact ⟨_, hanswer, hbecomes⟩

/-- Where all are live nothing is dropped. -/
theorem evictEach_of_living (calm : s.failing = []) {listed : List DataPlane}
    (living : ∀ d ∈ listed, d.isLive now s.liveness = true) :
    evictEach now cutoff listed s = (.ok [], s) := by
  induction listed with
  | nil => rfl
  | cons d rest ih =>
      obtain ⟨hd, hrest⟩ := List.forall_mem_cons.1 living
      rw [evictEach_cons_of_none (evictOne_of_not_stale calm (Or.inl hd))]
      exact ih hrest

/-- A sweep that finds only live data planes does nothing. -/
theorem evictStale_of_living (calm : s.failing = []) (reaches : now.Reaches s.liveness)
    (living : ∀ d ∈ s.dataPlanes.list, d.isLive now s.liveness = true) :
    evictStale now s = (.ok [], s) := by
  cases hlimit : s.liveness with
  | none => exact evictStale_of_none hlimit now
  | some limit =>
      obtain ⟨cutoff, hcutoff⟩ := reaches limit hlimit
      rw [evictStale_eq calm hlimit hcutoff]
      exact evictEach_of_living calm living

/-- What is chosen depends on the list of the data planes, the time and the timeout. -/
theorem select_fst (calm : s.failing = []) (need : DataPlane.Need) :
    (select need s).1 =
      match DataPlane.select s.dataPlanes.list need s.now s.liveness with
      | some d => .ok d
      | none => .error (.noneCapable need.transferType) := by
  rw [select, bind_eq (listDataPlanes_eq calm)]
  dsimp only
  rw [bind_eq (get_eq s)]
  cases DataPlane.select s.dataPlanes.list need s.now s.liveness <;> rfl

/-- **Nobody can tell that stale data planes were dropped.**  Let the clock reach back by the
timeout, if there is one.  A sweep as of an instant that nobody comes between
* has the ids of the data planes as its result that are not live at this instant;
* leaves exactly those that are: under every id is what was there, if it is live;
* changes no answer to a choice that is made at this instant, or later, whatever is asked for: the
  same data plane is chosen, or the same failure is told;
* leaves nothing to do: a second sweep as of the same instant has no result and changes nothing. -/
theorem eviction_invisible (calm : s.failing = []) (keyed : s.dataPlanes.IsKeyed)
    (reaches : now.Reaches s.liveness) :
    ∃ ids t, evictStale now s = (.ok ids, t) ∧
      ids = (s.dataPlanes.list.filter fun d => !d.isLive now s.liveness).map (·.id) ∧
      (∀ id, t.dataPlanes.find? id =
        (s.dataPlanes.find? id).filter (·.isLive now s.liveness)) ∧
      t.dataPlanes.list = s.dataPlanes.list.filter (·.isLive now s.liveness) ∧
      (∀ (need : DataPlane.Need) (later : Instant), now ≤ later →
        (select need { t with now := later }).1 = (select need { s with now := later }).1) ∧
      evictStale now t = (.ok [], t) := by
  obtain ⟨es, hanswer, hbecomes⟩ := evictStale_swept calm keyed reaches
  have hlist : (evictStale now s).2.dataPlanes.list =
      s.dataPlanes.list.filter (·.isLive now s.liveness) := by
    rw [hbecomes.dataPlanes_eq, DataPlanes.list_living]
  have hcalm := hbecomes.failing_eq.trans calm
  refine ⟨_, _, Prod.ext hanswer rfl, rfl, ?_, hlist, ?_, ?_⟩
  · intro id
    rw [hbecomes.dataPlanes_eq, DataPlanes.find?_living keyed]
  · intro need later hle
    have hafter : ({ (evictStale now s).2 with now := later } : Site).failing = [] := hcalm
    have hbefore : ({ s with now := later } : Site).failing = [] := calm
    have hsame := DataPlane.select_filter_isLive s.dataPlanes.list need s.liveness hle
    rw [select_fst hafter, select_fst hbefore]
    dsimp only
    rw [hlist, hbecomes.liveness_eq, hsame]
  · apply evictStale_of_living hcalm
    · rw [hbecomes.liveness_eq]
      exact reaches
    · intro d hd
      rw [hlist] at hd
      rw [hbecomes.liveness_eq]
      exact (List.mem_filter.1 hd).2

/-- Of three data planes one was seen as long ago as the timeout, one a nanosecond longer ago, and
one just now.  The second one is dropped, which names both ends; the first one was chosen before,
and is chosen afterwards. -/
theorem eviction_invisible_at_limit :
    let plane (id source : String) : DataPlane :=
      ⟨id, "http://" ++ id, [⟨source, "http"⟩], [], ⟨0⟩, ⟨0⟩, none⟩
    let w := (Roster.start ⟨49⟩ 4 (some 100)).run
      [.register (plane "b" "s3"), .pass ⟨50⟩, .register (plane "a" "*"), .pass ⟨150⟩,
       .register (plane "c" "*")]
    let s := w.site
    let need : DataPlane.Need := ⟨⟨"s3", "http"⟩, []⟩
    s.failing = [] ∧ s.dataPlanes.IsKeyed ∧ (⟨150⟩ : Instant).Reaches s.liveness ∧
      ∃ t, evictStale ⟨150⟩ s = (.ok ["b"], t) ∧ t.dataPlanes.list.map (·.id) = ["a", "c"] ∧
        (select need { t with now := ⟨150⟩ }).1.map (·.id) = .ok "a" := by
  intro plane w s need
  have hw : w.IsOrderly := Roster.isOrderly_run (Roster.isOrderly_start _ _ _) _
  have hlimit : s.liveness = some 100 := Roster.liveness_run (Roster.isOrderly_start _ _ _) _
  have reaches : (⟨150⟩ : Instant).Reaches s.liveness := by
    intro limit h
    rw [hlimit] at h
    cases h
    exact ⟨⟨50⟩, by decide +kernel⟩
  obtain ⟨ids, t, hswept, hids, -, hlist, hsame, -⟩ :=
    eviction_invisible hw.calm hw.isKeyed reaches
  have hdropped : ids = ["b"] := hids.trans (by decide +kernel)
  subst hdropped
  refine ⟨hw.calm, hw.isKeyed, reaches, t, hswept, ?_, ?_⟩
  · rw [hlist]
    decide +kernel
  · rw [hsame need ⟨150⟩ (Int.le_refl 150)]
    decide +kernel

end SiteM
end Connector
