import Connector.Proofs.Site.Registry

/-!
# The registry in use

Data planes register, report life and leave while sweeps are under way that drop the stale ones.
A sweep lists the data planes first and then looks at them one at a time; between any two of its
steps everybody else may act, other sweeps too.

A run is a list of deeds.  A deed that cannot happen leaves everything as it is, so that every list
of deeds is a run.  Statements:

* `act_spec` — the access to the store that a deed comes down to;
* `goOn_cases` — what the next step of a sweep does.
-/

namespace Connector

/-- A sweep under way. -/
structure Sweep where
  now : Instant
  cutoff : Instant
  /-- What was listed and is still to be looked at. -/
  rest : List DataPlane
  /-- The ids that were dropped so far, or why the sweep broke off. -/
  result : Except RegistryFault (List String)

namespace Sweep

/-- A sweep that has nothing to look at. -/
def idle (now : Instant) (result : Except RegistryFault (List String)) : Sweep :=
  ⟨now, now, [], result⟩

/-- Begins a sweep: the data planes are listed. -/
def start (now : Instant) : SiteM Sweep := do
  match (← get).liveness with
  | none => return idle now (.ok [])
  | some timeout =>
      match now.later? (-timeout) with
      | none => return idle now (.error .clock)
      | some cutoff =>
          match ← SiteM.listDataPlanes with
          | .error e => return idle now (.error (.store e))
          | .ok all => return ⟨now, cutoff, all, .ok []⟩

/-- The sweep after it has looked at a data plane. -/
def advanced (x : Sweep) (rest : List DataPlane) : Except RegistryFault (Option String) → Sweep
  | .ok dropped => { x with rest := rest, result := x.result.map (· ++ dropped.toList) }
  | .error e => { x with rest := [], result := .error e }

/-- Looks at the next of the data planes that were listed. -/
def goOn (x : Sweep) : SiteM Sweep := do
  match x.rest with
  | [] => return x
  | d :: rest => return x.advanced rest (← SiteM.evictOne x.now x.cutoff d)

/-- The id that the next step of a sweep drops. -/
def dropped? (x : Sweep) (s : Site) : Option String :=
  match x.rest with
  | [] => none
  | d :: _ =>
      match (SiteM.evictOne x.now x.cutoff d s).1 with
      | .ok dropped => dropped
      | .error _ => none

end Sweep

/-- A site, and the sweeps that were begun at it. -/
structure Roster where
  site : Site
  sweeps : List Sweep

/-- What may happen at the registry next. -/
inductive Deed where
  | register (d : DataPlane)
  | deregister (id : String)
  | heartbeat (id : String) (load : Option Nat)
  /-- A sweep begins, as of an instant. -/
  | sweep (now : Instant)
  /-- The sweep of a number looks at the next data plane. -/
  | goOn (i : Nat)
  /-- It is another time now. -/
  | pass (t : Instant)
  /-- Something happens to the site that does not concern the registry. -/
  | upkeep (f : Site → Site)

namespace Roster

/-- A new site, before anything happened. -/
def start (now : Instant) (capacity : Nat) (liveness : Option Int) : Roster :=
  ⟨.create now capacity liveness, []⟩

/-- The data plane of an id. -/
def find? (w : Roster) (id : String) : Option DataPlane := w.site.dataPlanes.find? id

/-- Lets the sweep of a number go on. -/
def goOn (w : Roster) (i : Nat) : Roster :=
  match w.sweeps[i]? with
  | some x => ⟨(x.goOn w.site).2, w.sweeps.set i (x.goOn w.site).1⟩
  | none => w

/-- The roster after a deed. -/
def act (w : Roster) : Deed → Roster
  | .register d => { w with site := (SiteM.register d w.site).2 }
  | .deregister id => { w with site := (SiteM.deregister id w.site).2 }
  | .heartbeat id load => { w with site := (SiteM.heartbeat id load w.site).2 }
  | .sweep now => ⟨(Sweep.start now w.site).2, w.sweeps ++ [(Sweep.start now w.site).1]⟩
  | .goOn i => w.goOn i
  | .pass t => { w with site := { w.site with now := t } }
  | .upkeep f =>
      { w with
        site := { f w.site with
          now := w.site.now, dataPlanes := w.site.dataPlanes, liveness := w.site.liveness,
          failing := w.site.failing } }

/-- The roster after a run. -/
def run (w : Roster) (deeds : List Deed) : Roster := deeds.foldl act w

/-- The id that the next step of the sweep of a number drops. -/
def dropped? (w : Roster) (i : Nat) : Option String := w.sweeps[i]?.bind (·.dropped? w.site)

/-- The data planes after the access that a deed comes down to. -/
def accessed (w : Roster) : Deed → DataPlanes
  | .register d =>
      match d.validate with
      | .ok () => (w.site.dataPlanes.save (d.registered w.site.now)).2
      | .error _ => w.site.dataPlanes
  | .deregister id => (w.site.dataPlanes.delete id).2
  | .heartbeat id load => (w.site.dataPlanes.touch id w.site.now load).2
  | .goOn i =>
      match w.dropped? i with
      | some id => (w.site.dataPlanes.delete id).2
      | none => w.site.dataPlanes
  | .sweep _ | .pass _ | .upkeep _ => w.site.dataPlanes

/-- No access is arranged to fail, and every data plane is under its own id. -/
structure IsOrderly (w : Roster) : Prop where
  calm : w.site.failing = []
  isKeyed : w.site.dataPlanes.IsKeyed

theorem isOrderly_start (now : Instant) (capacity : Nat) (liveness : Option Int) :
    (start now capacity liveness).IsOrderly :=
  ⟨rfl, DataPlanes.isKeyed_empty⟩

@[simp] theorem run_nil (w : Roster) : w.run [] = w := rfl

@[simp] theorem run_cons (w : Roster) (a : Deed) (rest : List Deed) :
    w.run (a :: rest) = (w.act a).run rest := rfl

variable {w : Roster} {a : Deed} {i : Nat} {x : Sweep} {d : DataPlane} {rest : List DataPlane}

/-! ## Steps of a sweep -/

/-- A sweep begins with the list of the data planes, if they can go stale by its instant. -/
theorem start_eq (calm : w.site.failing = []) {now cutoff : Instant} {timeout : Int}
    (hlive : w.site.liveness = some timeout) (hcutoff : now.later? (-timeout) = some cutoff) :
    Sweep.start now w.site = (⟨now, cutoff, w.site.dataPlanes.list, .ok []⟩, w.site) := by
  rw [Sweep.start, SiteM.bind_eq (SiteM.get_eq w.site), hlive]
  dsimp only
  rw [hcutoff]
  exact SiteM.bind_eq (SiteM.listDataPlanes_eq calm)

/-- Without a timeout a sweep has nothing to look at. -/
theorem start_of_none (hlive : w.site.liveness = none) (now : Instant) :
    Sweep.start now w.site = (.idle now (.ok []), w.site) := by
  rw [Sweep.start, SiteM.bind_eq (SiteM.get_eq w.site), hlive]
  rfl

theorem start_of_beyond {now : Instant} {timeout : Int} (hlive : w.site.liveness = some timeout)
    (hbeyond : now.later? (-timeout) = none) :
    Sweep.start now w.site = (.idle now (.error .clock), w.site) := by
  rw [Sweep.start, SiteM.bind_eq (SiteM.get_eq w.site), hlive]
  dsimp only
  rw [hbeyond]
  rfl

/-- The beginning of a sweep leaves the site alone. -/
theorem start_site (calm : w.site.failing = []) (now : Instant) :
    (Sweep.start now w.site).2 = w.site := by
  cases hlive : w.site.liveness with
  | none => rw [start_of_none hlive]
  | some timeout =>
      cases hcutoff : now.later? (-timeout) with
      | none => rw [start_of_beyond hlive hcutoff]
      | some cutoff => rw [start_eq calm hlive hcutoff]

theorem goOn_of_nil (hx : w.sweeps[i]? = some x) (hrest : x.rest = []) :
    w.act (.goOn i) = w ∧ w.dropped? i = none := by
  have hgoOn : x.goOn w.site = (x, w.site) := by
    unfold Sweep.goOn
    rw [hrest]
    rfl
  have hsame : w.sweeps.set i x = w.sweeps := by
    obtain ⟨hlt, rfl⟩ := List.getElem?_eq_some_iff.1 hx
    exact List.set_getElem_self hlt
  constructor
  · simp only [act, goOn, hx, hgoOn, hsame]
  · simp only [dropped?, hx, Option.bind_some, Sweep.dropped?, hrest]

theorem goOn_of_none (hx : w.sweeps[i]? = none) : w.act (.goOn i) = w ∧ w.dropped? i = none := by
  constructor
  · simp only [act, goOn, hx]
  · simp only [dropped?, hx, Option.bind_none]

/-- What the next step of a sweep does.  It drops the data plane that is next if that was not live
when it was listed and the one that is there is stale now; else it passes it over. -/
theorem goOn_cases (calm : w.site.failing = []) (hx : w.sweeps[i]? = some x)
    (hrest : x.rest = d :: rest) :
    ((d.isLive x.now w.site.liveness = false ∧
        w.site.dataPlanes.isStale d.id x.cutoff = true) ∧
      w.dropped? i = some d.id ∧
      (w.act (.goOn i)).sweeps = w.sweeps.set i (x.advanced rest (.ok (some d.id))) ∧
      w.site.Becomes (w.site.dataPlanes.delete d.id).2
        [.dataPlane (.evicted d.id d.lastSeen x.now)] (w.act (.goOn i)).site) ∨
    ((d.isLive x.now w.site.liveness = true ∨
        w.site.dataPlanes.isStale d.id x.cutoff = false) ∧
      w.dropped? i = none ∧
      w.act (.goOn i) = ⟨w.site, w.sweeps.set i (x.advanced rest (.ok none))⟩) := by
  have hgoOn : ∀ r s, SiteM.evictOne x.now x.cutoff d w.site = (r, s) →
      x.goOn w.site = (x.advanced rest r, s) := by
    intro r s h
    unfold Sweep.goOn
    rw [hrest]
    exact SiteM.bind_eq h
  have hdropped : ∀ r s, SiteM.evictOne x.now x.cutoff d w.site = (.ok r, s) →
      w.dropped? i = r := by
    intro r s h
    simp only [dropped?, hx, Option.bind_some, Sweep.dropped?, hrest, h]
  rcases SiteM.evictOne_cases calm x.now x.cutoff d with ⟨hstale, hanswer, hsite⟩ | ⟨hspared, heq⟩
  · have heq : SiteM.evictOne x.now x.cutoff d w.site = (.ok (some d.id), _) :=
      Prod.ext hanswer rfl
    refine Or.inl ⟨hstale, hdropped _ _ heq, ?_, ?_⟩
    · simp only [act, goOn, hx, hgoOn _ _ heq]
    · simpa only [act, goOn, hx, hgoOn _ _ heq] using hsite
  · refine Or.inr ⟨hspared, hdropped _ _ heq, ?_⟩
    simp only [act, goOn, hx, hgoOn _ _ heq]

/-! ## Deeds -/

/-- What becomes of the data planes when a sweep goes on. -/
theorem becomes_goOn (calm : w.site.failing = []) (i : Nat) :
    ∃ es, w.site.Becomes (w.accessed (.goOn i)) es (w.act (.goOn i)).site := by
  have hidle : w.act (.goOn i) = w ∧ w.dropped? i = none →
      ∃ es, w.site.Becomes (w.accessed (.goOn i)) es (w.act (.goOn i)).site := by
    rintro ⟨hsame, hnone⟩
    rw [hsame, accessed, hnone]
    exact ⟨[], .refl _⟩
  cases hx : w.sweeps[i]? with
  | none => exact hidle (goOn_of_none hx)
  | some x =>
      cases hrest : x.rest with
      | nil => exact hidle (goOn_of_nil hx hrest)
      | cons d rest =>
          rcases goOn_cases calm hx hrest with ⟨-, hdropped, -, hsite⟩ | ⟨-, hnone, heq⟩
          · rw [accessed, hdropped]
            exact ⟨_, hsite⟩
          · rw [heq, accessed, hnone]
            exact ⟨[], .refl _⟩

/-- **What a deed does.**  It comes down to one access to the data planes at most, and arranges
neither failures nor another timeout. -/
theorem act_spec (calm : w.site.failing = []) (a : Deed) :
    (w.act a).site.dataPlanes = w.accessed a ∧ (w.act a).site.failing = [] ∧
      (w.act a).site.liveness = w.site.liveness := by
  have hbecomes : ∀ es, w.site.Becomes (w.accessed a) es (w.act a).site →
      (w.act a).site.dataPlanes = w.accessed a ∧ (w.act a).site.failing = [] ∧
        (w.act a).site.liveness = w.site.liveness := fun es h =>
    ⟨h.dataPlanes_eq, h.failing_eq.trans calm, h.liveness_eq⟩
  cases a with
  | register d =>
      cases hvalid : d.validate with
      | ok =>
          have h := (SiteM.register_of_ok calm hvalid).2
          exact hbecomes _ (by simpa only [act, accessed, hvalid] using h)
      | error defect =>
          have h := SiteM.register_of_error (s := w.site) hvalid
          have hsite : (w.act (.register d)).site = w.site := by simp only [act, h]
          exact hbecomes [] (by simpa only [accessed, hvalid, hsite] using .refl w.site)
  | deregister id => exact hbecomes _ (SiteM.deregister_spec calm id).2
  | heartbeat id load =>
      have h := SiteM.heartbeat_spec calm id load
      have hsite : (w.act (.heartbeat id load)).site =
          { w.site with dataPlanes := w.accessed (.heartbeat id load) } := by
        simp only [act, accessed, h]
      exact hbecomes [] ⟨w.site.notes, hsite⟩
  | sweep now =>
      have hsite : (w.act (.sweep now)).site = w.site := start_site calm now
      exact hbecomes [] (by simpa only [accessed, hsite] using .refl w.site)
  | goOn i =>
      obtain ⟨es, h⟩ := becomes_goOn calm i
      exact hbecomes es h
  | pass t => exact ⟨rfl, calm, rfl⟩
  | upkeep f => exact ⟨rfl, calm, rfl⟩

theorem liveness_act (hw : w.IsOrderly) (a : Deed) :
    (w.act a).site.liveness = w.site.liveness :=
  (act_spec hw.calm a).2.2

theorem isOrderly_act (hw : w.IsOrderly) (a : Deed) : (w.act a).IsOrderly := by
  obtain ⟨hdataPlanes, hcalm, -⟩ := act_spec hw.calm a
  refine ⟨hcalm, ?_⟩
  rw [hdataPlanes]
  cases a with
  | register d =>
      simp only [accessed]
      split
      · exact DataPlanes.isKeyed_save hw.isKeyed _
      · exact hw.isKeyed
  | deregister id => exact DataPlanes.isKeyed_delete hw.isKeyed id
  | heartbeat id load => exact DataPlanes.isKeyed_touch hw.isKeyed id _ load
  | goOn i =>
      simp only [accessed]
      split
      · exact DataPlanes.isKeyed_delete hw.isKeyed _
      · exact hw.isKeyed
  | sweep | pass | upkeep => exact hw.isKeyed

/-- Every run leaves the registry in order, and the timeout as it is. -/
theorem isOrderly_run (hw : w.IsOrderly) (deeds : List Deed) : (w.run deeds).IsOrderly := by
  induction deeds generalizing w with
  | nil => exact hw
  | cons a rest ih => exact ih (isOrderly_act hw a)

theorem liveness_run (hw : w.IsOrderly) (deeds : List Deed) :
    (w.run deeds).site.liveness = w.site.liveness := by
  induction deeds generalizing w with
  | nil => rfl
  | cons a rest ih => exact (ih (isOrderly_act hw a)).trans (liveness_act hw a)

end Roster
end Connector
