import Connector.Proofs.Config.Validation
import Connector.Proofs.Site.Registry
import Connector.Site.Opening

/-!
# A connector opens with what is configured

As a connector opens, its data planes register one after the other.  One whose id is configured
again gives way to the later one, so that afterwards the entry of an id is the last configuration
of it.  Nothing else happens to the site but notes, events, and the binding of policies.
Statements:

* `registerStatic_spec`, `openWith_spec` — a configuration that is in order opens with records in
  memory;
* `evictStale_spec` — stale data planes can be dropped if the clock reaches back by the timeout.
-/

namespace Connector

/-- The clock reaches back from an instant by a timeout, if there is one. -/
def Instant.Reaches (t : Instant) (timeout : Option Int) : Prop :=
  ∀ distance, timeout = some distance → ∃ cutoff, t.later? (-distance) = some cutoff

/-- The last configuration of an id. -/
def Config.lastOf? (cs : List StaticDataPlane) (id : String) : Option StaticDataPlane :=
  cs.reverse.find? (·.id == id)

/-- No transfer came to a site yet, and nothing is arranged to fail at it. -/
structure Site.IsIdle (s : Site) (liveness : Option Int) (now : Instant) : Prop where
  calm : s.failing = []
  transfers_eq : s.transfers = .empty
  liveness_eq : s.liveness = liveness
  now_eq : s.now = now

variable {s t : Site} {r : DataPlanes} {es : List Event} {liveness : Option Int} {now : Instant}
  {cs : List Config.StaticDataPlane} {c : Config.StaticDataPlane} {m : Config.Manifest}

theorem Site.IsIdle.of_becomes (hs : s.IsIdle liveness now) (h : s.Becomes r es t) :
    t.IsIdle liveness now :=
  ⟨h.failing_eq.trans hs.calm, h.transfers_eq.trans hs.transfers_eq,
    h.liveness_eq.trans hs.liveness_eq, h.now_eq.trans hs.now_eq⟩

theorem Site.isIdle_ofManifest (m : Config.Manifest) (now : Instant) :
    (Site.ofManifest m now).IsIdle m.spec.dataPlanes.livenessDistance? now :=
  ⟨rfl, rfl, rfl, rfl⟩

/-! ## The configured data planes -/

theorem Config.lastOf?_cons (c : StaticDataPlane) (rest : List StaticDataPlane) (id : String) :
    lastOf? (c :: rest) id = (lastOf? rest id).or (if c.id = id then some c else none) := by
  rw [lastOf?, List.reverse_cons, List.find?_append, ← lastOf?, List.find?_singleton]
  simp only [beq_iff_eq]

theorem Config.mem_of_lastOf? {id : String} (h : lastOf? cs id = some c) : c ∈ cs :=
  List.mem_reverse.1 (List.mem_of_find?_eq_some h)

theorem Config.id_of_lastOf? {id : String} (h : lastOf? cs id = some c) : c.id = id := by
  have hfound := List.find?_some h
  exact beq_iff_eq.1 hfound

/-- Every id that is configured has a last configuration. -/
theorem Config.exists_lastOf? (hc : c ∈ cs) : ∃ c', lastOf? cs c.id = some c' := by
  rw [← Option.isSome_iff_exists, lastOf?, List.find?_isSome]
  exact ⟨c, List.mem_reverse.2 hc, beq_self_eq_true _⟩

namespace SiteM

/-- Configured data planes register if nothing is wrong with them; the entry of an id is its last
configuration then. -/
theorem registerStatic_spec (calm : s.failing = []) (faultless : ∀ c ∈ cs, c.fault? = none) :
    ∃ ds r es, (registerStatic cs s).1 = .ok ds ∧
      s.Becomes r es (registerStatic cs s).2 ∧
      ∀ id, r.find? id = match Config.lastOf? cs id with
        | some c => (c.toDataPlane s.now).toOption
        | none => s.dataPlanes.find? id := by
  induction cs generalizing s with
  | nil => exact ⟨[], _, [], rfl, .refl s, fun _ => rfl⟩
  | cons c rest ih =>
      obtain ⟨hfirst, hrest⟩ := List.forall_mem_cons.1 faultless
      obtain ⟨d, hd⟩ := Config.StaticDataPlane.toDataPlane_of_fault? hfirst s.now
      obtain ⟨hid, hvalid, hsame⟩ := Config.StaticDataPlane.of_toDataPlane hd
      obtain ⟨hanswer, hbecomes⟩ := register_of_ok calm hvalid
      rw [show d.registered s.now = d from hsame] at hbecomes
      obtain ⟨ds, r, es, hmore, hlater, hfind⟩ := ih (hbecomes.failing_eq.trans calm) hrest
      have heq : registerStatic (c :: rest) s =
          (.ok (d :: ds), (registerStatic rest (register d s).2).2) := by
        rw [registerStatic, bind_eq (get_eq s), hd]
        exact (bind_eq (Prod.ext hanswer rfl)).trans (bind_eq (Prod.ext hmore rfl))
      rw [heq]
      refine ⟨d :: ds, r, _, rfl, hbecomes.trans hlater, ?_⟩
      intro id
      rw [hfind, Config.lastOf?_cons, hbecomes.now_eq, hbecomes.dataPlanes_eq,
        DataPlanes.find?_saved, hid]
      cases Config.lastOf? rest id with
      | some c' => rfl
      | none =>
          rw [Option.none_or]
          by_cases h : c.id = id
          · rw [if_pos h, if_pos h.symm]
            simp only [hd, Except.toOption]
          · rw [if_neg h, if_neg (Ne.symm h)]

/-- What registered has the configured ids, in their order. -/
theorem ids_of_registerStatic {ds : List DataPlane} (h : (registerStatic cs s).1 = .ok ds) :
    ds.map (·.id) = cs.map (·.id) := by
  induction cs generalizing s ds with
  | nil =>
      cases h
      rfl
  | cons c rest ih =>
      rw [registerStatic, bind_eq (get_eq s)] at h
      cases hd : c.toDataPlane s.now with
      | error e =>
          rw [hd] at h
          cases h
      | ok d =>
          rw [hd] at h
          dsimp only at h
          cases hanswer : (register d s).1 with
          | error e =>
              rw [bind_eq (Prod.ext hanswer rfl)] at h
              cases h
          | ok replaced =>
              rw [bind_eq (Prod.ext hanswer rfl)] at h
              dsimp only at h
              cases hmore : (registerStatic rest (register d s).2).1 with
              | error e =>
                  rw [bind_eq (Prod.ext hmore rfl)] at h
                  cases h
              | ok more =>
                  rw [bind_eq (Prod.ext hmore rfl)] at h
                  cases h
                  rw [List.map_cons, List.map_cons, ih hmore,
                    (Config.StaticDataPlane.of_toDataPlane hd).1]

/-- The configured data planes of a configuration that is in order, in memory: it opens, and every
configured id is there as it was configured last. -/
theorem openWith_spec (hs : s.IsIdle liveness now) (valid : m.validate = .ok ())
    (hmemory : m.spec.storage.backend = .memory) (env : Config.Environment) (reason : String) :
    ∃ ds, (openWith m env reason s).1 = .ok ds ∧
      (openWith m env reason s).2.IsIdle liveness now ∧
      ∀ c ∈ m.spec.dataPlanes.dataPlanes, ∃ c' d,
        Config.lastOf? m.spec.dataPlanes.dataPlanes c.id = some c' ∧
        c'.toDataPlane now = .ok d ∧
        (openWith m env reason s).2.dataPlanes.find? c.id = some d := by
  have hbackend : m.spec.storage.toBackend env = .ok .memory := by
    rw [Config.Storage.toBackend, hmemory]
  obtain ⟨-, -, -, -, faultless, -⟩ :=
    m.fault?_eq_none_iff.1 (Config.Manifest.fault?_of_validate valid)
  have hnoted : (s.noted (storageNote .memory)).IsIdle liveness now :=
    ⟨hs.calm, hs.transfers_eq, hs.liveness_eq, hs.now_eq⟩
  obtain ⟨ds, r, es, hanswer, hbecomes, hfind⟩ :=
    registerStatic_spec hnoted.calm faultless
  have hopened : openWith m env reason s =
      (.ok ds, (bindAll m.spec.policies
        (registerStatic m.spec.dataPlanes.dataPlanes (s.noted (storageNote .memory))).2).2) := by
    simp only [openWith, valid, hbackend]
    exact (bind_eq rfl).trans ((bind_eq (Prod.ext hanswer rfl)).trans (bind_eq rfl))
  have hregistered := hnoted.of_becomes hbecomes
  rw [hopened]
  refine ⟨ds, rfl, ⟨hregistered.calm, hregistered.transfers_eq, hregistered.liveness_eq,
    hregistered.now_eq⟩, ?_⟩
  intro c hc
  obtain ⟨c', hlast⟩ := Config.exists_lastOf? hc
  obtain ⟨d, hd⟩ :=
    Config.StaticDataPlane.toDataPlane_of_fault? (faultless c' (Config.mem_of_lastOf? hlast)) now
  refine ⟨c', d, hlast, hd, ?_⟩
  have hthere := hfind c.id
  rw [hlast, hnoted.now_eq] at hthere
  simp only [hd, Except.toOption] at hthere
  rw [← hthere]
  exact congrArg (DataPlanes.find? · c.id) hbecomes.dataPlanes_eq

/-- A configuration that opens with records in memory has registered the configured ids. -/
theorem ids_of_openWith {ds : List DataPlane} {env : Config.Environment} {reason : String}
    (valid : m.validate = .ok ()) (hmemory : m.spec.storage.backend = .memory)
    (h : (openWith m env reason s).1 = .ok ds) :
    ds.map (·.id) = m.spec.dataPlanes.dataPlanes.map (·.id) := by
  have hbackend : m.spec.storage.toBackend env = .ok .memory := by
    rw [Config.Storage.toBackend, hmemory]
  have hstorage : openStorage reason .memory s = (.ok (), s.noted (storageNote .memory)) := rfl
  simp only [openWith, valid, hbackend] at h
  rw [bind_eq hstorage] at h
  dsimp only at h
  cases hanswer : (registerStatic m.spec.dataPlanes.dataPlanes
      (s.noted (storageNote .memory))).1 with
  | error e =>
      rw [bind_eq (Prod.ext hanswer rfl)] at h
      cases h
  | ok ds' =>
      rw [bind_eq (Prod.ext hanswer rfl)] at h
      cases h
      exact ids_of_registerStatic hanswer

/-! ## Stale data planes -/

theorem evictEach_cons {now cutoff : Instant} {d : DataPlane} {rest : List DataPlane}
    {dropped : Option String} {more : List String}
    (hanswer : (evictOne now cutoff d s).1 = .ok dropped)
    (hmore : (evictEach now cutoff rest (evictOne now cutoff d s).2).1 = .ok more) :
    evictEach now cutoff (d :: rest) s =
      (.ok (dropped.toList ++ more), (evictEach now cutoff rest (evictOne now cutoff d s).2).2) := by
  rw [evictEach]
  exact (bind_eq (Prod.ext hanswer rfl)).trans (bind_eq (Prod.ext hmore rfl))

/-- Of a list of data planes the stale ones are dropped, and nothing else happens. -/
theorem evictEach_spec (calm : s.failing = []) (now cutoff : Instant) (listed : List DataPlane) :
    ∃ ids r es, (evictEach now cutoff listed s).1 = .ok ids ∧
      s.Becomes r es (evictEach now cutoff listed s).2 := by
  induction listed generalizing s with
  | nil => exact ⟨[], _, [], rfl, .refl s⟩
  | cons d rest ih =>
      obtain ⟨dropped, r, es, hanswer, hbecomes⟩ : ∃ dropped r es,
          (evictOne now cutoff d s).1 = .ok dropped ∧
            s.Becomes r es (evictOne now cutoff d s).2 := by
        rcases evictOne_cases calm now cutoff d with ⟨-, hanswer, hbecomes⟩ | ⟨-, hnothing⟩
        · exact ⟨_, _, _, hanswer, hbecomes⟩
        · rw [hnothing]
          exact ⟨none, _, [], rfl, .refl s⟩
      obtain ⟨more, r', es', hmore, hlater⟩ := ih (hbecomes.failing_eq.trans calm)
      rw [evictEach_cons hanswer hmore]
      exact ⟨_, _, _, rfl, hbecomes.trans hlater⟩

/-- Stale data planes are dropped if the clock reaches back by the timeout. -/
theorem evictStale_spec (hs : s.IsIdle liveness now) (t : Instant) :
    (t.Reaches liveness ∧ ∃ ids, (evictStale t s).1 = .ok ids ∧
        (evictStale t s).2.IsIdle liveness now) ∨
      (¬ t.Reaches liveness ∧ evictStale t s = (.error .clock, s)) := by
  cases liveness with
  | none =>
      rw [evictStale_of_none hs.liveness_eq]
      exact Or.inl ⟨nofun, [], rfl, hs⟩
  | some timeout =>
      cases hcutoff : t.later? (-timeout) with
      | none =>
          refine Or.inr ⟨?_, evictStale_of_beyond hs.liveness_eq hcutoff⟩
          intro hreaches
          obtain ⟨cutoff, h⟩ := hreaches timeout rfl
          rw [hcutoff] at h
          cases h
      | some cutoff =>
          obtain ⟨ids, r, es, hanswer, hbecomes⟩ :=
            evictEach_spec hs.calm t cutoff s.dataPlanes.list
          rw [evictStale_eq hs.calm hs.liveness_eq hcutoff]
          refine Or.inl ⟨?_, ids, hanswer, hs.of_becomes hbecomes⟩
          intro distance h
          cases h
          exact ⟨cutoff, hcutoff⟩

end SiteM
end Connector
