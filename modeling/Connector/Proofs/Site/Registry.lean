import Connector.Proofs.Site.Access
import Connector.Proofs.Store.DataPlanes
import Connector.Site.Registry

/-!
# What is done at the registry, in terms of the data planes

Registering, leaving, reporting life and dropping what is stale come down to one access to the
store of data planes each, as long as no access is arranged to fail.  Besides they publish events
and take notes; `Site.Becomes` says so of two sites.  Statements:

* `register_of_ok`, `register_of_error`, `deregister_spec`, `heartbeat_spec` — the access that each
  of them comes down to, what is answered and what is published;
* `evictOne_cases` — when a listed data plane is dropped;
* `evictStale_eq`, `evictStale_of_none`, `evictStale_of_beyond` — what the dropping begins with.
-/

namespace Connector

/-- From the first site to the second the data planes became others, and events were published one
after the other; notes may have been taken, and nothing else changed. -/
def Site.Becomes (s : Site) (r : DataPlanes) (es : List Event) (t : Site) : Prop :=
  ∃ notes, t = { s with dataPlanes := r, bus := es.foldl Bus.publish s.bus, notes := notes }

namespace Site.Becomes

variable {s t u : Site} {r r' : DataPlanes} {es fs : List Event}

theorem refl (s : Site) : s.Becomes s.dataPlanes [] s := ⟨s.notes, rfl⟩

theorem trans (h : s.Becomes r es t) (h' : t.Becomes r' fs u) : s.Becomes r' (es ++ fs) u := by
  obtain ⟨_, rfl⟩ := h
  obtain ⟨notes, rfl⟩ := h'
  exact ⟨notes, by rw [List.foldl_append]⟩

theorem dataPlanes_eq (h : s.Becomes r es t) : t.dataPlanes = r := by
  obtain ⟨_, rfl⟩ := h
  rfl

theorem bus_eq (h : s.Becomes r es t) : t.bus = es.foldl Bus.publish s.bus := by
  obtain ⟨_, rfl⟩ := h
  rfl

theorem failing_eq (h : s.Becomes r es t) : t.failing = s.failing := by
  obtain ⟨_, rfl⟩ := h
  rfl

theorem liveness_eq (h : s.Becomes r es t) : t.liveness = s.liveness := by
  obtain ⟨_, rfl⟩ := h
  rfl

theorem now_eq (h : s.Becomes r es t) : t.now = s.now := by
  obtain ⟨_, rfl⟩ := h
  rfl

theorem transfers_eq (h : s.Becomes r es t) : t.transfers = s.transfers := by
  obtain ⟨_, rfl⟩ := h
  rfl

end Site.Becomes

namespace SiteM

theorem becomes_note (level : Level) (message : String) (fields : List (String × String))
    (s : Site) : s.Becomes s.dataPlanes [] (note level message fields s).2 :=
  ⟨_, rfl⟩

/-- An event that nobody listens to is not kept, and neither would the bus keep it. -/
theorem becomes_publish (e : Event) (s : Site) : s.Becomes s.dataPlanes [e] (publish e s).2 := by
  have heq : publish e s =
      (if s.bus.isHeard then set { s with bus := s.bus.publish e }
        else note .debug "No subscribers listening to event" [] : SiteM Unit) s := rfl
  rw [heq]
  split
  · exact ⟨s.notes, rfl⟩
  · rename_i hunheard
    refine ⟨(note .debug "No subscribers listening to event" [] s).2.notes, ?_⟩
    rw [List.foldl_cons, List.foldl_nil, Bus.publish, if_neg hunheard]
    rfl

/-- After a note has been taken an event is published. -/
theorem becomes_note_publish (level : Level) (message : String) (fields : List (String × String))
    (e : Event) (s : Site) :
    s.Becomes s.dataPlanes [e] ((note level message fields >>= fun _ => publish e) s).2 :=
  (becomes_note level message fields s).trans (becomes_publish e _)

theorem get_eq (s : Site) : (get : SiteM Site) s = (s, s) := rfl

section Accesses
variable {s : Site} (calm : s.failing = [])
include calm

theorem access_dataPlanes {α : Type} (a : Access) (f : DataPlanes → α × DataPlanes) :
    access a (dataPlanes f) s =
      (.ok (f s.dataPlanes).1, { s with dataPlanes := (f s.dataPlanes).2 }) := by
  rw [access_eq calm]
  rfl

theorem listDataPlanes_eq : listDataPlanes s = (.ok s.dataPlanes.list, s) := by
  have hnone : failure? .touchAfterList s = (none, s) := by
    simp only [failure?, calm, Site.takeFailure]
  rw [listDataPlanes, access_eq calm]
  exact (bind_eq rfl).trans (bind_eq hnone)

omit calm in
/-- A descriptor that is not well formed does not register. -/
theorem register_of_error {d : DataPlane} {defect : DataPlane.Defect}
    (h : d.validate = .error defect) : register d s = (.error (.malformed defect), s) := by
  simp only [register, h]
  rfl

/-- A data plane that registers takes the place of one of its id. -/
theorem register_of_ok {d : DataPlane} (h : d.validate = .ok ()) :
    (register d s).1 = .ok (s.dataPlanes.find? d.id).isSome ∧
      s.Becomes (s.dataPlanes.save (d.registered s.now)).2
        [.dataPlane (.registered d.id (s.dataPlanes.find? d.id).isSome s.now)]
        (register d s).2 := by
  have hstore (d : DataPlane) : saveDataPlane d s =
      (.ok (s.dataPlanes.find? d.id).isSome,
        { s with dataPlanes := (s.dataPlanes.save d).2 }) :=
    access_dataPlanes calm .saveDataPlane _
  simp only [register, h]
  rw [bind_eq (get_eq s), bind_eq (hstore _)]
  exact ⟨rfl, (show s.Becomes _ [] _ from ⟨s.notes, rfl⟩).trans
    (becomes_note_publish _ _ _ _ _)⟩

/-- Whoever leaves is deleted, if there. -/
theorem deregister_spec (id : String) :
    (deregister id s).1 = .ok () ∧
      s.Becomes (s.dataPlanes.delete id).2
        (if (s.dataPlanes.find? id).isSome then [.dataPlane (.deregistered id s.now)] else [])
        (deregister id s).2 := by
  have hstore : deleteDataPlane id s =
      (.ok (s.dataPlanes.find? id).isSome,
        { s with dataPlanes := (s.dataPlanes.delete id).2 }) :=
    access_dataPlanes calm .deleteDataPlane _
  have heq : deregister id s = _ := bind_eq hstore
  rw [heq]
  cases (s.dataPlanes.find? id).isSome with
  | true =>
      exact ⟨rfl, (show s.Becomes _ [] _ from ⟨s.notes, rfl⟩).trans
        (becomes_note_publish _ _ _ _ _)⟩
  | false =>
      exact ⟨rfl, (show s.Becomes _ [] _ from ⟨s.notes, rfl⟩).trans (becomes_note _ _ _ _)⟩

/-- A report of life is taken from a data plane that is there. -/
theorem heartbeat_spec (id : String) (load : Option Nat) :
    heartbeat id load s =
      (if (s.dataPlanes.find? id).isSome then .ok () else .error (.unknown id),
        { s with dataPlanes := (s.dataPlanes.touch id s.now load).2 }) := by
  have hstore : touchDataPlane id load s =
      (.ok (s.dataPlanes.touch id s.now load).1,
        { s with dataPlanes := (s.dataPlanes.touch id s.now load).2 }) :=
    (bind_eq rfl).trans (access_dataPlanes calm .touchDataPlane _)
  have heq : heartbeat id load s = _ := bind_eq hstore
  rw [heq, DataPlanes.touch_fst]
  cases (s.dataPlanes.find? id).isSome <;> rfl

/-- A listed data plane is dropped if it was not live when it was listed, and the one that is there
is stale now. -/
theorem evictOne_of_stale {now cutoff : Instant} {d : DataPlane}
    (hdead : d.isLive now s.liveness = false) (hstale : s.dataPlanes.isStale d.id cutoff = true) :
    (evictOne now cutoff d s).1 = .ok (some d.id) ∧
      s.Becomes (s.dataPlanes.delete d.id).2 [.dataPlane (.evicted d.id d.lastSeen now)]
        (evictOne now cutoff d s).2 := by
  have hstore : deleteStale d.id cutoff s =
      (.ok true, { s with dataPlanes := (s.dataPlanes.delete d.id).2 }) := by
    rw [deleteStale, access_dataPlanes calm, DataPlanes.deleteIfStale_eq, if_pos hstale,
      DataPlanes.delete_fst_of_isStale hstale]
  rw [evictOne, bind_eq (get_eq s), hdead]
  rw [if_neg Bool.false_ne_true, bind_eq hstore]
  exact ⟨rfl, (show s.Becomes _ [] _ from ⟨s.notes, rfl⟩).trans
    (becomes_note_publish _ _ _ _ _)⟩

/-- Otherwise nothing happens. -/
theorem evictOne_of_not_stale {now cutoff : Instant} {d : DataPlane}
    (h : d.isLive now s.liveness = true ∨ s.dataPlanes.isStale d.id cutoff = false) :
    evictOne now cutoff d s = (.ok none, s) := by
  rw [evictOne, bind_eq (get_eq s)]
  cases hlive : d.isLive now s.liveness with
  | true => rfl
  | false =>
      have hstore : deleteStale d.id cutoff s = (.ok false, s) := by
        rw [deleteStale, access_dataPlanes calm, DataPlanes.deleteIfStale_eq,
          h.resolve_left (by simp [hlive])]
        rfl
      exact bind_eq hstore

/-- Looking at a listed data plane drops it, or does nothing. -/
theorem evictOne_cases (now cutoff : Instant) (d : DataPlane) :
    ((d.isLive now s.liveness = false ∧ s.dataPlanes.isStale d.id cutoff = true) ∧
      (evictOne now cutoff d s).1 = .ok (some d.id) ∧
      s.Becomes (s.dataPlanes.delete d.id).2 [.dataPlane (.evicted d.id d.lastSeen now)]
        (evictOne now cutoff d s).2) ∨
    ((d.isLive now s.liveness = true ∨ s.dataPlanes.isStale d.id cutoff = false) ∧
      evictOne now cutoff d s = (.ok none, s)) := by
  cases hlive : d.isLive now s.liveness with
  | true => exact Or.inr ⟨Or.inl rfl, evictOne_of_not_stale calm (Or.inl hlive)⟩
  | false =>
      cases hstale : s.dataPlanes.isStale d.id cutoff with
      | true => exact Or.inl ⟨⟨rfl, rfl⟩, evictOne_of_stale calm hlive hstale⟩
      | false => exact Or.inr ⟨Or.inr rfl, evictOne_of_not_stale calm (Or.inr hstale)⟩

omit calm in
/-- Without a timeout nothing is stale. -/
theorem evictStale_of_none (hlive : s.liveness = none) (now : Instant) :
    evictStale now s = (.ok [], s) := by
  rw [evictStale, bind_eq (get_eq s), hlive]
  rfl

omit calm in
/-- Nothing is dropped if the clock does not reach back by the timeout. -/
theorem evictStale_of_beyond {now : Instant} {timeout : Int} (hlive : s.liveness = some timeout)
    (hbeyond : now.later? (-timeout) = none) : evictStale now s = (.error .clock, s) := by
  rw [evictStale, bind_eq (get_eq s), hlive]
  dsimp only
  rw [hbeyond]
  rfl

/-- What is stale is looked for among all data planes. -/
theorem evictStale_eq {now cutoff : Instant} {timeout : Int} (hlive : s.liveness = some timeout)
    (hcutoff : now.later? (-timeout) = some cutoff) :
    evictStale now s = evictEach now cutoff s.dataPlanes.list s := by
  rw [evictStale, bind_eq (get_eq s), hlive]
  dsimp only
  rw [hcutoff]
  exact bind_eq (listDataPlanes_eq calm)

end Accesses
end SiteM
end Connector
