import Connector.Config.Validation

/-!
# What a configuration in order is

The check of a configuration stops at the first fault, so that a configuration in order has none of
them (`Manifest.fault?_eq_none_iff`).  In particular each of its data planes can be made out, at
every instant alike (`StaticDataPlane.toDataPlane_of_fault?`), and the leases of its workers last
longer than they wait for an answer.
-/

namespace Connector.Config

/-- What a data plane of the manifest is when it registers, apart from when it does. -/
theorem StaticDataPlane.toDataPlane_eq (c : StaticDataPlane) (now : Instant) :
    c.toDataPlane now =
      (c.toDataPlane ⟨0⟩).map fun d => { d with registeredAt := now, lastSeen := now } := by
  unfold toDataPlane
  cases capabilities c.id c.transferTypes with
  | error e => rfl
  | ok l =>
      have hvalid : (DataPlane.mk c.id c.url l c.properties now now none).validate =
          (DataPlane.mk c.id c.url l c.properties ⟨0⟩ ⟨0⟩ none).validate := rfl
      simp only [DataPlane.create, hvalid, bind, Except.bind]
      cases (DataPlane.mk c.id c.url l c.properties ⟨0⟩ ⟨0⟩ none).validate <;> rfl

/-- A data plane of the manifest that can be made out at an instant has its id, is well formed, and
registers as of that instant. -/
theorem StaticDataPlane.of_toDataPlane {c : StaticDataPlane} {now : Instant} {d : DataPlane}
    (h : c.toDataPlane now = .ok d) :
    d.id = c.id ∧ d.validate = .ok () ∧ { d with registeredAt := now, lastSeen := now } = d := by
  unfold toDataPlane at h
  cases hcapabilities : capabilities c.id c.transferTypes with
  | error e =>
      rw [hcapabilities] at h
      cases h
  | ok l =>
      rw [hcapabilities] at h
      cases hvalid : (DataPlane.mk c.id c.url l c.properties now now none).validate with
      | error e =>
          simp only [DataPlane.create, hvalid, bind, Except.bind] at h
          cases h
      | ok =>
          simp only [DataPlane.create, hvalid, bind, Except.bind] at h
          cases h
          exact ⟨rfl, hvalid, rfl⟩

/-- A data plane without fault can be made out at every instant. -/
theorem StaticDataPlane.toDataPlane_of_fault? {c : StaticDataPlane} (h : c.fault? = none)
    (now : Instant) : ∃ d, c.toDataPlane now = .ok d := by
  unfold fault? at h
  rw [toDataPlane_eq]
  cases hzero : c.toDataPlane ⟨0⟩ with
  | ok d => exact ⟨_, rfl⟩
  | error e =>
      rw [hzero] at h
      cases h

/-- A manifest is in order if nothing in it is wrong. -/
theorem Manifest.fault?_eq_none_iff (m : Manifest) :
    m.fault? = none ↔
      m.apiVersion = Config.apiVersion ∧ m.kind = Config.kind ∧
        Text.isBlankText m.spec.connector.id = false ∧ m.spec.orchestrator.fault? = none ∧
        (∀ c ∈ m.spec.dataPlanes.dataPlanes, c.fault? = none) ∧
        (∀ b ∈ m.spec.policies, b.fault? = none) ∧ m.spec.storage.isComplete = true := by
  unfold Manifest.fault?
  grind [Option.or_eq_none_iff, List.findSome?_eq_none_iff]

theorem Manifest.fault?_of_validate {m : Manifest} (valid : m.validate = .ok ()) :
    m.fault? = none := by
  unfold Manifest.validate at valid
  split at valid
  · cases valid
  · assumption

/-- A configuration that is in order has leases that last longer than a call may take. -/
theorem dispatchTimeout_lt_of_validate {m : Manifest} (valid : m.validate = .ok ()) :
    m.spec.orchestrator.dispatchTimeout.nanos < m.spec.orchestrator.leaseDuration.nanos := by
  obtain ⟨-, -, -, hfault, -⟩ := (m.fault?_eq_none_iff).1 (Manifest.fault?_of_validate valid)
  unfold Orchestration.fault? at hfault
  grind

/-- A worker of a configuration in order claims at least one transfer at once. -/
theorem batchSize_ne_zero_of_validate {m : Manifest} (valid : m.validate = .ok ()) :
    m.spec.orchestrator.batchSize ≠ 0 := by
  obtain ⟨-, -, -, hfault, -⟩ := (m.fault?_eq_none_iff).1 (Manifest.fault?_of_validate valid)
  unfold Orchestration.fault? at hfault
  grind

end Connector.Config
