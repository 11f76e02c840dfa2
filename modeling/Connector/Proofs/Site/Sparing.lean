import Connector.Proofs.Site.Registry
import Connector.Worker.Cycle

/-!
# What leaves the registry alone

A worker looks at the registry and never changes it: whatever it does at the site, the data planes,
the timeout and the clock stay as they are.  So a property of the registry outlasts every step of a
worker, and it is enough to look at those who register, report life and sweep.  Statements:

* `keeps_openCycle`, `keeps_settle`, `keeps_select`, `keeps_findRegistered` — what a worker does at
  the site keeps every property of the registry.
-/

namespace Connector

/-- The second site has the data planes of the first, its clock, its timeout and its arranged
failures. -/
structure Site.SameRegistry (s t : Site) : Prop where
  dataPlanes_eq : t.dataPlanes = s.dataPlanes
  now_eq : t.now = s.now
  liveness_eq : t.liveness = s.liveness
  failing_eq : t.failing = s.failing

/-- A property of sites that tells only of the registry, and of one that does not fail. -/
structure Site.IsOfRegistry (P : Site → Prop) : Prop where
  calm : ∀ s, P s → s.failing = []
  congr : ∀ s t, s.SameRegistry t → P s → P t

namespace SiteM

variable {α β : Type} {P : Site → Prop}

/-- What is done keeps a property of the site. -/
def Keeps (m : SiteM α) (P : Site → Prop) : Prop := ∀ s, P s → P (m s).2

theorem keeps_pure (a : α) : Keeps (pure a) P := fun _ hs => hs

theorem keeps_bind {m : SiteM α} {f : α → SiteM β} (hm : Keeps m P) (hf : ∀ a, Keeps (f a) P) :
    Keeps (m >>= f) P :=
  fun s hs => hf _ _ (hm s hs)

section Sparing
variable (hP : Site.IsOfRegistry P)
include hP

/-- What leaves the registry as it is keeps every property of it. -/
theorem keeps_of_same {m : SiteM α} (h : ∀ s : Site, s.failing = [] → s.SameRegistry (m s).2) :
    Keeps m P :=
  fun s hs => hP.congr s _ (h s (hP.calm s hs)) hs

theorem keeps_note (level : Level) (message : String) (fields : List (String × String)) :
    Keeps (note level message fields) P :=
  keeps_of_same hP fun _ _ => ⟨rfl, rfl, rfl, rfl⟩

theorem keeps_publish (e : Event) : Keeps (publish e) P :=
  keeps_of_same hP fun s _ => by
    obtain ⟨_, h⟩ := becomes_publish e s
    rw [h]
    exact ⟨rfl, rfl, rfl, rfl⟩

/-- An access to the transfers leaves the registry alone. -/
theorem keeps_access_transfers (a : Access) (f : Transfers → Except StoreFault (α × Transfers)) :
    Keeps (access a (transfers f)) P :=
  keeps_of_same hP fun s calm => by
    rw [access_eq calm]
    unfold transfers
    split <;> exact ⟨rfl, rfl, rfl, rfl⟩

/-! ## Claiming and writing back -/

theorem keeps_openCycle (c : Setup) (holder : String) : Keeps (openCycle c holder) P :=
  keeps_of_same hP fun s calm => by
    rcases openCycle_cases calm c holder with ⟨-, -, heq⟩ | ⟨-, heq⟩ <;> rw [heq] <;>
      exact ⟨rfl, rfl, rfl, rfl⟩

theorem keeps_tell (prior : Transfer.State) (p : Transfer) : Keeps (tell prior p) P := by
  unfold tell
  dsimp only
  split
  all_goals
    refine keeps_bind (keeps_note hP _ _ _) fun _ => keeps_bind (keeps_publish hP _) fun _ => ?_
    cases followUp prior p with
    | some e => exact keeps_publish hP _
    | none => exact keeps_pure ()

theorem keeps_giveUp (id holder : String) : Keeps (giveUp id holder) P := by
  refine keeps_bind (keeps_access_transfers hP _ _) fun answer => ?_
  cases answer with
  | ok => exact keeps_pure ()
  | error e => exact keeps_note hP _ _ _

theorem keeps_writeBack (claimed : Transfer) (result : Except Transfer.Refusal Transfer) :
    Keeps (writeBack claimed result) P := by
  cases result with
  | error e => exact keeps_bind (keeps_note hP _ _ _) fun _ => keeps_pure none
  | ok p =>
      refine keeps_bind (keeps_access_transfers hP _ _) fun answer => ?_
      split
      · exact keeps_pure _
      · exact keeps_bind (keeps_note hP _ _ _) fun _ => keeps_pure none
      · exact keeps_bind (keeps_note hP _ _ _) fun _ => keeps_pure none

theorem keeps_conclude (claimed : Transfer) (holder : String) (written : Option Transfer) :
    Keeps (conclude claimed holder written) P := by
  cases written with
  | some p =>
      by_cases hsame : p.stateTimestamp = claimed.stateTimestamp
      · simp only [conclude, hsame, ne_eq, not_true_eq_false, if_false]
        exact keeps_pure true
      · simp only [conclude, hsame, ne_eq, not_false_eq_true, if_true]
        exact keeps_bind (keeps_tell hP _ _) fun _ => keeps_pure true
  | none => exact keeps_bind (keeps_giveUp hP _ _) fun _ => keeps_pure false

theorem keeps_settle (claimed : Transfer) (holder : String)
    (result : Except Transfer.Refusal Transfer) : Keeps (settle claimed holder result) P :=
  keeps_bind (keeps_writeBack hP _ _) fun _ => keeps_conclude hP _ _ _

/-! ## Looking at the registry -/

theorem keeps_select (need : DataPlane.Need) : Keeps (select need) P :=
  keeps_of_same hP fun s calm => by
    have heq : select need s = _ := (bind_eq (listDataPlanes_eq calm)).trans (bind_eq (get_eq s))
    rw [heq]
    cases DataPlane.select s.dataPlanes.list need s.now s.liveness with
    | some d => exact ⟨rfl, rfl, rfl, rfl⟩
    | none => exact ⟨rfl, rfl, rfl, rfl⟩

theorem keeps_findRegistered (id : String) : Keeps (findRegistered id) P :=
  keeps_of_same hP fun s calm => by
    have hstore : findDataPlane id s = (.ok (s.dataPlanes.find? id), s) := access_eq calm _ _
    have heq : findRegistered id s = _ := bind_eq hstore
    rw [heq]
    exact ⟨rfl, rfl, rfl, rfl⟩

end Sparing
end SiteM
end Connector
