import Connector.Proofs.Store.Claiming
import Connector.Proofs.World.Cycle
import Mathlib.Data.List.Nodup

/-!
# A batch in any order

The attempts on the transfers of a batch come to their ends one by one, in whatever order, and
between them signals reach these transfers and others.  To finish an attempt takes one access to
the store, or two: where its result is not written back, the lease is given back.  Both look at one
record and change no other, and so does a signal.  A transfer therefore fares as if nothing happened
but what concerns it, and the order of all that happens matters only as the order of what concerns
one transfer.  Statements:

* `settle_spec`, `occur_spec` — one incident changes one record, and comes to what that record makes
  of it;
* `fares_alone` — a transfer fares as if nothing happened but what concerns it;
* `any_order_will_do` — the results of a batch may be written back in any order.
-/

namespace Connector

namespace Transfer

/-- Whether a result takes the place of the record: it has the version that is stored, and the lease
of the same holder. -/
def isReplacedBy (r : Transfer) : Except Refusal Transfer → Bool
  | .ok p => r.version == p.version && r.sameHolder p
  | .error _ => false

/-- The record after a holder has given it up. -/
def givenUp (r : Transfer) (holder : String) : Transfer :=
  if r.lease.any (·.holder == holder) then r.withoutLease else r

/-- The record after a holder has finished an attempt with a result. -/
def finished (r : Transfer) (holder : String) (result : Except Refusal Transfer) : Transfer :=
  match result with
  | .ok p => if r.isReplacedBy (.ok p) then p.written r else r.givenUp holder
  | .error _ => r.givenUp holder

theorem finished_of_vain {r : Transfer} {result : Except Refusal Transfer}
    (h : r.isReplacedBy result = false) (holder : String) :
    r.finished holder result = r.givenUp holder := by
  cases result with
  | ok p => rw [finished, h, if_neg Bool.false_ne_true]
  | error e => rfl

/-- The record after a signal. -/
def signalled (r : Transfer) (x : Signal) : Transfer :=
  match r.accept x with
  | .ok (some q) => q.bumped
  | .ok none | .error _ => r

end Transfer

namespace Transfers

/-- The store with a changed record under an id, if there is one. -/
def alter (s : Transfers) (id : String) (f : Transfer → Transfer) : Transfers :=
  match s.find? id with
  | some r => ⟨Table.put id (f r) s.records⟩
  | none => s

variable {s : Transfers} {id : String} {f : Transfer → Transfer}

theorem find?_alter (s : Transfers) (id : String) (f : Transfer → Transfer) (other : String) :
    (s.alter id f).find? other = if other = id then (s.find? id).map f else s.find? other := by
  unfold alter
  cases hr : s.find? id with
  | none =>
      by_cases hother : other = id
      · rw [if_pos hother, hother, hr, Option.map_none]
      · rw [if_neg hother]
  | some r => exact find?_put s id other (f r)

theorem isSorted_alter (hs : s.records.IsSorted) : (s.alter id f).records.IsSorted := by
  unfold alter
  split
  · exact Table.isSorted_put hs
  · exact hs

theorem alter_congr {g : Transfer → Transfer} (h : ∀ r, s.find? id = some r → f r = g r) :
    s.alter id f = s.alter id g := by
  unfold alter
  split
  · rename_i r hr
    rw [h r hr]
  · rfl

theorem alter_of_find? {r : Transfer} (hr : s.find? id = some r) :
    s.alter id f = ⟨Table.put id (f r) s.records⟩ := by
  rw [alter, hr]

/-- A record is written back exactly if it takes the place of the one that is stored. -/
theorem update_eq_ok_iff_alter {t : Transfers} {p : Transfer} :
    s.update p = .ok t ↔
      (s.find? p.id).any (·.isReplacedBy (.ok p)) = true ∧ t = s.alter p.id (p.written ·) := by
  rw [update_eq_ok_iff]
  constructor
  · rintro ⟨r, hr, hversion, hholder, rfl⟩
    rw [alter_of_find? hr, hr, Option.any_some, Transfer.isReplacedBy, hversion, hholder]
    exact ⟨by simp, rfl⟩
  · rintro ⟨hreplaced, rfl⟩
    obtain ⟨r, hr, hreplaced⟩ := (Option.any_eq_true _ _).1 hreplaced
    rw [Transfer.isReplacedBy, Bool.and_eq_true, beq_iff_eq] at hreplaced
    exact ⟨r, hr, hreplaced.1, hreplaced.2, alter_of_find? hr⟩

theorem release_eq_alter (hs : s.records.IsSorted) (id holder : String) :
    s.release id holder = s.alter id (·.givenUp holder) := by
  cases hr : s.find? id with
  | none => simp only [release, alter, hr]
  | some r =>
      by_cases hheld : r.lease.any (·.holder == holder) = true
      · simp only [release, alter, hr, Transfer.givenUp, hheld, if_true]
      · have hsame : r.givenUp holder = r := if_neg hheld
        rw [alter_of_find? hr, hsame, Table.put_of_get? hs hr]
        simp only [release, hr, hheld]
        rfl

theorem apply_signal_eq_alter (hs : s.records.IsSorted) (id : String) (x : Transfer.Signal) :
    s.apply (.signal id x) = s.alter id (·.signalled x) := by
  cases hr : s.find? id with
  | none => simp only [apply, signal, alter, hr]
  | some r =>
      rw [alter_of_find? hr]
      cases hx : r.accept x with
      | ok next =>
          cases next with
          | some q => simp only [apply, signal, hr, hx, Transfer.signalled]
          | none =>
              simp only [apply, signal, hr, hx, Transfer.signalled]
              rw [Table.put_of_get? hs hr]
      | error e =>
          simp only [apply, signal, hr, hx, Transfer.signalled]
          rw [Table.put_of_get? hs hr]

end Transfers

/-- What happens while the results of a batch are written back. -/
inductive Incident where
  /-- The attempt on a transfer of the batch is finished. -/
  | finish (claimed : Transfer)
  /-- A signal reaches a transfer, of the batch or not. -/
  | signal (id : String) (x : Transfer.Signal)

namespace Incident

/-- The transfer that an incident concerns. -/
def subject : Incident → String
  | finish claimed => claimed.id
  | signal id _ => id

/-- The transfer that an incident finishes the attempt on. -/
def finished? : Incident → Option Transfer
  | finish claimed => some claimed
  | signal _ _ => none

/-- The incidents that concern a transfer, in their order. -/
def own (id : String) (incidents : List Incident) : List Incident :=
  incidents.filter (·.subject == id)

theorem own_cons (id : String) (i : Incident) (rest : List Incident) :
    own id (i :: rest) = if i.subject = id then i :: own id rest else own id rest := by
  rw [own, List.filter_cons]
  simp only [beq_iff_eq, own]

/-- Every attempt on a transfer of the batch is finished once, and no other. -/
def Finishes (batch : List Transfer) (incidents : List Incident) : Prop :=
  (incidents.filterMap finished?).Perm batch

/-- What an incident makes of the record that it concerns. -/
def effect (holder : String) (result : Transfer → Except Transfer.Refusal Transfer) :
    Incident → Transfer → Transfer
  | finish claimed, r => r.finished holder (result claimed)
  | signal _ x, r => r.signalled x

/-- What an incident comes to, for the record that it concerns: whether an attempt that it finishes
is written back. -/
def outcome (result : Transfer → Except Transfer.Refusal Transfer) (stored : Option Transfer) :
    Incident → List (String × Bool)
  | finish claimed => [(claimed.id, stored.any (·.isReplacedBy (result claimed)))]
  | signal _ _ => []

/-- What a finished attempt came to, if it is a record, is a record of the transfer that it was made
on. -/
def IsOfSubject (result : Transfer → Except Transfer.Refusal Transfer) (i : Incident) : Prop :=
  ∀ claimed p, i.finished? = some claimed → result claimed = .ok p → p.id = claimed.id

end Incident

namespace SiteM

variable (holder : String) (result : Transfer → Except Transfer.Refusal Transfer)

/-- An incident at a site; tells of an attempt that is finished whether it was written back. -/
def occur : Incident → SiteM (List (String × Bool))
  | .finish claimed => do return [(claimed.id, ← settle claimed holder (result claimed))]
  | .signal id x => do
      let _ ← deliver id x
      return []

/-- Incidents at a site in their order; tells of each attempt that is finished whether it was
written back. -/
def undergo : List Incident → SiteM (List (String × Bool))
  | [] => return []
  | i :: rest => do return (← occur holder result i) ++ (← undergo rest)

end SiteM

/-- No access is arranged to fail, and the records are in order. -/
structure Site.IsReady (s : Site) : Prop where
  calm : s.failing = []
  isSorted : s.transfers.records.IsSorted

/-- The second site has the first one's records but for a change of one. -/
structure Site.Alters (s : Site) (id : String) (f : Transfer → Transfer) (t : Site) : Prop where
  isReady : t.IsReady
  transfers_eq : t.transfers = s.transfers.alter id f

namespace Site

variable {s t : Site} {id : String} {f : Transfer → Transfer}

theorem IsReady.alters (hs : s.IsReady)
    (h : { s with transfers := s.transfers.alter id f }.Agrees t) : s.Alters id f t := by
  have hsorted : t.transfers.records.IsSorted := by
    rw [h.transfers_eq]
    exact Transfers.isSorted_alter hs.isSorted
  exact ⟨⟨h.failing_eq.trans hs.calm, hsorted⟩, h.transfers_eq⟩

theorem Alters.find?_self (h : s.Alters id f t) :
    t.transfers.find? id = (s.transfers.find? id).map f := by
  rw [h.transfers_eq, Transfers.find?_alter, if_pos rfl]

theorem Alters.find?_of_ne (h : s.Alters id f t) {other : String} (hne : other ≠ id) :
    t.transfers.find? other = s.transfers.find? other := by
  rw [h.transfers_eq, Transfers.find?_alter, if_neg hne]

end Site

namespace SiteM

variable {s : Site}

/-! ## One incident -/

theorem alters_deliver (hs : s.IsReady) (id : String) (x : Transfer.Signal) :
    s.Alters id (·.signalled x) (deliver id x s).2 := by
  refine hs.alters ?_
  rw [← Transfers.apply_signal_eq_alter hs.isSorted]
  rcases deliver_spec hs.calm id x with ⟨p, t, htaken, -, h⟩ | ⟨e, hrefused, -, h⟩
  · rw [Transfers.apply_signal_of_ok htaken]
    exact h
  · simp only [Transfers.apply, hrefused]
    exact h

/-- To give a lease back finishes an attempt in vain. -/
theorem alters_giveUp (hs : s.IsReady) {t : Site} (h : s.Agrees t) {claimed : Transfer}
    (holder : String) {result : Except Transfer.Refusal Transfer}
    (vain : (s.transfers.find? claimed.id).any (·.isReplacedBy result) = false) :
    s.Alters claimed.id (·.finished holder result) (conclude claimed holder none t).2 := by
  refine hs.alters ?_
  have heq : s.transfers.alter claimed.id (·.finished holder result) =
      s.transfers.release claimed.id holder := by
    rw [Transfers.release_eq_alter hs.isSorted]
    refine Transfers.alter_congr fun r hr => Transfer.finished_of_vain ?_ holder
    rwa [hr, Option.any_some] at vain
  have hrelease := conclude_none_spec (h.failing_eq.trans hs.calm) claimed holder
  rw [heq]
  exact ⟨hrelease.transfers_eq.trans (by rw [h.transfers_eq]),
    hrelease.now_eq.trans h.now_eq, hrelease.failing_eq.trans h.failing_eq⟩

theorem conclude_none_fst (claimed : Transfer) (holder : String) (s : Site) :
    (conclude claimed holder none s).1 = false := rfl

theorem conclude_some_fst (claimed : Transfer) (holder : String) (p : Transfer) (s : Site) :
    (conclude claimed holder (some p) s).1 = true := by
  simp only [conclude]
  split
  · rfl
  · rfl

/-- To finish an attempt changes the record of its transfer, and comes to what that record makes of
the result. -/
theorem settle_spec (holder : String) (hs : s.IsReady) {claimed : Transfer}
    {result : Except Transfer.Refusal Transfer}
    (same_id : ∀ p, result = .ok p → p.id = claimed.id) :
    (settle claimed holder result s).1 =
        (s.transfers.find? claimed.id).any (·.isReplacedBy result) ∧
      s.Alters claimed.id (·.finished holder result) (settle claimed holder result s).2 := by
  cases result with
  | error e =>
      have heq : settle claimed holder (.error e) s = conclude claimed holder none _ := bind_eq rfl
      have hvain : (s.transfers.find? claimed.id).any (·.isReplacedBy (.error e)) = false := by
        cases s.transfers.find? claimed.id <;> rfl
      rw [heq, conclude_none_fst, hvain]
      exact ⟨rfl, alters_giveUp hs (agrees_note _ _ _ s) holder hvain⟩
  | ok p =>
      have hid : p.id = claimed.id := same_id p rfl
      rcases writeBack_spec hs.calm claimed p with
        ⟨t, hupdate, hwritten, h⟩ | ⟨e, hupdate, hwritten, h⟩
      · have heq : settle claimed holder (.ok p) s = conclude claimed holder (some p) _ :=
          bind_eq (Prod.ext hwritten rfl)
        obtain ⟨hreplaced, rfl⟩ := Transfers.update_eq_ok_iff_alter.1 hupdate
        rw [hid] at hreplaced h
        rw [heq, conclude_some_fst, hreplaced]
        refine ⟨rfl, hs.alters ?_⟩
        have hfinished : s.transfers.alter claimed.id (·.finished holder (.ok p)) =
            s.transfers.alter claimed.id (p.written ·) := by
          refine Transfers.alter_congr fun r hr => if_pos ?_
          rwa [hr, Option.any_some] at hreplaced
        rw [hfinished]
        exact h.trans (agrees_conclude_some _ _ _)
      · have heq : settle claimed holder (.ok p) s = conclude claimed holder none _ :=
          bind_eq (Prod.ext hwritten rfl)
        have hvain : (s.transfers.find? claimed.id).any (·.isReplacedBy (.ok p)) = false := by
          refine Bool.eq_false_iff.2 fun hreplaced => ?_
          rw [← hid] at hreplaced
          cases hupdate.symm.trans (Transfers.update_eq_ok_iff_alter.2 ⟨hreplaced, rfl⟩)
        rw [heq, conclude_none_fst, hvain]
        exact ⟨rfl, alters_giveUp hs h holder hvain⟩

variable {result : Transfer → Except Transfer.Refusal Transfer}

/-- **One incident changes one record**, and comes to what that record makes of it. -/
theorem occur_spec (holder : String) (hs : s.IsReady) {i : Incident} (hi : i.IsOfSubject result) :
    (occur holder result i s).1 = i.outcome result (s.transfers.find? i.subject) ∧
      s.Alters i.subject (i.effect holder result) (occur holder result i s).2 := by
  cases i with
  | signal id x => exact ⟨rfl, alters_deliver hs id x⟩
  | finish claimed =>
      obtain ⟨hwritten, halters⟩ := settle_spec holder hs fun p => hi claimed p rfl
      exact ⟨congrArg (fun written => [(claimed.id, written)]) hwritten, halters⟩

/-! ## All incidents -/

theorem undergo_cons (holder : String) (i : Incident) (rest : List Incident) (s : Site) :
    undergo holder result (i :: rest) s =
      ((occur holder result i s).1 ++ (undergo holder result rest (occur holder result i s).2).1,
        (undergo holder result rest (occur holder result i s).2).2) := rfl

/-- What an incident comes to is told of the transfer that it concerns. -/
theorem fst_of_mem_outcome {i : Incident} {stored : Option Transfer} {e : String × Bool}
    (he : e ∈ i.outcome result stored) : e.1 = i.subject := by
  cases i with
  | signal => cases he
  | finish claimed => rw [List.mem_singleton.1 he]; rfl

theorem isReady_undergo (holder : String) (hs : s.IsReady) {incidents : List Incident}
    (h : ∀ i ∈ incidents, i.IsOfSubject result) :
    (undergo holder result incidents s).2.IsReady := by
  induction incidents generalizing s with
  | nil => exact hs
  | cons i rest ih =>
      obtain ⟨hi, hrest⟩ := List.forall_mem_cons.1 h
      exact ih (occur_spec holder hs hi).2.isReady hrest

/-- Of every attempt that is finished it is told whether it was written back. -/
theorem map_fst_undergo (holder : String) (hs : s.IsReady) {incidents : List Incident}
    (h : ∀ i ∈ incidents, i.IsOfSubject result) :
    (undergo holder result incidents s).1.map (·.1) =
      (incidents.filterMap Incident.finished?).map (·.id) := by
  induction incidents generalizing s with
  | nil => rfl
  | cons i rest ih =>
      obtain ⟨hi, hrest⟩ := List.forall_mem_cons.1 h
      obtain ⟨houtcome, halters⟩ := occur_spec holder hs hi
      rw [undergo_cons, List.map_append, ih halters.isReady hrest, houtcome]
      cases i <;> rfl

/-- **A transfer fares as if nothing happened but what concerns it.**  At a site with the same
record of it, its own incidents lead to the same record, and its attempts come to the same. -/
theorem fares_alone (holder id : String) {t : Site} (hs : s.IsReady) (ht : t.IsReady)
    (hstored : s.transfers.find? id = t.transfers.find? id) {incidents : List Incident}
    (h : ∀ i ∈ incidents, i.IsOfSubject result) :
    (undergo holder result incidents s).2.transfers.find? id =
        (undergo holder result (Incident.own id incidents) t).2.transfers.find? id ∧
      (undergo holder result incidents s).1.filter (·.1 == id) =
        (undergo holder result (Incident.own id incidents) t).1 := by
  induction incidents generalizing s t with
  | nil => exact ⟨hstored, rfl⟩
  | cons i rest ih =>
      obtain ⟨hi, hrest⟩ := List.forall_mem_cons.1 h
      obtain ⟨houtcome, halters⟩ := occur_spec holder hs hi
      rw [undergo_cons, List.filter_append, houtcome]
      by_cases hid : i.subject = id
      · -- The incident concerns the transfer: it happens at both sites.
        obtain ⟨houtcome', halters'⟩ := occur_spec holder ht hi
        have hkept : (i.outcome result (s.transfers.find? i.subject)).filter (·.1 == id) =
            i.outcome result (s.transfers.find? i.subject) :=
          List.filter_eq_self.2 fun e he => by simp [fst_of_mem_outcome he, hid]
        subst hid
        have hafter := halters.find?_self.trans
          ((congrArg (Option.map _) hstored).trans halters'.find?_self.symm)
        obtain ⟨hrecord, htold⟩ := ih halters.isReady halters'.isReady hafter hrest
        rw [Incident.own_cons, if_pos rfl, undergo_cons, houtcome', hkept, htold, hstored]
        exact ⟨hrecord, rfl⟩
      · -- The incident concerns another transfer, so that only the first site sees it.
        have hdropped : (i.outcome result (s.transfers.find? i.subject)).filter (·.1 == id) = [] :=
          List.filter_eq_nil_iff.2 fun e he => by simp [fst_of_mem_outcome he, hid]
        have hafter := (halters.find?_of_ne (Ne.symm hid)).trans hstored
        rw [Incident.own_cons, if_neg hid, hdropped, List.nil_append]
        exact ih halters.isReady ht hafter hrest

/-! ## Two orders -/

/-- What the attempts on a transfer came to, of all that was told. -/
def outcomesOf (id : String) (told : List (String × Bool)) : List Bool :=
  (told.filter (·.1 == id)).map (·.2)

/-- The report of a cycle, from what was told of the attempts on its batch. -/
def reportOf (batch : List Transfer) (told : List (String × Bool)) : CycleReport :=
  ⟨batch.length, told.countP (·.2)⟩

/-- Lists with the same entries under each key have the same entries. -/
theorem perm_of_filter_eq {told told' : List (String × Bool)}
    (h : ∀ id, told.filter (·.1 == id) = told'.filter (·.1 == id)) : told.Perm told' := by
  refine List.perm_iff_count.2 fun e => ?_
  have hcount : ∀ told : List (String × Bool),
      (told.filter (·.1 == e.1)).count e = told.count e := fun _ =>
    List.count_filter (beq_self_eq_true e.1)
  rw [← hcount told, h, hcount told']

/-- Of a transfer of the batch it is told once what the attempt on it came to. -/
theorem exists_outcome {batch : List Transfer} (distinct : batch.Pairwise fun p q => p.id ≠ q.id)
    {told : List (String × Bool)} (htold : (told.map (·.1)).Perm (batch.map (·.id)))
    {q : Transfer} (hq : q ∈ batch) : ∃ written, outcomesOf q.id told = [written] := by
  have hnodup : (told.map (·.1)).Nodup := htold.nodup_iff.2 (List.pairwise_map.2 distinct)
  have hmem : q.id ∈ told.map (·.1) := htold.mem_iff.2 (List.mem_map_of_mem hq)
  have hone : (told.filter (·.1 == q.id)).length = 1 := by
    rw [← List.countP_eq_length_filter]
    exact (List.countP_map ..).symm.trans (List.count_eq_one_of_mem hnodup hmem)
  obtain ⟨e, he⟩ := List.length_eq_one_iff.1 hone
  exact ⟨e.2, by rw [outcomesOf, he, List.map_singleton]⟩

/-- Two courses come to the same for a batch: what each told of the attempts, and the site that it
left. -/
structure SameEnd (batch : List Transfer) (one other : List (String × Bool) × Site) : Prop where
  /-- The records are the same. -/
  transfers_eq : one.2.transfers = other.2.transfers
  /-- The attempt on a transfer of the batch, which is finished once, comes to the same. -/
  outcome_eq : ∀ q ∈ batch, ∃ written,
    outcomesOf q.id one.1 = [written] ∧ outcomesOf q.id other.1 = [written]
  /-- The cycle reports the same. -/
  report_eq : reportOf batch one.1 = reportOf batch other.1

/-- **The results of a batch may be written back in any order.**  Let a batch be claimed from a
store, let every attempt on it come to a changed copy or to a failure, and let the attempts be
finished in two orders, with signals to anybody among them, that keep the place of the signals to a
transfer before and behind its own finish: what concerns one transfer comes in the same order in
both.  Then both lead to the same records, every attempt is written back in both or in none, and the
cycle reports the same. -/
theorem any_order_will_do {store : Transfers} (hs : store.IsKeyed) (states : List Transfer.State)
    (size : Nat) (c : Claim) {opened : Site} (calm : opened.failing = [])
    (claimed : opened.transfers = (store.claim states size c).2)
    {result : Transfer → Except Transfer.Refusal Transfer}
    (same_id : ∀ q ∈ (store.claim states size c).1, ∀ p, result q = .ok p → p.id = q.id)
    {first second : List Incident}
    (hfirst : Incident.Finishes (store.claim states size c).1 first)
    (hsecond : Incident.Finishes (store.claim states size c).1 second)
    (hown : ∀ id, Incident.own id first = Incident.own id second) :
    SameEnd (store.claim states size c).1
      (undergo c.holder result first opened) (undergo c.holder result second opened) := by
  have hready : opened.IsReady :=
    ⟨calm, claimed ▸ (Transfers.isKeyed_claim hs states size c).isSorted⟩
  have hsubjects : ∀ {incidents}, Incident.Finishes (store.claim states size c).1 incidents →
      ∀ i ∈ incidents, i.IsOfSubject result := by
    intro incidents hfinishes i hi q p hq hp
    exact same_id q (hfinishes.mem_iff.1 (List.mem_filterMap.2 ⟨i, hi, hq⟩)) p hp
  have hkept := hsubjects hfirst
  have hkept' := hsubjects hsecond
  have hsorted := (isReady_undergo c.holder hready hkept).isSorted
  have hsorted' := (isReady_undergo c.holder hready hkept').isSorted
  have hids := map_fst_undergo c.holder hready hkept
  -- In both orders a transfer fares as it does with its own incidents alone.
  have hfares := fun id => fares_alone c.holder id hready hready rfl hkept
  have hfares' := fun id => fares_alone c.holder id hready hready rfl hkept'
  generalize undergo c.holder result first opened = one at *
  generalize undergo c.holder result second opened = other at *
  have hrecords : ∀ id, one.2.transfers.find? id = other.2.transfers.find? id := fun id =>
    (hown id ▸ (hfares id).1).trans (hfares' id).1.symm
  have htold : ∀ id, one.1.filter (·.1 == id) = other.1.filter (·.1 == id) := fun id =>
    (hown id ▸ (hfares id).2).trans (hfares' id).2.symm
  refine ⟨congrArg Transfers.mk (Table.eq_of_get? hsorted hsorted' hrecords), ?_, ?_⟩
  · intro q hq
    obtain ⟨written, hwritten⟩ := exists_outcome (Transfers.pairwise_id_claim hs states size c)
      (hids ▸ hfirst.map _) hq
    refine ⟨written, hwritten, ?_⟩
    rw [outcomesOf, ← htold q.id]
    exact hwritten
  · exact congrArg (CycleReport.mk _) ((perm_of_filter_eq htold).countP_eq _)

/-- Of two transfers one is cancelled before its attempt is finished, which is in vain then, and the
other one after it was written back; a third one is suspended.  In both orders the cycle reports one
of two. -/
theorem any_order_will_do_for_two :
    let new (id : String) : Transfer := .create id .consumer default ⟨0⟩
    let c : Claim := ⟨"w", ⟨10⟩, 60⟩
    let store := Transfers.empty.after [.create (new "a"), .create (new "b"), .create (new "d")]
    let a := (new "a").leased c
    let b := (new "b").leased c
    let opened : Site :=
      { Site.create ⟨10⟩ 16 none with transfers := ⟨[("a", a), ("b", b), ("d", new "d")]⟩ }
    let result (q : Transfer) := q.step .begin ⟨20⟩
    let first : List Incident :=
      [.signal "a" .cancel, .finish a, .signal "d" .suspend, .finish b, .signal "b" .cancel]
    let second : List Incident :=
      [.finish b, .signal "a" .cancel, .signal "b" .cancel, .finish a, .signal "d" .suspend]
    store.IsKeyed ∧ opened.failing = [] ∧
      store.claim Transfer.State.actionable 2 c = ([a, b], opened.transfers) ∧
      (∀ q ∈ [a, b], ∀ p, result q = .ok p → p.id = q.id) ∧
      Incident.Finishes [a, b] first ∧ Incident.Finishes [a, b] second ∧
      (∀ id, Incident.own id first = Incident.own id second) ∧
      (undergo c.holder result first opened).1 = [("a", false), ("b", true)] ∧
      SameEnd [a, b] (undergo c.holder result first opened)
        (undergo c.holder result second opened) := by
  intro new c store a b opened result first second
  have hs : store.IsKeyed := Transfers.isKeyed_after Transfers.isKeyed_empty _
  have hline : store.line Transfer.State.actionable c = [new "a", new "b", new "d"] :=
    Transfers.line_eq hs (by decide +kernel) (by decide +kernel)
  have hchosen : store.chosen Transfer.State.actionable 2 c = [new "a", new "b"] := by
    rw [Transfers.chosen_eq, hline]
    rfl
  have hclaim : store.claim Transfer.State.actionable 2 c = ([a, b], opened.transfers) := by
    rw [Transfers.claim, hchosen]
    exact Prod.ext rfl (congrArg Transfers.mk (by decide +kernel))
  have same_id : ∀ q ∈ [a, b], ∀ p, result q = .ok p → p.id = q.id := by
    intro q _ p hp
    obtain ⟨_, -, rfl⟩ := Transfer.step_eq_ok_iff.1 hp
    rfl
  have hfirst : Incident.Finishes [a, b] first := .refl _
  have hsecond : Incident.Finishes [a, b] second := .swap ..
  have hown : ∀ id, Incident.own id first = Incident.own id second := by
    intro id
    by_cases ha : a.id = id
    · rw [← ha]
      rfl
    · by_cases hb : b.id = id
      · rw [← hb]
        rfl
      · have ha' : "a" ≠ id := ha
        have hb' : "b" ≠ id := hb
        simp only [first, second, Incident.own_cons, Incident.subject, ha, hb, ha', hb', if_false]
        rfl
  have htold : (undergo c.holder result first opened).1 = [("a", false), ("b", true)] := by
    decide +kernel
  have hbatch : (store.claim Transfer.State.actionable 2 c).1 = [a, b] := by rw [hclaim]
  have hsame := @any_order_will_do store hs Transfer.State.actionable 2 c opened rfl
    (by rw [hclaim]) result (by rw [hbatch]; exact same_id) first second
    (by rw [hbatch]; exact hfirst) (by rw [hbatch]; exact hsecond) hown
  rw [hbatch] at hsame
  exact ⟨hs, rfl, hclaim, same_id, hfirst, hsecond, hown, htold, hsame⟩

/-- The order of what concerns one transfer does matter: behind a cancellation a suspension is
refused. -/
example :
    let r := Transfer.create "t" .consumer default ⟨0⟩
    ((r.signalled .suspend).signalled .cancel).version = 2 ∧
      ((r.signalled .cancel).signalled .suspend).version = 1 := by
  decide

end SiteM
end Connector
