/-
# Taking holdings out

Both ways of removing holdings do the same to the map of holdings: they take the listed
partitions out of it, one after the other. A partition that is listed again is gone by
then, so each holding is returned once, where its partition is listed first.
-/

import PartitionLedger.Ledger.Basic
import PartitionLedger.Proofs.Collection.Members

namespace PartitionLedger

open Collection

section FirstOccurrences

variable {α : Type} [DecidableEq α]

/-- Dropping repetitions and dropping by a test can be done in either order. -/
theorem eraseDups_filter (test : α → Bool) (members : List α) :
    (members.filter test).eraseDups = members.eraseDups.filter test := by
  match members with
  | [] => rfl
  | first :: rest =>
    -- The recursion of `eraseDups` goes through a filter, so the tail is not `rest`.
    have shorter : (rest.filter fun other => !other == first).length < rest.length + 1 :=
      Nat.lt_succ_of_le (List.length_filter_le _ _)
    have ih := eraseDups_filter test (rest.filter fun other => !other == first)
    rw [List.eraseDups_cons]
    by_cases kept : test first = true
    · rw [List.filter_cons_of_pos kept, List.filter_cons_of_pos kept, List.eraseDups_cons, ← ih]
      rw [List.filter_filter, List.filter_filter]
      simp only [Bool.and_comm]
    · rw [List.filter_cons_of_neg kept, List.filter_cons_of_neg kept, ← ih, List.filter_filter]
      refine congrArg List.eraseDups (List.filter_congr fun other _ => ?_)
      by_cases same : other = first
      · simpa [same] using kept
      · simp [same]
termination_by members.length

theorem nodup_eraseDups (members : List α) : members.eraseDups.Nodup := by
  match members with
  | [] => exact List.nodup_nil
  | first :: rest =>
    have shorter : (rest.filter fun other => !other == first).length < rest.length + 1 :=
      Nat.lt_succ_of_le (List.length_filter_le _ _)
    rw [List.eraseDups_cons, List.nodup_cons]
    refine ⟨?_, nodup_eraseDups (rest.filter fun other => !other == first)⟩
    rw [List.mem_eraseDups, List.mem_filter]
    simp
termination_by members.length

theorem eraseDups_of_nodup {members : List α} (nodup : members.Nodup) :
    members.eraseDups = members := by
  induction members with
  | nil => rfl
  | cons first rest ih =>
    obtain ⟨fresh, nodupRest⟩ := List.nodup_cons.mp nodup
    have others : (rest.filter fun other => !other == first) = rest := by
      rw [List.filter_eq_self]
      intro other inside
      have different : other ≠ first := fun same => fresh (same ▸ inside)
      simpa using different
    rw [List.eraseDups_cons, others, ih nodupRest]

end FirstOccurrences

namespace Ledger

/-- Taking out a list of partitions returns what look-ups at their first occurrences give. -/
theorem takeHoldings_fst (holdings : OrderedMap PartitionId Holding) (ids : List PartitionId) :
    (takeHoldings holdings ids).1 = ids.eraseDups.filterMap holdings.get? := by
  induction ids generalizing holdings with
  | nil => rfl
  | cons id ids ih =>
    have later : (takeHoldings (holdings.erase id) ids).1 =
        (ids.filter fun other => !other == id).eraseDups.filterMap holdings.get? := by
      rw [ih, eraseDups_filter, List.filterMap_filter]
      apply List.filterMap_congr
      intro other _
      rw [OrderedMap.get?_erase]
      by_cases same : id = other
      · simp [same]
      · simp [same, Ne.symm same]
    rw [List.eraseDups_cons, List.filterMap_cons, ← later, takeHoldings]
    cases holdings.get? id <;> rfl

/-- Taking out a list of partitions leaves the others as they were. -/
theorem takeHoldings_snd (holdings : OrderedMap PartitionId Holding) (ids : List PartitionId) :
    (takeHoldings holdings ids).2 = holdings.filter fun id _ => !ids.contains id := by
  have looked : ∀ id, (takeHoldings holdings ids).2.get? id =
      if id ∈ ids then none else holdings.get? id := by
    intro id
    induction ids generalizing holdings with
    | nil => rfl
    | cons first ids ih =>
      have kept : (takeHoldings holdings (first :: ids)).2 =
          (takeHoldings (holdings.erase first) ids).2 := by
        rw [takeHoldings]
        cases holdings.get? first <;> rfl
      rw [kept, ih, OrderedMap.get?_erase]
      by_cases same : first = id
      · simp [same]
      · simp [same, Ne.symm same]
  apply OrderedMap.ext_get?
  intro id
  rw [looked, OrderedMap.get?_filter_key]
  by_cases listed : id ∈ ids <;> simp [listed]

/-! ### One partition -/

@[simp]
theorem remove_fst (ledger : Ledger) (id : PartitionId) :
    (ledger.remove id).1 = ledger.get? id := by
  rw [remove, get?]
  cases ledger.byPartition.get? id <;> rfl

@[simp]
theorem remove_byPartition (ledger : Ledger) (id : PartitionId) :
    (ledger.remove id).2.byPartition = ledger.byPartition.erase id := by
  rw [remove]
  cases found : ledger.byPartition.get? id with
  | some holding => rfl
  | none =>
    apply OrderedMap.ext_get?
    intro other
    rw [OrderedMap.get?_erase]
    by_cases same : id = other
    · rw [if_pos same, ← same, found]
    · rw [if_neg same]

/-! ### A list of partitions -/

theorem removeAll_cons (ledger : Ledger) (id : PartitionId) (ids : List PartitionId) :
    ledger.removeAll (id :: ids) =
      ((ledger.get? id).toList ++ ((ledger.remove id).2.removeAll ids).1,
        ((ledger.remove id).2.removeAll ids).2) := by
  rw [removeAll, ← remove_fst]
  rcases ledger.remove id with ⟨_ | holding, left⟩ <;> rfl

/-- As far as holdings go, removing a list of partitions is taking them out of the map. -/
theorem removeAll_eq_takeHoldings (ledger : Ledger) (ids : List PartitionId) :
    (ledger.removeAll ids).1 = (takeHoldings ledger.byPartition ids).1 ∧
      (ledger.removeAll ids).2.byPartition = (takeHoldings ledger.byPartition ids).2 := by
  induction ids generalizing ledger with
  | nil => exact ⟨rfl, rfl⟩
  | cons id ids ih =>
    obtain ⟨returned, left⟩ := ih (ledger.remove id).2
    rw [remove_byPartition] at returned left
    rw [removeAll_cons, takeHoldings, get?, returned, left]
    cases ledger.byPartition.get? id <;> exact ⟨rfl, rfl⟩

theorem removeAll_fst (ledger : Ledger) (ids : List PartitionId) :
    (ledger.removeAll ids).1 = ids.eraseDups.filterMap ledger.byPartition.get? := by
  rw [(ledger.removeAll_eq_takeHoldings ids).1, takeHoldings_fst]

theorem removeAll_byPartition (ledger : Ledger) (ids : List PartitionId) :
    (ledger.removeAll ids).2.byPartition =
      ledger.byPartition.filter fun id _ => !ids.contains id := by
  rw [(ledger.removeAll_eq_takeHoldings ids).2, takeHoldings_snd]

/-! ### Registration -/

/-- What registering does to the map of holdings. -/
theorem register_byPartition (ledger : Ledger) (holding : Holding)
    (tracked : holding.kind.requiresTracking = true) :
    (ledger.register holding).2.byPartition =
      ledger.byPartition.insert holding.partitionId holding := by
  rw [register, if_pos tracked]
  apply OrderedMap.ext_get?
  intro id
  rw [OrderedMap.get?_insert, OrderedMap.get?_insert, remove_byPartition, OrderedMap.get?_erase]
  by_cases same : holding.partitionId = id <;> simp [same]

theorem register_fst (ledger : Ledger) (holding : Holding) :
    (ledger.register holding).1 = holding.kind.requiresTracking := by
  rw [register]
  cases holding.kind.requiresTracking <;> rfl

theorem register_of_not_tracked (ledger : Ledger) (holding : Holding)
    (untracked : holding.kind.requiresTracking = false) :
    (ledger.register holding).2 = ledger := by
  rw [register, if_neg (by simp [untracked])]

theorem get?_register (ledger : Ledger) (holding : Holding)
    (tracked : holding.kind.requiresTracking = true) (id : PartitionId) :
    (ledger.register holding).2.get? id =
      if holding.partitionId = id then some holding else ledger.get? id := by
  rw [get?, register_byPartition ledger holding tracked, OrderedMap.get?_insert, get?]

/-! ### A worker -/

/-- The set of a removed worker is dropped in one piece. -/
theorem removeWorker_byWorker (ledger : Ledger) (worker : WorkerId) :
    (ledger.removeWorker worker).2.byWorker = ledger.byWorker.erase worker := by
  rw [removeWorker]
  cases found : ledger.byWorker.get? worker with
  | some ids => rfl
  | none =>
    apply OrderedMap.ext_get?
    intro other
    rw [OrderedMap.get?_erase]
    by_cases same : worker = other
    · rw [if_pos same, ← same, found]
    · rw [if_neg same]

end Ledger

end PartitionLedger
