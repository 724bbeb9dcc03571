/-
# What a dispatch issues

A dispatch is made from the holdings that were removed. Its batches list a partition
under a worker exactly when a removed holding with local resources says so, by the same
indexing as in a ledger, so that no batch is empty. The calls are the batches of the
workers that were found, one for each; the notices follow the removed holdings one by
one. Of a single partition, a dispatch therefore issues what its one holding asks for.
-/

import PartitionLedger.Dispatch
import PartitionLedger.Proofs.Ledger.Coherence

namespace PartitionLedger

open Collection

namespace Dispatch

/-! ### Batches -/

theorem foldl_addToBatch_lists (removed : List Holding)
    (batches : OrderedMap WorkerId (OrderedSet PartitionId)) (worker : WorkerId)
    (id : PartitionId) :
    Ledger.Lists (removed.foldl addToBatch batches) worker id ↔
      (∃ holding ∈ removed, holding.occupiesLocalResource = true ∧ holding.producer = worker ∧
        holding.partitionId = id) ∨ Ledger.Lists batches worker id := by
  induction removed generalizing batches with
  | nil => simp
  | cons holding removed ih =>
    rw [List.foldl_cons, ih, addToBatch]
    simp only [List.mem_cons, exists_eq_or_imp]
    by_cases occupies : holding.occupiesLocalResource = true
    · -- Adding to a batch is indexing, as in a ledger.
      have indexed := @Ledger.lists_index batches holding.producer worker holding.partitionId id
      rw [Ledger.index] at indexed
      rw [if_pos occupies, indexed]
      simp only [occupies, true_and]
      exact or_left_comm.trans or_assoc.symm
    · simp [occupies]

theorem foldl_addToBatch_populated (removed : List Holding)
    {batches : OrderedMap WorkerId (OrderedSet PartitionId)}
    (populated : Ledger.Populated batches) :
    Ledger.Populated (removed.foldl addToBatch batches) := by
  induction removed generalizing batches with
  | nil => exact populated
  | cons holding removed ih =>
    rw [List.foldl_cons, addToBatch]
    apply ih
    split
    · exact Ledger.populated_index populated holding.producer holding.partitionId
    · exact populated

/-- A batch lists a partition exactly when its worker produced it and keeps resources. -/
theorem batches_lists (removed : List Holding) (worker : WorkerId) (id : PartitionId) :
    Ledger.Lists (batches removed) worker id ↔
      ∃ holding ∈ removed, holding.occupiesLocalResource = true ∧ holding.producer = worker ∧
        holding.partitionId = id := by
  rw [batches, foldl_addToBatch_lists]
  have nothing : ¬ Ledger.Lists ∅ worker id := Ledger.not_lists_of_get?_none rfl id
  simp only [nothing, or_false]

/-- No batch is empty. -/
theorem batches_populated (removed : List Holding) : Ledger.Populated (batches removed) :=
  foldl_addToBatch_populated removed fun _ _ found => nomatch found

/-- A worker has a batch exactly when it produced something that keeps resources. -/
theorem mem_keys_batches_iff (removed : List Holding) (worker : WorkerId) :
    worker ∈ (batches removed).keys ↔
      ∃ holding ∈ removed, holding.occupiesLocalResource = true ∧ holding.producer = worker := by
  rw [Ledger.mem_keys_iff_lists (batches_populated removed)]
  simp only [batches_lists]
  constructor
  · rintro ⟨_, holding, inside, occupies, produced, _⟩
    exact ⟨holding, inside, occupies, produced⟩
  · rintro ⟨holding, inside, occupies, produced⟩
    exact ⟨_, holding, inside, occupies, produced, rfl⟩

/-- A call of the dispatch carries the partition to the worker. -/
def Sends (dispatch : Dispatch) (worker : WorkerId) (id : PartitionId) : Prop :=
  ∃ call ∈ dispatch.calls, call.worker = worker ∧ call.partitions.contains id = true

section Issue

variable (job : JobId) (resolves : WorkerId → Bool) (disposition : Disposition) (notify : Bool)
  (removed : List Holding)

/-- The calls are the batches of the workers that were found. -/
theorem mem_issue_calls_iff (call : WorkerCall) :
    call ∈ (issue job resolves disposition notify removed).calls ↔
      (batches removed).get? call.worker = some call.partitions ∧ call.job = job ∧
        call.disposition = disposition ∧ resolves call.worker = true := by
  simp only [issue, List.mem_filter, List.mem_map]
  constructor
  · rintro ⟨⟨batch, inside, rfl⟩, found⟩
    exact ⟨OrderedMap.get?_eq_some_iff.mpr inside, rfl, rfl, found⟩
  · rintro ⟨batch, rfl, rfl, found⟩
    exact ⟨⟨(call.worker, call.partitions), OrderedMap.get?_eq_some_iff.mp batch, rfl⟩, found⟩

/-- The workers called are those with a batch that were found, in ascending order. -/
theorem issue_workersCalled :
    (issue job resolves disposition notify removed).workersCalled =
      (batches removed).keys.filter resolves := by
  simp only [workersCalled, issue, OrderedMap.keys, List.filter_map, List.map_map]
  rfl

/-- The workers out of reach are those with a batch that were not found. -/
theorem issue_unreachableWorkers :
    (issue job resolves disposition notify removed).unreachableWorkers =
      (batches removed).keys.filter fun worker => !resolves worker := by
  simp only [unreachableWorkers, issue, OrderedMap.keys, List.filter_map, List.map_map]
  rfl

/-- No worker is sent two calls. -/
theorem nodup_issue_workersCalled :
    (issue job resolves disposition notify removed).workersCalled.Nodup := by
  rw [issue_workersCalled]
  exact (batches removed).nodup_keys.filter _

/-- The workers that were found are the producers of such partitions within reach. -/
theorem mem_issue_workersCalled_iff (worker : WorkerId) :
    worker ∈ (issue job resolves disposition notify removed).workersCalled ↔
      resolves worker = true ∧ ∃ holding ∈ removed, holding.occupiesLocalResource = true ∧
        holding.producer = worker := by
  rw [issue_workersCalled, List.mem_filter, mem_keys_batches_iff, and_comm]

/-- A call names a partition exactly when the call's worker produced it and keeps
resources for it. -/
theorem contains_of_mem_calls {call : WorkerCall}
    (issued : call ∈ (issue job resolves disposition notify removed).calls) (id : PartitionId) :
    call.partitions.contains id = true ↔
      ∃ holding ∈ removed, holding.occupiesLocalResource = true ∧
        holding.producer = call.worker ∧ holding.partitionId = id := by
  obtain ⟨batch, _⟩ := (mem_issue_calls_iff job resolves disposition notify removed call).mp issued
  rw [← batches_lists, Ledger.lists_of_get? batch]

/-- Partitions with local resources are sent to their producers, if those are found. -/
theorem issue_sends_iff (worker : WorkerId) (id : PartitionId) :
    (issue job resolves disposition notify removed).Sends worker id ↔
      resolves worker = true ∧ ∃ holding ∈ removed, holding.occupiesLocalResource = true ∧
        holding.producer = worker ∧ holding.partitionId = id := by
  constructor
  · rintro ⟨call, issued, rfl, named⟩
    have found := (mem_issue_calls_iff job resolves disposition notify removed call).mp issued
    exact ⟨found.2.2.2,
      (contains_of_mem_calls job resolves disposition notify removed issued id).mp named⟩
  · rintro ⟨found, asked⟩
    obtain ⟨partitions, batch, named⟩ := (batches_lists removed worker id).mpr asked
    exact ⟨⟨worker, job, disposition, partitions⟩,
      (mem_issue_calls_iff job resolves disposition notify removed _).mpr ⟨batch, rfl, rfl, found⟩,
      rfl, named⟩

/-- Only what was removed is sent to anyone. -/
theorem mem_issue_untracked_of_sends {worker : WorkerId} {id : PartitionId}
    (sent : (issue job resolves disposition notify removed).Sends worker id) :
    id ∈ (issue job resolves disposition notify removed).untracked := by
  obtain ⟨_, holding, inside, _, _, same⟩ :=
    (issue_sends_iff job resolves disposition notify removed worker id).mp sent
  exact List.mem_map.mpr ⟨holding, inside, same⟩

/-- The workers that were not found are the other producers of such partitions. -/
theorem mem_issue_unreachableWorkers_iff (worker : WorkerId) :
    worker ∈ (issue job resolves disposition notify removed).unreachableWorkers ↔
      resolves worker = false ∧ ∃ holding ∈ removed, holding.occupiesLocalResource = true ∧
        holding.producer = worker := by
  rw [issue_unreachableWorkers, List.mem_filter, mem_keys_batches_iff, Bool.not_eq_true',
    and_comm]

end Issue

/-! ### One partition -/

/-- The notices about a partition. -/
def noticesOf (dispatch : Dispatch) (id : PartitionId) : List ShuffleDescriptor :=
  dispatch.notices.filter fun descriptor => descriptor.partitionId = id

/-- The calls that name a partition. -/
def callsNaming (dispatch : Dispatch) (id : PartitionId) : List WorkerCall :=
  dispatch.calls.filter fun call => call.partitions.contains id

section OnePartition

variable (job : JobId) (resolves : WorkerId → Bool) (disposition : Disposition) (notify : Bool)
  {removed : List Holding} {id : PartitionId} {found : Option Holding}
  (own : (removed.filter fun holding => holding.partitionId = id) = found.toList)

include own

/-- A partition is listed once if one of the removed holdings is its own. -/
theorem count_issue_untracked :
    (issue job resolves disposition notify removed).untracked.count id =
      found.toList.length := by
  rw [← own, issue, List.count_eq_countP, List.countP_map, ← List.countP_eq_length_filter]
  apply List.countP_congr
  intro holding _
  simp

theorem issue_noticesOf :
    (issue job resolves disposition notify removed).noticesOf id =
      if notify then found.toList.map (·.shuffle) else [] := by
  rw [noticesOf, issue]
  cases notify with
  | false => rfl
  | true =>
    rw [if_pos rfl, if_pos rfl, ← own, List.filter_map]
    rfl

/-- A partition without local resources, or that was not removed, is named by no call. -/
theorem issue_callsNaming_eq_nil
    (idle : ∀ holding, found = some holding → holding.occupiesLocalResource = false) :
    (issue job resolves disposition notify removed).callsNaming id = [] := by
  rw [callsNaming, List.filter_eq_nil_iff]
  intro call issued named
  obtain ⟨holding, inside, occupies, _, same⟩ :=
    (contains_of_mem_calls job resolves disposition notify removed issued id).mp named
  have mine : holding ∈ found.toList := by
    rw [← own, List.mem_filter]
    exact ⟨inside, by simpa using same⟩
  rw [idle holding (Option.mem_toList.mp mine)] at occupies
  cases occupies

/-- A partition with local resources is named by the one call to its producer, if the
producer is found. -/
theorem issue_callsNaming_of_occupies {holding : Holding} (single : found = some holding)
    (occupies : holding.occupiesLocalResource = true) :
    ∃ partitions, (issue job resolves disposition notify removed).callsNaming id =
      if resolves holding.producer then [⟨holding.producer, job, disposition, partitions⟩]
      else [] := by
  subst single
  have only : ∀ other, (other ∈ removed ∧ other.partitionId = id) ↔ other = holding := by
    intro other
    have members : other ∈ (removed.filter fun holding => holding.partitionId = id) ↔
        other ∈ [holding] := by rw [own, Option.toList_some]
    rwa [List.mem_filter, decide_eq_true_iff, List.mem_singleton] at members
  obtain ⟨inside, same⟩ := (only holding).mpr rfl
  -- The batch of the producer is not empty, since the holding is in it.
  obtain ⟨partitions, batch, named⟩ :=
    (batches_lists removed holding.producer id).mpr ⟨holding, inside, occupies, rfl, same⟩
  refine ⟨partitions, ?_⟩
  have calls : ∀ call, call ∈ (issue job resolves disposition notify removed).callsNaming id ↔
      resolves holding.producer = true ∧
        call = ⟨holding.producer, job, disposition, partitions⟩ := by
    intro call
    rw [callsNaming, List.mem_filter]
    constructor
    · rintro ⟨issued, names⟩
      obtain ⟨other, inside', _, produced, same'⟩ :=
        (contains_of_mem_calls job resolves disposition notify removed issued id).mp names
      obtain rfl := (only other).mp ⟨inside', same'⟩
      obtain ⟨batch', asked, disposed, resolved⟩ :=
        (mem_issue_calls_iff job resolves disposition notify removed call).mp issued
      rw [← produced] at batch' resolved
      rw [batch] at batch'
      refine ⟨resolved, ?_⟩
      cases call
      cases produced
      cases asked
      cases disposed
      cases batch'
      rfl
    · rintro ⟨resolved, rfl⟩
      exact ⟨(mem_issue_calls_iff job resolves disposition notify removed _).mpr
        ⟨batch, rfl, rfl, resolved⟩, named⟩
  have workers := nodup_issue_workersCalled job resolves disposition notify removed
  have nodup : ((issue job resolves disposition notify removed).callsNaming id).Nodup :=
    (List.Nodup.of_map _ workers).filter _
  cases resolved : resolves holding.producer with
  | false =>
    rw [if_neg Bool.false_ne_true, List.eq_nil_iff_forall_not_mem]
    intro call names
    have := ((calls call).mp names).1
    rw [resolved] at this
    cases this
  | true =>
    rw [if_pos rfl, ← Option.toList_some]
    apply eq_toList_of_mem_iff nodup
    intro call
    rw [calls, resolved, Option.some.injEq, eq_comm (a := call)]
    simp

end OnePartition

end Dispatch

end PartitionLedger
