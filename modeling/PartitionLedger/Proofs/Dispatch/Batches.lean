/-
# What the batches of a dispatch come to

The order in which holdings were removed is lost in the batches, and so in the calls. Taken
together, the calls that a dispatch prepares, issued or not, carry each removed holding with
local resources exactly once, since different holdings are of different partitions and each
has one producer. The sizes of the batches therefore add up to the number of those holdings.
-/

import PartitionLedger.Proofs.Dispatch.Issue

namespace PartitionLedger

open Collection

namespace Dispatch

/-- The calls that a dispatch prepared, whether or not their workers were found. -/
def prepared (dispatch : Dispatch) : List WorkerCall := dispatch.calls ++ dispatch.skipped

/-- The partitions that prepared calls carry, as often as they are carried. -/
def carried (dispatch : Dispatch) : List PartitionId :=
  dispatch.prepared.flatMap fun call => OrderedSet.toList call.partitions

/-- A call that would have carried the partition to the worker was not issued. -/
def Skips (dispatch : Dispatch) (worker : WorkerId) (id : PartitionId) : Prop :=
  ∃ call ∈ dispatch.skipped, call.worker = worker ∧ call.partitions.contains id = true

/-- The dispatches differ in the order of what they report at most. -/
structure Alike (first second : Dispatch) : Prop where
  untracked : first.untracked.Perm second.untracked
  calls : first.calls = second.calls
  skipped : first.skipped = second.skipped
  notices : first.notices.Perm second.notices

/-- The order of the removed holdings does not matter to the batches. -/
theorem batches_perm {removed removed' : List Holding} (perm : removed.Perm removed') :
    batches removed = batches removed' := by
  apply Ledger.eq_of_lists_iff (batches_populated removed) (batches_populated removed')
  intro worker id
  rw [batches_lists, batches_lists]
  simp only [perm.mem_iff]

section Issue

variable (job : JobId) (resolves : WorkerId → Bool) (disposition : Disposition) (notify : Bool)
  {removed removed' : List Holding}

theorem issue_alike (perm : removed.Perm removed') :
    Alike (issue job resolves disposition notify removed)
      (issue job resolves disposition notify removed') := by
  constructor
  case untracked => exact perm.map _
  case calls =>
    rw [issue, batches_perm perm]
    rfl
  case skipped =>
    rw [issue, batches_perm perm]
    rfl
  case notices =>
    cases notify with
    | false => exact List.Perm.refl _
    | true => exact perm.map _

/-- Partitions whose producers are not found are skipped. -/
theorem issue_skips_iff (removed : List Holding) (worker : WorkerId) (id : PartitionId) :
    (issue job resolves disposition notify removed).Skips worker id ↔
      resolves worker = false ∧ ∃ holding ∈ removed, holding.occupiesLocalResource = true ∧
        holding.producer = worker ∧ holding.partitionId = id := by
  -- What is skipped is what would be sent if exactly the other workers were found.
  rw [← Bool.not_eq_true']
  exact issue_sends_iff job (fun worker => !resolves worker) disposition notify removed worker id

/-- Every batch is in one prepared call. -/
theorem issue_prepared_perm (removed : List Holding) :
    (issue job resolves disposition notify removed).prepared.Perm
      ((batches removed).entries.map fun batch => ⟨batch.1, job, disposition, batch.2⟩) :=
  List.filter_append_perm _ _

/-- The prepared calls carry each removed holding that occupies local resources, and nothing
else. -/
theorem issue_carried_perm (distinct : (removed.map (·.partitionId)).Nodup) :
    (issue job resolves disposition notify removed).carried.Perm
      ((removed.filter (·.occupiesLocalResource)).map (·.partitionId)) := by
  have listed : ∀ batch ∈ (batches removed).entries, ∀ id, id ∈ OrderedSet.toList batch.2 ↔
      ∃ holding ∈ removed, holding.occupiesLocalResource = true ∧ holding.producer = batch.1 ∧
        holding.partitionId = id := by
    intro batch inside id
    rw [← batches_lists, Ledger.lists_of_get? (OrderedMap.get?_eq_some_iff.mpr inside),
      OrderedSet.mem_toList]
  have batched : (issue job resolves disposition notify removed).carried.Perm
      ((batches removed).entries.flatMap fun batch => OrderedSet.toList batch.2) := by
    have flattened := (issue_prepared_perm job resolves disposition notify removed).flatMap_right
      fun call => OrderedSet.toList call.partitions
    rwa [List.flatMap_map] at flattened
  refine batched.trans ((List.perm_ext_iff_of_nodup ?_ ?_).mpr ?_)
  · rw [List.nodup_flatMap]
    refine ⟨fun batch _ => OrderedSet.nodup_toList batch.2, ?_⟩
    refine (batches removed).ascending.imp_of_mem ?_
    intro first second inside inside' less id carried carried'
    obtain ⟨holding, removed₁, _, produced, own⟩ := (listed first inside id).mp carried
    obtain ⟨other, removed₂, _, produced', own'⟩ := (listed second inside' id).mp carried'
    have same := List.inj_on_of_nodup_map distinct removed₁ removed₂ (own.trans own'.symm)
    rw [← produced, ← produced', same] at less
    exact StrictOrder.irrefl _ less
  · exact distinct.sublist (List.filter_sublist.map _)
  · intro id
    simp only [List.mem_flatMap, List.mem_map, List.mem_filter]
    constructor
    · rintro ⟨batch, inside, carried⟩
      obtain ⟨holding, stored, occupies, _, own⟩ := (listed batch inside id).mp carried
      exact ⟨holding, ⟨stored, occupies⟩, own⟩
    · rintro ⟨holding, ⟨stored, occupies⟩, own⟩
      obtain ⟨partitions, batch, named⟩ := (batches_lists removed holding.producer id).mpr
        ⟨holding, stored, occupies, rfl, own⟩
      exact ⟨(holding.producer, partitions), OrderedMap.get?_eq_some_iff.mp batch,
        OrderedSet.mem_toList.mpr named⟩

end Issue

end Dispatch

end PartitionLedger
