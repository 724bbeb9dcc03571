/-
# A summary agrees with the queries

A summary is one pass over the holdings, whatever order they come in, and never looks at the
index by worker. The queries about a worker walk that index instead. After any part of the
pass the summary has counted the holdings it has met, each under its producer, which is what
one more holding preserves. That the workers counted are those of the index, and that a
worker's counts are those of its own holdings, needs the two indexes to agree.
-/

import Mathlib.Algebra.BigOperators.Group.List.Basic
import Mathlib.Algebra.GroupWithZero.Nat
import PartitionLedger.Ledger.Summary
import PartitionLedger.Proofs.Ledger.Refinement

namespace PartitionLedger

open Collection

/-- One more item counts if it is chosen. -/
theorem countP_concat {α : Type} (chosen : α → Bool) (items : List α) (item : α) :
    (items ++ [item]).countP chosen = items.countP chosen + (chosen item).toNat := by
  rw [List.countP_append, List.countP_singleton]
  cases chosen item <;> rfl

/-- Items counted place by place are all counted, if there is a place for each of them. -/
theorem sum_map_countP_place {α κ : Type} [DecidableEq κ] (place : α → κ) (chosen : α → Bool)
    {places : List κ} (nodup : places.Nodup) {items : List α}
    (placed : ∀ item ∈ items, place item ∈ places) :
    (places.map fun spot => items.countP fun item => place item = spot && chosen item).sum =
      items.countP chosen := by
  induction items with
  | nil => simp
  | cons item items ih =>
    obtain ⟨here, later⟩ := List.forall_mem_cons.mp placed
    -- The first item is counted at its own place and nowhere else.
    have single := List.sum_map_eq_nsmul_single (l := places) (place item)
      (fun spot => if (place item = spot && chosen item) = true then 1 else 0)
      fun spot different _ => by simp [different.symm]
    rw [List.count_eq_one_of_mem nodup here, one_nsmul] at single
    simp only [List.countP_cons, List.sum_map_add, ih later, single, decide_true, Bool.true_and]

namespace Summary

/-- How many of the holdings a worker produced, and how many of those keep local resources. -/
def countsOf (holdings : List Holding) (worker : WorkerId) : WorkerCounts where
  partitions := holdings.countP fun holding => holding.producer = worker
  occupyingLocalResources :=
    holdings.countP fun holding => holding.producer = worker && holding.occupiesLocalResource

/-- One more holding counts for its producer only. -/
theorem countsOf_concat (holdings : List Holding) (holding : Holding) (worker : WorkerId) :
    countsOf (holdings ++ [holding]) worker =
      if holding.producer = worker then countAt (countsOf holdings worker) holding
      else countsOf holdings worker := by
  simp only [countsOf, countP_concat]
  by_cases produced : holding.producer = worker
  · simp only [produced, countAt, decide_true, Bool.true_and, Bool.toNat_true, if_true]
  · simp only [produced, decide_false, Bool.false_and, Bool.toNat_false, Nat.add_zero, if_false]

/-- A summary that has met these holdings and no others. -/
structure Counted (summary : Summary) (holdings : List Holding) : Prop where
  tracked : summary.tracked = holdings.length
  cluster : summary.cluster = holdings.countP (·.isCluster)
  nonCluster : summary.nonCluster = holdings.countP (!·.isCluster)
  occupyingLocalResources :
    summary.occupyingLocalResources = holdings.countP (·.occupiesLocalResource)
  counts : ∀ worker, (summary.workers.get? worker).getD {} = countsOf holdings worker
  /-- A worker has an entry as soon as it produced something. -/
  workers : ∀ worker, worker ∈ summary.workers.keys ↔
    ∃ holding ∈ holdings, holding.producer = worker

theorem Counted.empty : Counted {} [] where
  tracked := rfl
  cluster := rfl
  nonCluster := rfl
  occupyingLocalResources := rfl
  counts _ := rfl
  workers worker := by
    rw [OrderedMap.mem_keys_iff]
    simp [OrderedMap.get?_empty]

theorem Counted.count {summary : Summary} {holdings : List Holding}
    (counted : Counted summary holdings) (holding : Holding) :
    Counted (summary.count holding) (holdings ++ [holding]) where
  tracked := by
    rw [Summary.count, counted.tracked, List.length_append, List.length_singleton]
  cluster := by rw [Summary.count, counted.cluster, countP_concat]
  nonCluster := by rw [Summary.count, counted.nonCluster, countP_concat]
  occupyingLocalResources := by
    rw [Summary.count, counted.occupyingLocalResources, countP_concat]
  counts worker := by
    rw [Summary.count, OrderedMap.get?_insert, countsOf_concat, counted.counts]
    by_cases produced : holding.producer = worker
    · rw [if_pos produced, if_pos produced, Option.getD_some, produced]
    · rw [if_neg produced, if_neg produced, counted.counts]
  workers worker := by
    have before := counted.workers worker
    rw [OrderedMap.mem_keys_iff] at before
    rw [OrderedMap.mem_keys_iff, Summary.count, OrderedMap.get?_insert]
    by_cases produced : holding.producer = worker
    · simp [produced]
    · simp [produced, before]

/-- The pass counts what it meets, in whatever order. -/
theorem Counted.foldl {summary : Summary} {counted : List Holding}
    (before : Counted summary counted) (holdings : List Holding) :
    Counted (holdings.foldl Summary.count summary) (counted ++ holdings) := by
  induction holdings generalizing summary counted with
  | nil => rwa [List.append_nil]
  | cons holding holdings ih =>
    rw [List.append_cons]
    exact ih (before.count holding)

theorem counted_ofLedger (ledger : Ledger) : Counted (ofLedger ledger) ledger.holdings :=
  Counted.empty.foldl ledger.holdings

namespace Counted

variable {summary : Summary} {holdings : List Holding}

/-- Each holding is either of the cluster or of the job. -/
theorem cluster_add_nonCluster (counted : Counted summary holdings) :
    summary.cluster + summary.nonCluster = summary.tracked := by
  rw [counted.cluster, counted.nonCluster, counted.tracked]
  simpa only [Bool.not_eq_true, Bool.decide_eq_false] using
    (List.length_eq_countP_add_countP (l := holdings) (·.isCluster)).symm

theorem get?_of_mem_keys (counted : Counted summary holdings) {worker : WorkerId}
    (listed : worker ∈ summary.workers.keys) :
    summary.workers.get? worker = some (countsOf holdings worker) := by
  obtain ⟨counts, found⟩ := OrderedMap.mem_keys_iff.mp listed
  have same := counted.counts worker
  rw [found, Option.getD_some] at same
  rw [found, same]

/-- The entries of the summary, worker by worker. -/
theorem values_eq (counted : Counted summary holdings) :
    summary.workers.values = summary.workers.keys.map (countsOf holdings) := by
  rw [← OrderedMap.filterMap_get?_keys, ← List.filterMap_eq_map]
  apply List.filterMap_congr
  intro worker listed
  exact counted.get?_of_mem_keys listed

theorem producer_mem_keys (counted : Counted summary holdings) :
    ∀ holding ∈ holdings, holding.producer ∈ summary.workers.keys :=
  fun holding stored => (counted.workers _).mpr ⟨holding, stored, rfl⟩

theorem sum_partitions (counted : Counted summary holdings) :
    (summary.workers.values.map (·.partitions)).sum = summary.tracked := by
  have total := sum_map_countP_place Holding.producer (fun _ => true)
    summary.workers.nodup_keys counted.producer_mem_keys
  rw [List.countP_true, ← counted.tracked] at total
  rw [counted.values_eq, List.map_map, ← total]
  simp only [Bool.and_true]
  rfl

theorem sum_occupyingLocalResources (counted : Counted summary holdings) :
    (summary.workers.values.map (·.occupyingLocalResources)).sum =
      summary.occupyingLocalResources := by
  have total := sum_map_countP_place Holding.producer Holding.occupiesLocalResource
    summary.workers.nodup_keys counted.producer_mem_keys
  rw [← counted.occupyingLocalResources] at total
  rw [counted.values_eq, List.map_map, ← total]
  rfl

end Counted

/-! ### Against the queries -/

/-- The counts of a worker say what the queries about the worker answer. -/
structure AgreesAt (counts : WorkerCounts) (ledger : Ledger) (worker : WorkerId) : Prop where
  partitions : counts.partitions = (ledger.holdingsOf worker).length
  one_le_partitions : 1 ≤ counts.partitions
  occupyingLocalResources : counts.occupyingLocalResources =
    ((ledger.holdingsOf worker).filter (·.occupiesLocalResource)).length
  occupying_le_partitions : counts.occupyingLocalResources ≤ counts.partitions
  occupying_pos_iff : 0 < counts.occupyingLocalResources ↔ ledger.isTracking worker = true

/-- A summary says what the queries about the ledger answer. -/
structure Agrees (summary : Summary) (ledger : Ledger) : Prop where
  tracked : summary.tracked = ledger.size
  cluster : summary.cluster = ledger.clusterHoldings.length
  nonCluster : summary.nonCluster = ledger.jobHoldings.length
  split : summary.cluster + summary.nonCluster = summary.tracked
  occupyingLocalResources : summary.occupyingLocalResources =
    (ledger.holdings.filter (·.occupiesLocalResource)).length
  workers : summary.workers.keys = ledger.workers
  counts : ∀ worker ∈ ledger.workers, ∃ counts,
    summary.workers.get? worker = some counts ∧ AgreesAt counts ledger worker
  /-- The counts of all workers add up to those of the ledger. -/
  sum_partitions : (summary.workers.values.map (·.partitions)).sum = summary.tracked
  sum_occupyingLocalResources :
    (summary.workers.values.map (·.occupyingLocalResources)).sum = summary.occupyingLocalResources

/-- The counts of a worker are those of its own holdings. -/
theorem countsOf_holdings {ledger : Ledger} (coherent : ledger.Coherent) (worker : WorkerId) :
    countsOf ledger.holdings worker =
      ⟨(ledger.holdingsOf worker).length,
        ((ledger.holdingsOf worker).filter (·.occupiesLocalResource)).length⟩ := by
  rw [coherent.holdingsOf_eq, ← Ledger.holdings, List.filter_filter, countsOf,
    List.countP_eq_length_filter, List.countP_eq_length_filter]
  simp only [Bool.and_comm]

theorem agreesAt_countsOf {ledger : Ledger} (coherent : ledger.Coherent) {worker : WorkerId}
    (listed : worker ∈ ledger.workers) :
    AgreesAt (countsOf ledger.holdings worker) ledger worker := by
  obtain ⟨holding, stored, produced⟩ := (coherent.answers.workers.2 worker).mp listed
  have member : holding ∈ ledger.holdingsOf worker :=
    ((coherent.answers.holdingsOf worker).2 holding).mpr ⟨stored, produced⟩
  rw [countsOf_holdings coherent]
  exact {
    partitions := rfl
    one_le_partitions := List.length_pos_of_mem member
    occupyingLocalResources := rfl
    occupying_le_partitions := List.length_filter_le _ _
    occupying_pos_iff := by
      rw [List.length_filter_pos_iff, Ledger.isTracking, List.any_eq_true] }

theorem agrees_of_coherent {ledger : Ledger} (coherent : ledger.Coherent) :
    Agrees (ofLedger ledger) ledger := by
  have counted := counted_ofLedger ledger
  have keys : (ofLedger ledger).workers.keys = ledger.workers := by
    apply OrderedMap.keys_eq_of_mem_iff
    intro worker
    rw [counted.workers, ← Ledger.workers, coherent.answers.workers.2]
    simp only [coherent.answers.holdings.2]
  exact {
    tracked := counted.tracked.trans (List.length_map ..)
    cluster := by
      rw [counted.cluster, List.countP_eq_length_filter, Ledger.clusterHoldings]
    nonCluster := by
      rw [counted.nonCluster, List.countP_eq_length_filter, Ledger.jobHoldings]
    split := counted.cluster_add_nonCluster
    occupyingLocalResources := by
      rw [counted.occupyingLocalResources, List.countP_eq_length_filter]
    workers := keys
    counts := fun worker listed =>
      ⟨_, counted.get?_of_mem_keys (keys ▸ listed), agreesAt_countsOf coherent listed⟩
    sum_partitions := counted.sum_partitions
    sum_occupyingLocalResources := counted.sum_occupyingLocalResources }

/-- Whatever has been done to a ledger since it was empty, its summary, which is counted in one
pass, agrees with the size of the ledger, its lists of holdings, its workers and what it says
about each of them. -/
theorem ofLedger_agrees (changes : List Ledger.Change) :
    let ledger := (Ledger.empty.changeAll changes).2
    Agrees (ofLedger ledger) ledger :=
  agrees_of_coherent (Ledger.Coherent.empty.changeAll changes)

end Summary

end PartitionLedger
