/-
# A ledger is one map

To its users a ledger is a finite map from partitions to holdings. Half of its queries
read the map of holdings only; the other half walk the index by worker and leave out
what does not resolve, so that they agree with the map only as long as the indexes
agree. Whatever is done to a ledger since it was empty, it returns and answers what the
plain ledger does.
-/

import PartitionLedger.Ledger.Plain
import PartitionLedger.Proofs.Ledger.Coherence

namespace PartitionLedger

open Collection

namespace PlainLedger

/-- Carry out a change. -/
def change (ledger : PlainLedger) : Ledger.Change → Ledger.Returned × PlainLedger
  | .register producer deployment =>
    let (flag, ledger) := ledger.register (.ofDeployment producer deployment)
    (.registered flag, ledger)
  | .removeWorker worker =>
    let (holdings, ledger) := ledger.removeWorker worker
    (.removed holdings, ledger)
  | .removeAll ids =>
    let (holdings, ledger) := ledger.removeAll ids
    (.removed holdings, ledger)

/-- Carry out changes in order. -/
def changeAll (ledger : PlainLedger) : List Ledger.Change → List Ledger.Returned × PlainLedger
  | [] => ([], ledger)
  | change :: changes =>
    let (returned, ledger) := ledger.change change
    let (later, ledger) := ledger.changeAll changes
    (returned :: later, ledger)

/-- The holding is in the map. -/
def Holds (ledger : PlainLedger) (holding : Holding) : Prop :=
  ∃ id, ledger.byPartition.get? id = some holding

end PlainLedger

namespace Ledger

/-- Every query about a ledger is answered from the map. What the order of a list is
does not matter, but nothing is listed twice. -/
structure Answers (ledger : Ledger) (plain : PlainLedger) : Prop where
  get? : ∀ id, ledger.get? id = plain.byPartition.get? id
  isTracked : ∀ id, ledger.isTracked id = true ↔
    ∃ holding, plain.byPartition.get? id = some holding
  size : ledger.size = plain.byPartition.size
  isEmpty : ledger.isEmpty = true ↔ ∀ id, plain.byPartition.get? id = none
  isTracking : ∀ worker, ledger.isTracking worker = true ↔
    ∃ holding, plain.Holds holding ∧ holding.producer = worker ∧
      holding.occupiesLocalResource = true
  holdings : ledger.holdings.Nodup ∧
    ∀ holding, holding ∈ ledger.holdings ↔ plain.Holds holding
  holdingsOf : ∀ worker, (ledger.holdingsOf worker).Nodup ∧
    ∀ holding, holding ∈ ledger.holdingsOf worker ↔
      plain.Holds holding ∧ holding.producer = worker
  workers : ledger.workers.Nodup ∧
    ∀ worker, worker ∈ ledger.workers ↔ ∃ holding, plain.Holds holding ∧ holding.producer = worker
  clusterHoldings : ledger.clusterHoldings.Nodup ∧
    ∀ holding, holding ∈ ledger.clusterHoldings ↔
      plain.Holds holding ∧ holding.kind = .blockingPersistent
  jobHoldings : ledger.jobHoldings.Nodup ∧
    ∀ holding, holding ∈ ledger.jobHoldings ↔
      plain.Holds holding ∧ holding.kind ≠ .blockingPersistent
  /-- The two kinds of holdings make up all of them, and have none in common. -/
  split : (ledger.clusterHoldings ++ ledger.jobHoldings).Perm ledger.holdings ∧
    ledger.clusterHoldings.Disjoint ledger.jobHoldings

theorem isCluster_eq_true_iff (holding : Holding) :
    holding.isCluster = true ↔ holding.kind = .blockingPersistent := by
  rw [Holding.isCluster]
  cases holding.kind <;> simp [PartitionKind.isCluster]

namespace Coherent

variable {ledger : Ledger}

theorem mem_workers_iff (coherent : Coherent ledger) {worker : WorkerId} :
    worker ∈ ledger.workers ↔ ∃ id, Lists ledger.byWorker worker id :=
  mem_keys_iff_lists coherent.populated

/-- A ledger whose indexes agree answers every query from its map of holdings. -/
theorem answers (coherent : Coherent ledger) : Answers ledger ledger.plain := by
  have stored : ∀ holding, holding ∈ ledger.holdings ↔ ledger.plain.Holds holding :=
    fun _ => OrderedMap.mem_values_iff
  have produced : ∀ worker holding, holding ∈ ledger.holdingsOf worker ↔
      ledger.plain.Holds holding ∧ holding.producer = worker := by
    intro worker holding
    rw [coherent.holdingsOf_eq, List.mem_filter, decide_eq_true_iff]
    exact and_congr_left' (stored holding)
  constructor
  case get? =>
    intro id
    rfl
  case isTracked =>
    intro id
    exact OrderedMap.contains_eq_true_iff
  case size => rfl
  case isEmpty => exact OrderedMap.isEmpty_eq_true_iff
  case isTracking =>
    intro worker
    rw [Ledger.isTracking, List.any_eq_true]
    apply exists_congr
    intro holding
    rw [produced, and_assoc]
  case holdings => exact ⟨coherent.nodup_holdings, stored⟩
  case holdingsOf =>
    intro worker
    refine ⟨?_, produced worker⟩
    rw [coherent.holdingsOf_eq]
    exact coherent.nodup_holdings.filter _
  case workers =>
    refine ⟨OrderedMap.nodup_keys _, fun worker => ?_⟩
    rw [coherent.mem_workers_iff]
    constructor
    · rintro ⟨id, lists⟩
      obtain ⟨holding, found, produced⟩ := (coherent.listed worker id).mp lists
      exact ⟨holding, ⟨id, found⟩, produced⟩
    · rintro ⟨holding, ⟨id, found⟩, produced⟩
      exact ⟨id, (coherent.listed worker id).mpr ⟨holding, found, produced⟩⟩
  case clusterHoldings =>
    refine ⟨coherent.nodup_holdings.filter _, fun holding => ?_⟩
    rw [Ledger.clusterHoldings, List.mem_filter, stored, isCluster_eq_true_iff]
  case jobHoldings =>
    refine ⟨coherent.nodup_holdings.filter _, fun holding => ?_⟩
    rw [Ledger.jobHoldings, List.mem_filter, stored, Bool.not_eq_true', ← Bool.not_eq_true,
      isCluster_eq_true_iff]
  case split =>
    refine ⟨List.filter_append_perm _ _, ?_⟩
    intro holding cluster job
    have kept := (List.mem_filter.mp cluster).2
    have dropped := (List.mem_filter.mp job).2
    rw [kept] at dropped
    cases dropped

/-- One change returns and leaves what it does in the plain ledger. -/
theorem change_eq_plain (coherent : Coherent ledger) (change : Change) :
    (ledger.change change).1 = (ledger.plain.change change).1 ∧
      (ledger.change change).2.plain = (ledger.plain.change change).2 := by
  cases change with
  | register producer deployment =>
    simp only [Ledger.change, PlainLedger.change, PlainLedger.register, register_fst]
    cases tracked : (Holding.ofDeployment producer deployment).kind.requiresTracking with
    | false =>
      rw [register_of_not_tracked ledger _ tracked]
      exact ⟨rfl, rfl⟩
    | true =>
      exact ⟨rfl, congrArg PlainLedger.mk (register_byPartition ledger _ tracked)⟩
  | removeWorker worker =>
    constructor
    · exact congrArg Returned.removed (coherent.removeWorker_fst worker)
    · exact congrArg PlainLedger.mk (coherent.removeWorker_byPartition worker)
  | removeAll ids =>
    constructor
    · exact congrArg Returned.removed (ledger.removeAll_fst ids)
    · exact congrArg PlainLedger.mk (ledger.removeAll_byPartition ids)

theorem changeAll_eq_plain (coherent : Coherent ledger) (changes : List Change) :
    (ledger.changeAll changes).1 = (ledger.plain.changeAll changes).1 ∧
      (ledger.changeAll changes).2.plain = (ledger.plain.changeAll changes).2 := by
  induction changes generalizing ledger with
  | nil => exact ⟨rfl, rfl⟩
  | cons change changes ih =>
    obtain ⟨returned, left⟩ := coherent.change_eq_plain change
    obtain ⟨later, final⟩ := ih (coherent.change change)
    rw [left] at later final
    exact ⟨congrArg₂ List.cons returned later, final⟩

end Coherent

/-- Whatever has been done to a ledger since it was empty, every change has returned what
the same change returns in the plain ledger, and every query is answered from the plain
ledger's map. What the removal of a worker returns has no holding twice. -/
theorem changeAll_refines_plain (changes : List Change) :
    let (returned, ledger) := Ledger.empty.changeAll changes
    let (expected, plain) := PlainLedger.empty.changeAll changes
    returned = expected ∧ Answers ledger plain ∧
      ∀ worker, (ledger.removeWorker worker).1.Nodup ∧
        ∀ holding, holding ∈ (ledger.removeWorker worker).1 ↔
          plain.Holds holding ∧ holding.producer = worker := by
  obtain ⟨returned, final⟩ := Coherent.empty.changeAll_eq_plain changes
  have coherent := Coherent.empty.changeAll changes
  have answers := coherent.answers
  rw [final] at answers
  refine ⟨returned, answers, fun worker => ?_⟩
  rw [coherent.removeWorker_fst, ← coherent.holdingsOf_eq]
  exact answers.holdingsOf worker

end Ledger

end PartitionLedger
