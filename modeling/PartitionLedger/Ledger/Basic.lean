/-
# The ledger

The ledger holds the partitions of a job that must be let go of some day. It is
indexed by partition and by producing worker, so that what a worker holds is found
without looking at the rest. Registering a partition again replaces its holding
and moves it to the new producer. The queries about a worker read the second index
and resolve its entries in the first.
-/

import PartitionLedger.Collection.OrderedMap
import PartitionLedger.Partition.Descriptor

namespace PartitionLedger

open Collection

/-- Holdings by partition, and the partitions of every worker that has any. -/
structure Ledger where
  byPartition : OrderedMap PartitionId Holding
  byWorker : OrderedMap WorkerId (OrderedSet PartitionId)
  deriving DecidableEq

namespace Ledger

/-- The ledger of a new job. -/
def empty : Ledger := ⟨∅, ∅⟩

instance : EmptyCollection Ledger := ⟨empty⟩

instance : Inhabited Ledger := ⟨empty⟩

/-! ### Changes -/

/-- Take a partition from the set of a worker. A set that becomes empty goes too. -/
def unindex (index : OrderedMap WorkerId (OrderedSet PartitionId)) (worker : WorkerId)
    (id : PartitionId) : OrderedMap WorkerId (OrderedSet PartitionId) :=
  match index.get? worker with
  | none => index
  | some ids =>
    let left := ids.erase id
    if left.isEmpty then index.erase worker else index.insert worker left

/-- Add a partition to the set of a worker. -/
def index (index : OrderedMap WorkerId (OrderedSet PartitionId)) (worker : WorkerId)
    (id : PartitionId) : OrderedMap WorkerId (OrderedSet PartitionId) :=
  index.insert worker (OrderedSet.add ((index.get? worker).getD ∅) id)

/-- Remove one partition, if it is there, and return its holding. -/
def remove (ledger : Ledger) (id : PartitionId) : Option Holding × Ledger :=
  match ledger.byPartition.get? id with
  | none => (none, ledger)
  | some holding =>
    (some holding, ⟨ledger.byPartition.erase id, unindex ledger.byWorker holding.producer id⟩)

/-- Register a holding if its kind requires tracking, in place of any earlier
holding of the same partition. Says whether it was registered. -/
def register (ledger : Ledger) (holding : Holding) : Bool × Ledger :=
  if holding.kind.requiresTracking then
    let (_, cleared) := ledger.remove holding.partitionId
    (true, ⟨cleared.byPartition.insert holding.partitionId holding,
      index cleared.byWorker holding.producer holding.partitionId⟩)
  else (false, ledger)

/-- Remove the listed partitions in order; those that are not there are ignored.
Returns the holdings that were removed. -/
def removeAll (ledger : Ledger) : List PartitionId → List Holding × Ledger
  | [] => ([], ledger)
  | id :: ids =>
    match ledger.remove id with
    | (none, ledger) => ledger.removeAll ids
    | (some holding, ledger) =>
      let (later, ledger) := ledger.removeAll ids
      (holding :: later, ledger)

/-- Take the listed partitions out of a map, and return their holdings. -/
def takeHoldings (holdings : OrderedMap PartitionId Holding) :
    List PartitionId → List Holding × OrderedMap PartitionId Holding
  | [] => ([], holdings)
  | id :: ids =>
    let (later, left) := takeHoldings (holdings.erase id) ids
    match holdings.get? id with
    | none => (later, left)
    | some holding => (holding :: later, left)

/-- Remove everything that a worker produced, its set of partitions in one piece.
Returns the holdings that were removed. -/
def removeWorker (ledger : Ledger) (worker : WorkerId) : List Holding × Ledger :=
  match ledger.byWorker.get? worker with
  | none => ([], ledger)
  | some ids =>
    let (removed, left) := takeHoldings ledger.byPartition (OrderedSet.toList ids)
    (removed, ⟨left, ledger.byWorker.erase worker⟩)

/-! ### Queries -/

/-- The holding of a partition. -/
def get? (ledger : Ledger) (id : PartitionId) : Option Holding := ledger.byPartition.get? id

/-- The partition is tracked. -/
def isTracked (ledger : Ledger) (id : PartitionId) : Bool := ledger.byPartition.contains id

/-- The number of partitions tracked. -/
def size (ledger : Ledger) : Nat := ledger.byPartition.size

/-- Nothing is tracked. -/
def isEmpty (ledger : Ledger) : Bool := ledger.byPartition.isEmpty

/-- Every holding, in the order of the partitions. -/
def holdings (ledger : Ledger) : List Holding := ledger.byPartition.values

/-- The holdings that outlive the job. -/
def clusterHoldings (ledger : Ledger) : List Holding := ledger.holdings.filter (·.isCluster)

/-- The holdings that end with the job. -/
def jobHoldings (ledger : Ledger) : List Holding := ledger.holdings.filter (!·.isCluster)

/-- What a worker produced, in the order of the partitions. -/
def holdingsOf (ledger : Ledger) (worker : WorkerId) : List Holding :=
  match ledger.byWorker.get? worker with
  | none => []
  | some ids => (OrderedSet.toList ids).filterMap ledger.byPartition.get?

/-- Something that the worker produced occupies local resources. -/
def isTracking (ledger : Ledger) (worker : WorkerId) : Bool :=
  (ledger.holdingsOf worker).any (·.occupiesLocalResource)

/-- The workers that produced something tracked, in ascending order. -/
def workers (ledger : Ledger) : List WorkerId := ledger.byWorker.keys

end Ledger

end PartitionLedger
