/-
# The plain ledger

A ledger with one index only: a map from partitions to holdings, in which whatever
concerns a worker looks through all holdings. It says what the ledger with two indexes
has to do, without the work of keeping them in step.
-/

import PartitionLedger.Ledger.Basic

namespace PartitionLedger

open Collection

/-- Holdings by partition. -/
structure PlainLedger where
  byPartition : OrderedMap PartitionId Holding
  deriving DecidableEq

namespace PlainLedger

/-- The ledger without holdings. -/
def empty : PlainLedger := ⟨∅⟩

/-- Store a holding whose kind requires tracking. -/
def register (ledger : PlainLedger) (holding : Holding) : Bool × PlainLedger :=
  if holding.kind.requiresTracking then
    (true, ⟨ledger.byPartition.insert holding.partitionId holding⟩)
  else (false, ledger)

/-- Delete the listed partitions. Returns the deleted holdings in the order in
which their partitions are first listed. -/
def removeAll (ledger : PlainLedger) (ids : List PartitionId) : List Holding × PlainLedger :=
  (ids.eraseDups.filterMap ledger.byPartition.get?,
    ⟨ledger.byPartition.filter fun id _ => !ids.contains id⟩)

/-- The holdings of a producer. -/
def holdingsOf (ledger : PlainLedger) (worker : WorkerId) : List Holding :=
  ledger.byPartition.values.filter fun holding => holding.producer = worker

/-- Delete every holding of a producer, and return them. -/
def removeWorker (ledger : PlainLedger) (worker : WorkerId) : List Holding × PlainLedger :=
  (ledger.holdingsOf worker,
    ⟨ledger.byPartition.filter fun _ holding => holding.producer ≠ worker⟩)

end PlainLedger

/-- Forget the second index. -/
def Ledger.plain (ledger : Ledger) : PlainLedger := ⟨ledger.byPartition⟩

end PartitionLedger
