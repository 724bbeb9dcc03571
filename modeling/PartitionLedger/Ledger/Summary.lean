/-
# Summaries

A summary counts what a ledger holds, in all and per producing worker. It is one
pass over the holdings that never looks at the index by worker.
-/

import PartitionLedger.Ledger.Basic
import PartitionLedger.Partition.Encoding

namespace PartitionLedger

open Collection

/-- The counts of one worker. -/
structure WorkerCounts where
  partitions : Nat := 0
  occupyingLocalResources : Nat := 0
  deriving DecidableEq, Repr

/-- The counts of a ledger. -/
structure Summary where
  tracked : Nat := 0
  cluster : Nat := 0
  nonCluster : Nat := 0
  occupyingLocalResources : Nat := 0
  workers : OrderedMap WorkerId WorkerCounts := ∅
  deriving DecidableEq

namespace Summary

/-- Count one more holding of a worker. -/
def countAt (counts : WorkerCounts) (holding : Holding) : WorkerCounts :=
  { partitions := counts.partitions + 1
    occupyingLocalResources :=
      counts.occupyingLocalResources + holding.occupiesLocalResource.toNat }

/-- Count one more holding. -/
def count (summary : Summary) (holding : Holding) : Summary :=
  { tracked := summary.tracked + 1
    cluster := summary.cluster + holding.isCluster.toNat
    nonCluster := summary.nonCluster + (!holding.isCluster).toNat
    occupyingLocalResources :=
      summary.occupyingLocalResources + holding.occupiesLocalResource.toNat
    workers :=
      summary.workers.insert holding.producer
        (countAt ((summary.workers.get? holding.producer).getD {}) holding) }

/-- Count all holdings of a ledger. -/
def ofLedger (ledger : Ledger) : Summary := ledger.holdings.foldl count {}

/-- The counts with the job they belong to, workers in ascending order. -/
def toJson (job : JobId) (summary : Summary) : Json :=
  .object [("job_id", job.toJson), ("tracked", .ofNat summary.tracked),
    ("cluster", .ofNat summary.cluster), ("non_cluster", .ofNat summary.nonCluster),
    ("occupying_local_resources", .ofNat summary.occupyingLocalResources),
    ("workers", .object (summary.workers.entries.map fun entry =>
      (entry.1.text, .object [("partitions", .ofNat entry.2.partitions),
        ("occupying_local_resources", .ofNat entry.2.occupyingLocalResources)])))]

end Summary

end PartitionLedger
