/-
# Dispatches

A dispatch is one invocation that lets go of partitions. It works on holdings that
have left the ledger already. Those that occupy local resources are grouped by
their producer, and each worker for which a gateway is found is sent one call with
all of its partitions; the others are left alone. If the shuffle master is to be
notified, it gets one notice per holding, wherever the partition is stored.
-/

import PartitionLedger.Journal.Event

namespace PartitionLedger

open Collection

/-- What one invocation did at once: the calls and notices that it issued run on
their own afterwards. -/
structure Dispatch where
  disposition : Disposition
  /-- The partitions that were tracked and have been removed. -/
  untracked : List PartitionId
  /-- The calls issued, in ascending order of workers. -/
  calls : List WorkerCall
  /-- The calls that were not issued, because no gateway was found. -/
  skipped : List WorkerCall
  /-- The notices issued to the shuffle master. -/
  notices : List ShuffleDescriptor
  deriving DecidableEq

namespace Dispatch

/-- Put one more holding into its producer's batch, if it occupies local resources. -/
def addToBatch (batches : OrderedMap WorkerId (OrderedSet PartitionId)) (holding : Holding) :
    OrderedMap WorkerId (OrderedSet PartitionId) :=
  if holding.occupiesLocalResource then
    batches.insert holding.producer
      (OrderedSet.add ((batches.get? holding.producer).getD ∅) holding.partitionId)
  else batches

/-- The partitions with local resources, by producer. -/
def batches (removed : List Holding) : OrderedMap WorkerId (OrderedSet PartitionId) :=
  removed.foldl addToBatch ∅

/-- Let go of holdings that were removed from the ledger. -/
def issue (job : JobId) (resolves : WorkerId → Bool) (disposition : Disposition) (notify : Bool)
    (removed : List Holding) : Dispatch :=
  let calls : List WorkerCall :=
    (batches removed).entries.map fun batch => ⟨batch.1, job, disposition, batch.2⟩
  { disposition
    untracked := removed.map (·.partitionId)
    calls := calls.filter fun call => resolves call.worker
    skipped := calls.filter fun call => !resolves call.worker
    notices := if notify then removed.map (·.shuffle) else [] }

/-- The workers that were sent a call. -/
def workersCalled (dispatch : Dispatch) : List WorkerId := dispatch.calls.map (·.worker)

/-- The workers that should have been sent a call, but were not found. -/
def unreachableWorkers (dispatch : Dispatch) : List WorkerId := dispatch.skipped.map (·.worker)

/-- The number of calls issued. -/
def remoteCalls (dispatch : Dispatch) : Nat := dispatch.calls.length

/-- The number of notices issued. -/
def externalReleases (dispatch : Dispatch) : Nat := dispatch.notices.length

/-- What the invocation itself writes into the journal, given the number of
different partitions it was asked for. -/
def events (dispatch : Dispatch) (job : JobId) (requested : Nat) : List Event :=
  dispatch.skipped.map (fun call => .noGateway call.facts) ++
    [.dispatched job dispatch.disposition requested dispatch.untracked.length dispatch.remoteCalls
      dispatch.unreachableWorkers.length dispatch.externalReleases]

end Dispatch

end PartitionLedger
