/-
# Workers and the shuffle master

The collaborators record what they are asked before they answer. A worker accepts
calls unless it was told to fail or to stall; what it was told last counts. The
shuffle master accepts notices of released partitions likewise, but a partition
whose notices stall does so whether or not they were also told to fail.
-/

import PartitionLedger.Cluster.Failure
import PartitionLedger.Partition.Descriptor
import PartitionLedger.Collection.OrderedMap

namespace PartitionLedger

open Collection

/-- What becomes of a partition that is let go of: its resources are freed, or it
is kept for the cluster. -/
inductive Disposition where
  | release
  | promote
  deriving DecidableEq, Repr

/-- The name of a disposition in texts. -/
def Disposition.name : Disposition → String
  | release => "release"
  | promote => "promote"

/-- One call to a worker, for all its partitions of one dispatch. -/
structure WorkerCall where
  worker : WorkerId
  job : JobId
  disposition : Disposition
  partitions : OrderedSet PartitionId
  deriving DecidableEq

/-- How a request is answered; a stalled request is not answered at all. -/
inductive Answer where
  | accepted
  | failed (cause : RemoteError)
  | stalled
  deriving DecidableEq, Repr

/-- Trouble that a worker was told to make. -/
inductive Trouble where
  | fail (cause : RemoteError)
  | stall
  deriving DecidableEq, Repr

/-- The answer of a worker in trouble, or out of it. -/
def Trouble.answer : Option Trouble → Answer
  | none => .accepted
  | some (fail cause) => .failed cause
  | some stall => .stalled

/-- All workers of a cluster. -/
structure Fleet where
  unreachable : OrderedSet WorkerId := ∅
  trouble : OrderedMap WorkerId Trouble := ∅
  /-- The calls received so far, in order. -/
  calls : List WorkerCall := []

namespace Fleet

/-- A gateway to the worker can be found. -/
def resolves (fleet : Fleet) (worker : WorkerId) : Bool := !fleet.unreachable.contains worker

/-- From now on no gateway to the worker is found. -/
def markUnreachable (fleet : Fleet) (worker : WorkerId) : Fleet :=
  { fleet with unreachable := OrderedSet.add fleet.unreachable worker }

/-- From now on the worker makes trouble of this sort. -/
def makeTrouble (fleet : Fleet) (worker : WorkerId) (trouble : Trouble) : Fleet :=
  { fleet with trouble := fleet.trouble.insert worker trouble }

/-- A worker receives a call: it records the call, then answers. -/
def receive (fleet : Fleet) (call : WorkerCall) : Answer × Fleet :=
  (Trouble.answer (fleet.trouble.get? call.worker), { fleet with calls := fleet.calls ++ [call] })

end Fleet

/-- The master of the shuffle service. -/
structure ShuffleMaster where
  stalling : OrderedSet PartitionId := ∅
  failing : OrderedMap PartitionId RemoteError := ∅
  /-- The partitions whose release it was notified of, in order. -/
  released : List PartitionId := []

namespace ShuffleMaster

/-- From now on notices about the partition are never answered. -/
def stallNotices (master : ShuffleMaster) (id : PartitionId) : ShuffleMaster :=
  { master with stalling := OrderedSet.add master.stalling id }

/-- From now on notices about the partition fail, unless they stall. -/
def failNotices (master : ShuffleMaster) (id : PartitionId) (cause : RemoteError) : ShuffleMaster :=
  { master with failing := master.failing.insert id cause }

/-- How a notice about the partition is answered. -/
def answer (master : ShuffleMaster) (id : PartitionId) : Answer :=
  if master.stalling.contains id then .stalled
  else match master.failing.get? id with
    | some cause => .failed cause
    | none => .accepted

/-- The shuffle master is notified of a release: it records it, then answers. -/
def receive (master : ShuffleMaster) (descriptor : ShuffleDescriptor) : Answer × ShuffleMaster :=
  (master.answer descriptor.partitionId,
    { master with released := master.released ++ [descriptor.partitionId] })

end ShuffleMaster

end PartitionLedger
