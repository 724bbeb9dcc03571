/-
# Descriptors of partitions

The shuffle service describes a partition by its identifier, the worker that keeps
storage for it, if any, and a payload that nobody else looks at. The scheduler
deploys a partition with its dataset and kind. A holding is a deployed partition
together with the worker that produces it.
-/

import PartitionLedger.Identity.Basic
import PartitionLedger.Json.Value
import PartitionLedger.Partition.Kind

namespace PartitionLedger

/-- What the shuffle service needs in order to find or release a partition. -/
structure ShuffleDescriptor where
  partitionId : PartitionId
  /-- The worker that keeps storage for the partition; none when the shuffle service
  has taken full custody of the data. -/
  storage : Option WorkerId
  payload : Json
  deriving DecidableEq

namespace ShuffleDescriptor

/-- A partition whose data lives on a worker. -/
def onWorker (partitionId : PartitionId) (worker : WorkerId) : ShuffleDescriptor :=
  ⟨partitionId, some worker, .null⟩

/-- A partition that the shuffle service holds entirely. -/
def external (partitionId : PartitionId) : ShuffleDescriptor := ⟨partitionId, none, .null⟩

/-- The same descriptor with another payload. -/
def withPayload (descriptor : ShuffleDescriptor) (payload : Json) : ShuffleDescriptor :=
  { descriptor with payload := payload }

end ShuffleDescriptor

/-- What the scheduler says about a partition when its producer is deployed. -/
structure Deployment where
  datasetId : DatasetId
  kind : PartitionKind
  shuffle : ShuffleDescriptor
  deriving DecidableEq

namespace Deployment

/-- The partition that is deployed. -/
def partitionId (deployment : Deployment) : PartitionId := deployment.shuffle.partitionId

/-- Some worker keeps storage for the partition. -/
def occupiesLocalResource (deployment : Deployment) : Bool := deployment.shuffle.storage.isSome

end Deployment

/-- A partition with its producer. Whether it occupies a local resource is settled
when the holding is made. -/
structure Holding where
  producer : WorkerId
  datasetId : DatasetId
  kind : PartitionKind
  occupiesLocalResource : Bool
  shuffle : ShuffleDescriptor
  deriving DecidableEq

namespace Holding

/-- The holding of a deployed partition. -/
def ofDeployment (producer : WorkerId) (deployment : Deployment) : Holding :=
  { producer
    datasetId := deployment.datasetId
    kind := deployment.kind
    occupiesLocalResource := deployment.occupiesLocalResource
    shuffle := deployment.shuffle }

/-- The partition that is held. -/
def partitionId (holding : Holding) : PartitionId := holding.shuffle.partitionId

/-- The partition outlives its job. -/
def isCluster (holding : Holding) : Bool := holding.kind.isCluster

end Holding

end PartitionLedger
