/-
# JSON form of descriptors

Identifiers and kinds are strings. Structures are objects with their fields in a
fixed order. The storing worker is left out when there is none; the payload is
always there.
-/

import PartitionLedger.Json.Writer
import PartitionLedger.Partition.Descriptor

namespace PartitionLedger

/-- An identifier as its text. -/
def Id.toJson {kind : IdKind} (id : Id kind) : Json := .string id.text

/-- A kind as its name. -/
def PartitionKind.toJson (kind : PartitionKind) : Json := .string kind.name

/-- A descriptor, without the storing worker if there is none. -/
def ShuffleDescriptor.toJson (descriptor : ShuffleDescriptor) : Json :=
  .object <|
    ("partition_id", descriptor.partitionId.toJson) ::
      (match descriptor.storage with
        | none => [("payload", descriptor.payload)]
        | some worker =>
          [("stores_local_resources_on", worker.toJson), ("payload", descriptor.payload)])

/-- A deployment with its descriptor inside. -/
def Deployment.toJson (deployment : Deployment) : Json :=
  .object [("dataset_id", deployment.datasetId.toJson), ("kind", deployment.kind.toJson),
    ("shuffle", deployment.shuffle.toJson)]

/-- A holding with its descriptor inside. -/
def Holding.toJson (holding : Holding) : Json :=
  .object [("producer", holding.producer.toJson), ("dataset_id", holding.datasetId.toJson),
    ("kind", holding.kind.toJson),
    ("occupies_local_resource", .boolean holding.occupiesLocalResource),
    ("shuffle", holding.shuffle.toJson)]

/-- The parts of a holding that do not need its descriptor. -/
def Holding.facts (holding : Holding) : Json :=
  .object [("partition_id", holding.partitionId.toJson), ("producer", holding.producer.toJson),
    ("dataset_id", holding.datasetId.toJson), ("kind", .string holding.kind.name),
    ("occupies_local_resource", .boolean holding.occupiesLocalResource),
    ("is_cluster_partition", .boolean holding.isCluster)]

end PartitionLedger
