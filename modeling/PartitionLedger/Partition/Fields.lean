/-
# Fields of descriptors

The fields of a descriptor may come in any order, each at most once, among other
fields that are skipped. They are collected one by one; when all have been seen,
the required ones must be there, and the others take their defaults. The rules
are the same whatever the fields are read from, so they are stated once for any
source of values.
-/

import PartitionLedger.Json.Mismatch
import PartitionLedger.Partition.Descriptor

namespace PartitionLedger

open Json (ReadError Mismatch Shape)

/-- How the values of fields are read from a source of some kind. -/
structure FieldSource (δ : Type) where
  string : δ → Except ReadError String
  isNull : δ → Bool
  value : δ → Except ReadError Json
  skip : δ → Except ReadError Unit

namespace FieldSource

variable {δ : Type}

/-- Read an identifier. -/
def id (source : FieldSource δ) (kind : IdKind) (value : δ) : Except ReadError (Id kind) := do
  let text ← source.string value
  match Id.parse kind text with
  | .ok id => .ok id
  | .error error => .error (.mismatch (.badId error))

/-- Read an identifier that may be left out by a null. -/
def optionalId (source : FieldSource δ) (kind : IdKind) (value : δ) :
    Except ReadError (Option (Id kind)) :=
  if source.isNull value then .ok none
  else do
    let id ← source.id kind value
    return some id

end FieldSource

/-- The kind with a given name. -/
def PartitionKind.ofName (text : String) : Except ReadError PartitionKind :=
  match ofName? text with
  | some kind => .ok kind
  | none => .error (.mismatch (.unknownAlternative text (all.map name)))

/-- Put a value into a slot that must still be empty. -/
def fill {α : Type} (name : String) (slot : Option α) (value : Except ReadError α) :
    Except ReadError (Option α) :=
  match slot with
  | some _ => .error (.mismatch (.duplicateField name))
  | none => value.map some

/-- Take the value of a slot that must not be empty. -/
def required {α : Type} (name : String) (slot : Option α) : Except ReadError α :=
  match slot with
  | some value => .ok value
  | none => .error (.mismatch (.missingField name))

/-- The fields of a shuffle descriptor seen so far. -/
structure ShuffleFields where
  partitionId : Option PartitionId := none
  storage : Option (Option WorkerId) := none
  payload : Option Json := none

namespace ShuffleFields

/-- How messages name the structure. -/
def shape : Shape := ⟨"ShuffleDescriptor", 3⟩

/-- Take in one more field. -/
def put {δ : Type} (source : FieldSource δ) (fields : ShuffleFields) (key : String) (value : δ) :
    Except ReadError ShuffleFields :=
  if key = "partition_id" then do
    let slot ← fill key fields.partitionId (source.id .partition value)
    return { fields with partitionId := slot }
  else if key = "stores_local_resources_on" then do
    let slot ← fill key fields.storage (source.optionalId .worker value)
    return { fields with storage := slot }
  else if key = "payload" then do
    let slot ← fill key fields.payload (source.value value)
    return { fields with payload := slot }
  else do
    source.skip value
    return fields

/-- The descriptor, once all fields have been seen. -/
def finish (fields : ShuffleFields) : Except ReadError ShuffleDescriptor := do
  let partitionId ← required "partition_id" fields.partitionId
  return ⟨partitionId, fields.storage.getD none, fields.payload.getD .null⟩

end ShuffleFields

/-- The fields of a deployment seen so far. -/
structure DeploymentFields where
  datasetId : Option DatasetId := none
  kind : Option PartitionKind := none
  shuffle : Option ShuffleDescriptor := none

namespace DeploymentFields

/-- How messages name the structure. -/
def shape : Shape := ⟨"PartitionDeploymentDescriptor", 3⟩

/-- Take in one more field. -/
def put {δ : Type} (source : FieldSource δ) (readKind : δ → Except ReadError PartitionKind)
    (readShuffle : δ → Except ReadError ShuffleDescriptor) (fields : DeploymentFields)
    (key : String) (value : δ) : Except ReadError DeploymentFields :=
  if key = "dataset_id" then do
    let slot ← fill key fields.datasetId (source.id .dataset value)
    return { fields with datasetId := slot }
  else if key = "kind" then do
    let slot ← fill key fields.kind (readKind value)
    return { fields with kind := slot }
  else if key = "shuffle" then do
    let slot ← fill key fields.shuffle (readShuffle value)
    return { fields with shuffle := slot }
  else do
    source.skip value
    return fields

/-- The deployment, once all fields have been seen. -/
def finish (fields : DeploymentFields) : Except ReadError Deployment := do
  let datasetId ← required "dataset_id" fields.datasetId
  let kind ← required "kind" fields.kind
  let shuffle ← required "shuffle" fields.shuffle
  return ⟨datasetId, kind, shuffle⟩

end DeploymentFields

end PartitionLedger
