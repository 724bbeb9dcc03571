/-
# Descriptors from JSON values

Descriptors are read from a value that was parsed before. The forms are those
accepted in texts; the members of an object are taken in the order of their keys,
and there is no limit to nesting, as the value is there already.
-/

import PartitionLedger.Partition.Fields

namespace PartitionLedger

open Json (ReadError Expected Found)

namespace Json

/-- The error of finding a value where something else is expected. -/
def unexpected (expected : Expected) (value : Json) : ReadError :=
  .mismatch (.wrongType (.ofJson value) expected)

/-- Read a string. -/
def asString : Json → Except ReadError String
  | .string text => .ok text
  | other => .error (other.unexpected .string)

/-- Read the empty value. -/
def asUnit : Json → Except ReadError Unit
  | .null => .ok ()
  | other => .error (other.unexpected .unit)

/-- Read the items of an array. -/
def asItems : Json → Except ReadError (List Json)
  | .array items => .ok items
  | other => .error (other.unexpected .sequence)

/-- Fields inside a value. -/
def fieldSource : FieldSource Json where
  string := asString
  isNull
    | .null => true
    | _ => false
  value := .ok
  skip _ := .ok ()

end Json

/-- Read an identifier. -/
def Id.ofJson (kind : IdKind) (value : Json) : Except ReadError (Id kind) :=
  Json.fieldSource.id kind value

/-- Read a kind, by name or as an object with one key and a null. -/
def PartitionKind.ofJson : Json → Except ReadError PartitionKind
  | .string text => ofName text
  | .object [(key, value)] => do
    let kind ← ofName key
    value.asUnit
    return kind
  | .object _ => .error (.mismatch (.wrongValue .object .singleKey))
  | other => .error (other.unexpected .alternative)

namespace ShuffleDescriptor

/-- Read the fields of an array in order; those at its end may be left out. -/
def ofValues (items : List Json) : Except ReadError ShuffleDescriptor := do
  let source := Json.fieldSource
  match items with
  | [] => throw (.mismatch (.tooShort 0 ShuffleFields.shape))
  | [first] => return ⟨← source.id .partition first, none, .null⟩
  | [first, second] =>
    return ⟨← source.id .partition first, ← source.optionalId .worker second, .null⟩
  | first :: second :: third :: later =>
    let descriptor : ShuffleDescriptor :=
      ⟨← source.id .partition first, ← source.optionalId .worker second, ← source.value third⟩
    if later.isEmpty then return descriptor else throw (.mismatch (.tooLong items.length))

/-- Collect the members of an object in order. -/
def gather : ShuffleFields → List (String × Json) → Except ReadError ShuffleFields
  | fields, [] => .ok fields
  | fields, (key, value) :: members => do
    let fields ← fields.put Json.fieldSource key value
    gather fields members

/-- Read a shuffle descriptor. -/
def ofJson : Json → Except ReadError ShuffleDescriptor
  | .array items => ofValues items
  | .object members => do
    let fields ← gather {} members
    fields.finish
  | other => .error (other.unexpected (.shaped ShuffleFields.shape))

/-- Read a list of shuffle descriptors. -/
def listOfJson (value : Json) : Except ReadError (List ShuffleDescriptor) := do
  let items ← value.asItems
  items.mapM ofJson

end ShuffleDescriptor

namespace Deployment

/-- Read the fields of an array in order; all are required. -/
def ofValues (items : List Json) : Except ReadError Deployment := do
  match items with
  | [] => throw (.mismatch (.tooShort 0 DeploymentFields.shape))
  | [first] =>
    let _ ← Id.ofJson .dataset first
    throw (.mismatch (.tooShort 1 DeploymentFields.shape))
  | [first, second] =>
    let _ ← Id.ofJson .dataset first
    let _ ← PartitionKind.ofJson second
    throw (.mismatch (.tooShort 2 DeploymentFields.shape))
  | first :: second :: third :: later =>
    let deployment : Deployment :=
      ⟨← Id.ofJson .dataset first, ← PartitionKind.ofJson second, ← ShuffleDescriptor.ofJson third⟩
    if later.isEmpty then return deployment else throw (.mismatch (.tooLong items.length))

/-- Collect the members of an object in order. -/
def gather : DeploymentFields → List (String × Json) → Except ReadError DeploymentFields
  | fields, [] => .ok fields
  | fields, (key, value) :: members => do
    let fields ← fields.put Json.fieldSource PartitionKind.ofJson ShuffleDescriptor.ofJson key value
    gather fields members

/-- Read a deployment. -/
def ofJson : Json → Except ReadError Deployment
  | .array items => ofValues items
  | .object members => do
    let fields ← gather {} members
    fields.finish
  | other => .error (other.unexpected (.shaped DeploymentFields.shape))

end Deployment

end PartitionLedger
