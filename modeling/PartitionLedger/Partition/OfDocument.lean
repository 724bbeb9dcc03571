/-
# Descriptors from JSON texts

Descriptors are read from a document in text order, so the first problem decides.
A structure is given as an object or as an array of its fields in order; a kind as
its name, or as an object whose only key is the name. What follows the last field
of an array is never looked at: the text is malformed there.
-/

import PartitionLedger.Json.Reader
import PartitionLedger.Partition.Fields

namespace PartitionLedger

open Json (Document ReadError Fault)

/-- Fields inside a document with so much room for nesting. -/
def Json.Document.fieldSource (room : Nat) : FieldSource Document where
  string := Document.readString
  isNull
    | .null => true
    | _ => false
  value := Document.readValue room
  skip := Document.readSkipped

/-- The next item of an array: none if the array ends properly. -/
def Json.Document.nextItem (items : List Document) (cut : Option Fault) :
    Except ReadError (Option (Document × List Document)) :=
  match items with
  | item :: rest => .ok (some (item, rest))
  | [] => Document.finish cut none

/-- The end of an array or object that must hold no more items or members. -/
def Json.Document.finishEmpty {α β : Type} (left : List β) (cut : Option Fault) (result : α) :
    Except ReadError α :=
  match left with
  | _ :: _ => .error .malformed
  | [] => Document.finish cut result

/-- Read an identifier. -/
def Id.ofDocument (kind : IdKind) (document : Document) : Except ReadError (Id kind) :=
  (Document.fieldSource 0).id kind document

/-- Read a kind, by name or as an object with one key and a null. Where the key should stand, anything
but a string makes the text malformed, whatever it is. -/
def PartitionKind.ofDocument (room : Nat) : Document → Except ReadError PartitionKind
  | .string reading => do
    let text ← Json.fromToken reading
    ofName text
  | .object members cut =>
    match room, members with
    | 0, _ | _ + 1, [] => .error .malformed
    | _ + 1, (key, value) :: later => do
      let text ← key.readKey
      let kind ← ofName text
      value.readUnit
      Document.finishEmpty later cut kind
  | .absent => .error .truncated
  | _ => .error .malformed

namespace ShuffleDescriptor

/-- Read the fields of an array in order; those at its end may be left out. -/
def ofItems (room : Nat) (items : List Document) (cut : Option Fault) :
    Except ReadError ShuffleDescriptor := do
  let source := Document.fieldSource room
  match ← Document.nextItem items cut with
  | none => throw (.mismatch (.tooShort 0 ShuffleFields.shape))
  | some (item, items) =>
    let partitionId ← source.id .partition item
    match ← Document.nextItem items cut with
    | none => return ⟨partitionId, none, .null⟩
    | some (item, items) =>
      let storage ← source.optionalId .worker item
      match ← Document.nextItem items cut with
      | none => return ⟨partitionId, storage, .null⟩
      | some (item, items) =>
        let payload ← source.value item
        Document.finishEmpty items cut ⟨partitionId, storage, payload⟩

/-- Collect the members of an object in order. -/
def collect (room : Nat) :
    ShuffleFields → List (Document × Document) → Except ReadError ShuffleFields
  | fields, [] => .ok fields
  | fields, (key, value) :: members => do
    let key ← key.readKey
    let fields ← fields.put (Document.fieldSource room) key value
    collect room fields members

/-- Read a shuffle descriptor. -/
def ofDocument (room : Nat) : Document → Except ReadError ShuffleDescriptor
  | .array items cut =>
    match room with
    | 0 => .error .malformed
    | room + 1 => ofItems room items cut
  | .object members cut =>
    match room with
    | 0 => .error .malformed
    | room + 1 => do
      let fields ← collect room {} members
      let fields ← Document.finish cut fields
      fields.finish
  | other => .error (other.unexpected (.shaped ShuffleFields.shape))

/-- Read a shuffle descriptor from a JSON text. -/
def ofText (text : String) : Except ReadError ShuffleDescriptor :=
  Document.readText (ofDocument Json.depthLimit) text

end ShuffleDescriptor

namespace Deployment

/-- Read the fields of an array in order; all are required. -/
def ofItems (room : Nat) (items : List Document) (cut : Option Fault) :
    Except ReadError Deployment := do
  match ← Document.nextItem items cut with
  | none => throw (.mismatch (.tooShort 0 DeploymentFields.shape))
  | some (item, items) =>
    let datasetId ← Id.ofDocument .dataset item
    match ← Document.nextItem items cut with
    | none => throw (.mismatch (.tooShort 1 DeploymentFields.shape))
    | some (item, items) =>
      let kind ← PartitionKind.ofDocument room item
      match ← Document.nextItem items cut with
      | none => throw (.mismatch (.tooShort 2 DeploymentFields.shape))
      | some (item, items) =>
        let shuffle ← ShuffleDescriptor.ofDocument room item
        Document.finishEmpty items cut ⟨datasetId, kind, shuffle⟩

/-- Collect the members of an object in order. -/
def collect (room : Nat) :
    DeploymentFields → List (Document × Document) → Except ReadError DeploymentFields
  | fields, [] => .ok fields
  | fields, (key, value) :: members => do
    let key ← key.readKey
    let fields ← fields.put (Document.fieldSource room) (PartitionKind.ofDocument room)
      (ShuffleDescriptor.ofDocument room) key value
    collect room fields members

/-- Read a deployment. -/
def ofDocument (room : Nat) : Document → Except ReadError Deployment
  | .array items cut =>
    match room with
    | 0 => .error .malformed
    | room + 1 => ofItems room items cut
  | .object members cut =>
    match room with
    | 0 => .error .malformed
    | room + 1 => do
      let fields ← collect room {} members
      let fields ← Document.finish cut fields
      fields.finish
  | other => .error (other.unexpected (.shaped DeploymentFields.shape))

/-- Read a deployment from a JSON text. -/
def ofText (text : String) : Except ReadError Deployment :=
  Document.readText (ofDocument Json.depthLimit) text

end Deployment

/-- Read an identifier from a JSON text. -/
def Id.ofText (kind : IdKind) (text : String) : Except ReadError (Id kind) :=
  Document.readText (ofDocument kind) text

/-- Read a kind from a JSON text. -/
def PartitionKind.ofText (text : String) : Except ReadError PartitionKind :=
  Document.readText (ofDocument Json.depthLimit) text

end PartitionLedger
