/-
# Reading documents

Reading takes a document from left to right and stops at the first problem, be it
a fault of the text or something of the wrong shape. A whole value may be read up
to a fixed depth of nesting; what is skipped may be nested to any depth.
-/

import PartitionLedger.Json.Document
import PartitionLedger.Json.Mismatch

namespace PartitionLedger.Json

/-- The depth of nesting, counted from the outermost array or object of a text,
that can be read. -/
def depthLimit : Nat := 127

namespace Document

/-- The error of finding a document where something else is expected. The document
is read only as far as the error has to describe it. -/
def unexpected (expected : Expected) : Document → ReadError
  | null => .mismatch (.wrongType .null expected)
  | boolean flag => .mismatch (.wrongType (.boolean flag) expected)
  | number (.ok value) => .mismatch (.wrongType (.number value) expected)
  | number (.error fault) => fault
  | string (.ok text) => .mismatch (.wrongType (.string text) expected)
  | string (.error fault) => fault
  | array _ _ => .mismatch (.wrongType .array expected)
  | object _ _ => .mismatch (.wrongType .object expected)
  | absent => .truncated
  | broken reading _ => reading

/-- Read a string. -/
def readString : Document → Except ReadError String
  | string reading => fromToken reading
  | other => .error (other.unexpected .string)

/-- Read the empty value. -/
def readUnit : Document → Except ReadError Unit
  | null => .ok ()
  | other => .error (other.unexpected .unit)

/-- Skip a document that nobody asked for. -/
def readSkipped (document : Document) : Except ReadError Unit := fromToken document.skip

/-- Read the key of a member. -/
def readKey : Document → Except ReadError String
  | string reading => fromToken reading
  | absent => .error .truncated
  | _ => .error .malformed

/-- The end of an array or object after everything before it was read. -/
def finish {α : Type} (cut : Option Fault) (result : α) : Except ReadError α :=
  match cut with
  | none => .ok result
  | some fault => .error fault

mutual

/-- Read a whole value that has room for so many levels of nesting. -/
def readValue (room : Nat) : Document → Except ReadError Json
  | null => .ok .null
  | boolean flag => .ok (.boolean flag)
  | number reading => do
    let value ← fromToken reading
    return .number value
  | string reading => do
    let text ← fromToken reading
    return .string text
  | array items cut =>
    match room with
    | 0 => .error .malformed
    | room + 1 => do
      let values ← readItems room items
      finish cut (.array values)
  | object members cut =>
    match room with
    | 0 => .error .malformed
    | room + 1 => do
      let values ← readMembers room members
      finish cut (.ofMembers values)
  | absent => .error .truncated
  | broken reading _ => .error reading

/-- Read the items of an array in order. -/
def readItems (room : Nat) : List Document → Except ReadError (List Json)
  | [] => .ok []
  | item :: items => do
    let value ← item.readValue room
    let values ← readItems room items
    return value :: values

/-- Read the members of an object in order. -/
def readMembers (room : Nat) : List (Document × Document) → Except ReadError (List (String × Json))
  | [] => .ok []
  | (key, value) :: members => do
    let key ← key.readKey
    let value ← value.readValue room
    let values ← readMembers room members
    return (key, value) :: values

end

/-- Read a text as a whole, with nothing but blanks behind it. -/
def readText {α : Type} (read : Document → Except ReadError α) (text : String) :
    Except ReadError α := do
  let (document, trailing) := ofText text
  let result ← read document
  if trailing then throw .malformed
  return result

end Document

/-- Parse a text as a JSON value. -/
def parse (text : String) : Except ReadError Json :=
  Document.readText (Document.readValue depthLimit) text

end PartitionLedger.Json
