/-
# Errors of reading

A text may be no JSON at all, or JSON of another shape than the one asked for.
In the second case the error says what was found and what was expected, in the
wording that users see.
-/

import PartitionLedger.Identity.Basic
import PartitionLedger.Json.Token
import PartitionLedger.Number.Shortest
import PartitionLedger.Text.Quoted

namespace PartitionLedger.Json

/-- What stands where something else was expected. -/
inductive Found where
  | null
  | boolean (flag : Bool)
  | number (number : Number)
  | string (text : String)
  | array
  | object
  deriving DecidableEq

/-- What a value is found as. -/
def Found.ofJson : Json → Found
  | .null => null
  | .boolean flag => boolean flag
  | .number value => number value
  | .string text => string text
  | .array _ => array
  | .object _ => object

/-- What was found, in words. -/
def Found.message : Found → String
  | null => "null"
  | boolean flag => "boolean `" ++ (if flag then "true" else "false") ++ "`"
  | number (.integer exact) => "integer `" ++ toString exact.value ++ "`"
  | number (.real rounded) => "floating point `" ++ String.ofList (Shortest.chars rounded) ++ "`"
  | string text => "string " ++ Text.quoted text
  | array => "sequence"
  | object => "map"

/-- A structure with named fields, as error messages describe it. -/
structure Shape where
  name : String
  fieldCount : Nat
  deriving DecidableEq, Repr

/-- What should have stood in a place. -/
inductive Expected where
  | string
  | unit
  | sequence
  | alternative
  | singleKey
  | shaped (shape : Shape)
  deriving DecidableEq

/-- What was expected, in words. -/
def Expected.message : Expected → String
  | string => "a string"
  | unit => "unit"
  | sequence => "a sequence"
  | alternative => "string or map"
  | singleKey => "map with a single key"
  | shaped shape => "struct " ++ shape.name

/-- How a value fails to have the shape that was asked for. -/
inductive Mismatch where
  | wrongType (found : Found) (expected : Expected)
  | wrongValue (found : Found) (expected : Expected)
  | missingField (name : String)
  | duplicateField (name : String)
  | unknownAlternative (name : String) (known : List String)
  | tooShort (length : Nat) (shape : Shape)
  | tooLong (length : Nat)
  | badId (error : IdError)
  deriving DecidableEq

/-- The wording of a mismatch. -/
def Mismatch.message : Mismatch → String
  | wrongType found expected =>
    "invalid type: " ++ found.message ++ ", expected " ++ expected.message
  | wrongValue found expected =>
    "invalid value: " ++ found.message ++ ", expected " ++ expected.message
  | missingField name => "missing field `" ++ name ++ "`"
  | duplicateField name => "duplicate field `" ++ name ++ "`"
  | unknownAlternative name known =>
    "unknown variant `" ++ name ++ "`, expected one of " ++
      ", ".intercalate (known.map fun alternative => "`" ++ alternative ++ "`")
  | tooShort length shape =>
    "invalid length " ++ toString length ++ ", expected struct " ++ shape.name ++ " with " ++
      toString shape.fieldCount ++ " elements"
  | tooLong length => "invalid length " ++ toString length ++ ", expected fewer elements in array"
  | badId error => error.message

/-- Why reading failed. -/
inductive ReadError where
  | malformed
  | truncated
  | mismatch (mismatch : Mismatch)
  deriving DecidableEq

/-- A fault of the text as an error of reading. -/
def Fault.toReadError : Fault → ReadError
  | .malformed => .malformed
  | .truncated => .truncated

instance : Coe Fault ReadError := ⟨Fault.toReadError⟩

/-- Use what a token gives to a reader. -/
def fromToken {α : Type} : Except Fault α → Except ReadError α
  | .ok value => .ok value
  | .error fault => .error fault

end PartitionLedger.Json
