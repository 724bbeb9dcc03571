/-
# Typed identifiers

An identifier is a 128-bit number under the kind of thing it names. Its text is
the tag of the kind, an underscore and twenty-six base-32 digits, so that an
identifier of one kind is never taken for one of another, in code or in a log.
Parsing accepts digits of either case, and drops the two highest of the 130 bits
that twenty-six digits carry.
-/

import PartitionLedger.Identity.Base32
import PartitionLedger.Collection.OrderedMap
import PartitionLedger.Text.Bytes

namespace PartitionLedger

/-- What an identifier names. -/
inductive IdKind where
  | job
  | worker
  | partition
  | dataset
  deriving DecidableEq, Repr

/-- The word in front of the underscore. -/
def IdKind.tag : IdKind → String
  | .job => "job"
  | .worker => "wkr"
  | .partition => "rp"
  | .dataset => "ds"

/-- An identifier of one kind: a number of 128 bits. -/
structure Id (kind : IdKind) where
  value : BitVec 128
  deriving DecidableEq, Repr

abbrev JobId := Id .job
abbrev WorkerId := Id .worker
abbrev PartitionId := Id .partition
abbrev DatasetId := Id .dataset

/-- Why a text is no identifier of the kind asked for. -/
inductive IdError where
  | empty
  | missingSeparator
  | wrongTag (expected : IdKind) (actual : String)
  | badLength
  | badCharacter
  deriving DecidableEq, Repr

namespace IdError

/-- The wording shown to users. -/
def message : IdError → String
  | empty => "ID cannot be empty"
  | missingSeparator => "ID missing underscore separator"
  | wrongTag expected actual =>
    "invalid ID prefix: expected '" ++ expected.tag ++ "', got '" ++ actual ++ "'"
  | badLength => "invalid ULID: invalid length"
  | badCharacter => "invalid ULID: invalid character"

/-- The text was empty. -/
def isEmpty : IdError → Bool
  | empty => true
  | _ => false

/-- The text carries the tag of something else. -/
def isTagMismatch : IdError → Bool
  | wrongTag _ _ => true
  | _ => false

end IdError

namespace Id

variable {kind : IdKind}

instance : Inhabited (Id kind) := ⟨⟨0⟩⟩

/-- Identifiers are ordered by their number. -/
instance : LT (Id kind) := ⟨fun first second => first.value < second.value⟩

instance : DecidableLT (Id kind) := fun first second =>
  inferInstanceAs (Decidable (first.value < second.value))

instance : Collection.StrictOrder (Id kind) where
  irrefl id := Nat.lt_irrefl id.value.toNat
  trans _ _ _ := Nat.lt_trans
  connected first second notLess notGreater := by
    have same : first.value = second.value :=
      BitVec.eq_of_toNat_eq
        (Nat.le_antisymm (Nat.le_of_not_lt notGreater) (Nat.le_of_not_lt notLess))
    cases first
    cases second
    cases same
    rfl

/-- The number of digits in the text of an identifier: 26 digits of five bits
hold the 128 bits and leave the two highest unused. -/
def digitCount : Nat := 26

/-- The characters in front of the digits. -/
def lead (kind : IdKind) : List Char := kind.tag.toList ++ ['_']

/-- The canonical text as characters. -/
def chars (id : Id kind) : List Char := lead kind ++ Base32.write digitCount id.value.toNat

/-- The canonical text: tag, underscore and upper-case digits. -/
def text (id : Id kind) : String := String.ofList id.chars

instance : ToString (Id kind) := ⟨text⟩

/-- Read the digits behind the underscore. Their length is counted in bytes, so
that a text with characters outside the alphabet may already fail by length. -/
def ofDigits (digits : List Char) : Except IdError (Id kind) :=
  if Text.byteLength digits ≠ digitCount then .error .badLength
  else match Base32.read digits with
    | none => .error .badCharacter
    | some number => .ok ⟨BitVec.ofNat 128 number⟩

/-- Read an identifier of the given kind from characters. -/
def ofChars (kind : IdKind) (chars : List Char) : Except IdError (Id kind) :=
  if chars.isEmpty then .error .empty
  else if (lead kind).isPrefixOf chars then ofDigits (chars.drop (lead kind).length)
  else if chars.contains '_' then
    .error (.wrongTag kind (String.ofList (chars.takeWhile (· != '_'))))
  else .error .missingSeparator

/-- Read an identifier of the given kind. -/
def parse (kind : IdKind) (text : String) : Except IdError (Id kind) := ofChars kind text.toList

end Id

end PartitionLedger
