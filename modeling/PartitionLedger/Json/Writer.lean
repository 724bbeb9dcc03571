/-
# Compact JSON text

Values are written without blanks, members in the order in which they stand.
Strings escape the quote, the backslash and the control characters below the
space, five of which have short escapes; all other characters stand for
themselves. Whole numbers are written in decimal digits, binary64 numbers with
their shortest digits.
-/

import PartitionLedger.Json.Value
import PartitionLedger.Number.Shortest

namespace PartitionLedger.Json

/-- The escape of a character inside a JSON string, if it must not stand for itself. -/
def escape? (char : Char) : Option (List Char) :=
  if char = '"' then some ['\\', '"']
  else if char = '\\' then some ['\\', '\\']
  else if char = '\x08' then some ['\\', 'b']
  else if char = '\x0c' then some ['\\', 'f']
  else if char = '\n' then some ['\\', 'n']
  else if char = '\r' then some ['\\', 'r']
  else if char = '\t' then some ['\\', 't']
  else if char.toNat < 0x20 then
    some ['\\', 'u', '0', '0', Nat.digitChar (char.toNat / 16), Nat.digitChar (char.toNat % 16)]
  else none

/-- The characters between the quotes of a JSON string. -/
def stringBody (chars : List Char) : List Char :=
  chars.flatMap fun char => (escape? char).getD [char]

/-- A JSON string with its quotes. -/
def stringChars (text : String) : List Char := '"' :: stringBody text.toList ++ ['"']

/-- A whole number in decimal digits. -/
def integerChars (exact : Int) : List Char :=
  if exact < 0 then '-' :: Nat.toDigits 10 exact.natAbs else Nat.toDigits 10 exact.natAbs

/-- A number. -/
def Number.chars : Number → List Char
  | .integer exact => integerChars exact.value
  | .real rounded => Shortest.chars rounded

mutual

/-- The compact text of a value. -/
def chars : Json → List Char
  | null => ['n', 'u', 'l', 'l']
  | boolean true => ['t', 'r', 'u', 'e']
  | boolean false => ['f', 'a', 'l', 's', 'e']
  | number value => value.chars
  | string text => stringChars text
  | array [] => ['[', ']']
  | array (item :: items) => '[' :: item.chars ++ laterItems items
  | object [] => ['{', '}']
  | object ((key, value) :: members) =>
    '{' :: stringChars key ++ ':' :: value.chars ++ laterMembers members

/-- The items after the first one, and the closing bracket. -/
def laterItems : List Json → List Char
  | [] => [']']
  | item :: items => ',' :: item.chars ++ laterItems items

/-- The members after the first one, and the closing brace. -/
def laterMembers : List (String × Json) → List Char
  | [] => ['}']
  | (key, value) :: members => ',' :: stringChars key ++ ':' :: value.chars ++ laterMembers members

end

/-- The compact text of a value as a string. -/
def text (value : Json) : String := String.ofList value.chars

end PartitionLedger.Json
