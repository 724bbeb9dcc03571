/-
# Text measured in bytes

The length of a text is the number of bytes of its UTF-8 form, and a place in it is
given by the number of bytes in front. A character that such a place falls into
counts as lying in front of it, so that taking and dropping never lose a character.
-/

namespace PartitionLedger.Text

/-- The number of bytes that a character sequence takes in UTF-8. -/
def byteLength : List Char → Nat
  | [] => 0
  | char :: rest => char.utf8Size + byteLength rest

/-- The characters in front of a place. -/
def takeBytes : Nat → List Char → List Char
  | _, [] => []
  | 0, _ :: _ => []
  | count + 1, char :: rest => char :: takeBytes (count + 1 - char.utf8Size) rest

/-- The characters from a place on. -/
def dropBytes : Nat → List Char → List Char
  | _, [] => []
  | 0, char :: rest => char :: rest
  | count + 1, char :: rest => dropBytes (count + 1 - char.utf8Size) rest

/-- The characters between two places. -/
def cutBytes (first last : Nat) (chars : List Char) : List Char :=
  dropBytes first (takeBytes last chars)

end PartitionLedger.Text
