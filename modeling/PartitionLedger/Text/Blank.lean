/-
# Blanks

A blank is a character with the white-space property of Unicode: tab to carriage
return, the space, the next-line control, and the spaces and separators of other
scripts. Trimming drops the blanks at both ends of a text.
-/

import PartitionLedger.Text.Ranges

namespace PartitionLedger.Text

/-- First and last code point of every run of blanks, ascending. -/
def blankRanges : List (Nat × Nat) := [
  (0x9, 0xd), (0x20, 0x20), (0x85, 0x85), (0xa0, 0xa0), (0x1680, 0x1680), (0x2000, 0x200a),
  (0x2028, 0x2029), (0x202f, 0x202f), (0x205f, 0x205f), (0x3000, 0x3000)]

/-- The character is a blank. -/
def isBlank (char : Char) : Bool := inRanges blankRanges char

/-- The text without the blanks at its ends. -/
def trim (chars : List Char) : List Char :=
  ((chars.dropWhile isBlank).reverse.dropWhile isBlank).reverse

end PartitionLedger.Text
