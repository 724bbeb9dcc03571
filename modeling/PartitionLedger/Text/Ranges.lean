/-
# Ranges of characters

A class of characters is a list of ranges of code points, and a character belongs
to it if one of the ranges holds its code point. Ranges include both of their ends.
-/

namespace PartitionLedger.Text

/-- The character lies in one of the ranges, each given by its first and last code
point. -/
def inRanges (ranges : List (Nat × Nat)) (char : Char) : Bool :=
  ranges.any fun range => range.1 ≤ char.toNat && char.toNat ≤ range.2

end PartitionLedger.Text
