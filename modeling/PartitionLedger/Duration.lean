/-
# Durations in texts

A duration is a whole number of milliseconds. It is shown in milliseconds below
one second and in seconds from there on, with as many decimal places as it needs.
-/

namespace PartitionLedger

/-- The decimal places of a number of thousandths, without zeros at the end. -/
def thousandthsText (thousandths : Nat) : String :=
  if thousandths = 0 then ""
  else if thousandths % 100 = 0 then "." ++ toString (thousandths / 100)
  else if thousandths % 10 = 0 then
    "." ++ toString (thousandths / 100) ++ toString (thousandths / 10 % 10)
  else
    "." ++ toString (thousandths / 100) ++ toString (thousandths / 10 % 10) ++
      toString (thousandths % 10)

/-- The text of a duration. -/
def durationText (milliseconds : Nat) : String :=
  if milliseconds = 0 then "0ns"
  else if milliseconds < 1000 then toString milliseconds ++ "ms"
  else toString (milliseconds / 1000) ++ thousandthsText (milliseconds % 1000) ++ "s"

end PartitionLedger
