/-
# Shortest decimal text

The decimal text of a binary64 number has the fewest digits that read back to
the number under correct rounding, and of several such digit strings the nearest
one. A magnitude owns the interval between the midpoints to its neighbours, the
midpoints included if its place is even. For one digit, two digits and so on the
two grid points around the number are tested against that interval; the first
grid with a hit decides.
-/

import PartitionLedger.Number.Binary64

namespace PartitionLedger.Shortest

open Binary64 (tenTo)

/-- A decimal: its digits, without zeros at the end, and the power of ten of the
first digit. -/
structure Decimal where
  digits : Nat
  exponent : Int
  deriving DecidableEq, Repr

/-- The power of ten by which every magnitude is raised before its digits are
counted, so that the least magnitude is still above one. -/
def lift : Nat := 324

/-- The number of decimal digits of a natural number; none for zero. -/
def digitCount (number : Nat) : Nat := if number = 0 then 0 else (Nat.toDigits 10 number).length

/-- The exponent of the first decimal digit of a magnitude above zero, counted
upwards from ten to the power of `-lift`. -/
def liftedExponent (magnitude : Nat) : Nat :=
  digitCount (Binary64.units magnitude * tenTo lift / Binary64.unitsPerOne) - 1

/-- A multiple of a power of ten reads back to the magnitude. The power counts
from ten to the power of `-2 * lift`, and both sides are compared in halves of
the least subnormal. -/
def readsBack (magnitude candidate power : Nat) : Bool :=
  let point := 2 * candidate * tenTo power * Binary64.unitsPerOne
  let scale := tenTo (2 * lift)
  let lower := (Binary64.units (magnitude - 1) + Binary64.units magnitude) * scale
  let upper := (Binary64.units magnitude + Binary64.units (magnitude + 1)) * scale
  if magnitude % 2 = 0 then lower ≤ point && point ≤ upper else lower < point && point < upper

/-- The best of the two multiples of a power of ten around the magnitude, if one
of them reads back: the nearer, and the even one of two that are equally near. -/
def candidate? (magnitude power : Nat) : Option Nat :=
  let exact := Binary64.units magnitude * tenTo (2 * lift)
  let step := tenTo power * Binary64.unitsPerOne
  let below := exact / step
  let twice := 2 * (exact % step)
  let preferAbove := step < twice || (twice == step && below % 2 == 1)
  let (first, second) := if preferAbove then (below + 1, below) else (below, below + 1)
  if readsBack magnitude first power then some first
  else if readsBack magnitude second power then some second
  else none

/-- Drop zeros at the end of a digit string. -/
def trim (digits : Nat) : Nat :=
  if digits ≠ 0 ∧ digits % 10 = 0 then trim (digits / 10) else digits
termination_by digits
decreasing_by omega

/-- Search the grids from `count` digits on, with at most `more` further ones. -/
def search (magnitude count : Nat) : (more : Nat) → Nat
  | 0 => 0
  | more + 1 =>
    let power := liftedExponent magnitude + lift + 1 - count
    match candidate? magnitude power with
    | some found => found * tenTo power
    | none => search magnitude (count + 1) more

/-- The shortest decimal of a magnitude above zero. Seventeen digits always
read back, so no search goes further. -/
def decimal (magnitude : Nat) : Decimal :=
  let found := search magnitude 1 17
  ⟨trim found, (digitCount found : Int) - 1 - (2 * lift : Nat)⟩

/-- How decimals are written: the range of exponents that is written without an
exponent part. -/
structure Style where
  lowestPlain : Int
  highestPlain : Int

/-- The digits of a number as characters. -/
def digitChars (number : Nat) : List Char := Nat.toDigits 10 number

/-- An exponent part with an explicit sign. -/
def exponentChars (exponent : Int) : List Char :=
  'e' :: (if exponent < 0 then '-' else '+') :: digitChars exponent.natAbs

/-- Write a decimal. Plain text always has a digit on both sides of the point;
exponent text has a point only between digits. -/
def Decimal.chars (style : Style) (decimal : Decimal) : List Char :=
  let digits := digitChars decimal.digits
  if decimal.exponent < style.lowestPlain ∨ style.highestPlain < decimal.exponent then
    match digits with
    | first :: second :: rest =>
      first :: '.' :: second :: rest ++ exponentChars decimal.exponent
    | _ => digits ++ exponentChars decimal.exponent
  else if decimal.exponent < 0 then
    '0' :: '.' :: List.replicate (decimal.exponent.natAbs - 1) '0' ++ digits
  else
    let whole := decimal.exponent.toNat + 1
    let fraction := digits.drop whole
    digits.take whole ++ List.replicate (whole - digits.length) '0' ++
      '.' :: (if fraction.isEmpty then ['0'] else fraction)

/-- Numbers from 10^-5 up to, but not including, 10^16 are written plainly. -/
def style : Style := ⟨-5, 15⟩

/-- The text of a binary64 number: a sign if it is negative, then the shortest
decimal. -/
def chars (number : Binary64) : List Char :=
  let unsigned :=
    if number.magnitude = 0 then ['0', '.', '0'] else (decimal number.magnitude).chars style
  if number.negative then '-' :: unsigned else unsigned

end PartitionLedger.Shortest
