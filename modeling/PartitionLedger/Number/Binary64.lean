/-
# Finite binary64 numbers

Every finite binary64 number is a sign and a whole multiple of the least
subnormal, 2^-1074. The magnitudes are numbered from zero upwards; the number of
a magnitude is its bit pattern without the sign. Rounding a fraction to the
nearest magnitude, with ties to the even number, is exact natural arithmetic,
and so are the product and the quotient, each rounded once.
-/

namespace PartitionLedger

/-- A finite binary64 number. Zero has two signs. -/
structure Binary64 where
  negative : Bool
  /-- The place of the magnitude among all magnitudes in ascending order. -/
  magnitude : Nat
  deriving DecidableEq, Repr

namespace Binary64

/-- The number of fractions that one binary exponent spans. -/
def fractionCount : Nat := 1 <<< 52

/-- The number of finite magnitudes; the next place stands for infinity. -/
def magnitudeCount : Nat := 2047 * fractionCount

/-- The number of least subnormals in one. -/
def unitsPerOne : Nat := 1 <<< 1074

/-- A magnitude as a multiple of the least subnormal. -/
def units (magnitude : Nat) : Nat :=
  if magnitude < fractionCount then magnitude
  else (fractionCount + magnitude % fractionCount) <<< (magnitude / fractionCount - 1)

/-- Divide and round to the nearest whole number, and a tie to the even one. -/
def divideToNearest (numerator denominator : Nat) : Nat :=
  let quotient := numerator / denominator
  let twice := 2 * (numerator % denominator)
  if denominator < twice ∨ (twice = denominator ∧ quotient % 2 = 1) then quotient + 1 else quotient

/-- The magnitude nearest to a fraction of positive denominator. A result of
`magnitudeCount` or more means that the fraction is too large to be finite. -/
def nearest (numerator denominator : Nat) : Nat :=
  let whole := numerator * unitsPerOne / denominator
  let drop := Nat.log2 whole + 1 - 53
  drop * fractionCount + divideToNearest (numerator * unitsPerOne) (denominator <<< drop)

/-- Positive zero. -/
def zero : Binary64 := ⟨false, 0⟩

/-- The number nearest to a natural number below 2^64. -/
def ofNat (number : Nat) : Binary64 := ⟨false, nearest number 1⟩

/-- The opposite number; zero changes its sign too. -/
def negate (number : Binary64) : Binary64 := { number with negative := !number.negative }

/-- The magnitude is zero, whatever the sign. -/
def isZero (number : Binary64) : Bool := number.magnitude = 0

/-- The rounded product, or nothing if it is too large. -/
def multiply? (first second : Binary64) : Option Binary64 :=
  let product :=
    nearest (units first.magnitude * units second.magnitude) (unitsPerOne * unitsPerOne)
  if product < magnitudeCount then some ⟨first.negative != second.negative, product⟩ else none

/-- The rounded quotient by a number of at least one, which is always finite. -/
def divide (first second : Binary64) : Binary64 :=
  ⟨first.negative != second.negative, nearest (units first.magnitude) (units second.magnitude)⟩

/-- The natural number ten to a power. -/
def tenTo (exponent : Nat) : Nat := Nat.pow 10 exponent

/-- The number nearest to a power of ten; finite for exponents up to 308. -/
def powerOfTen (exponent : Nat) : Binary64 := ofNat (tenTo exponent)

/-- The largest power of ten that is finite. -/
def largestPower : Nat := 308

/-- Divide by a power of ten of any size, by the largest finite power as often
as it fits. A number that has reached zero stays zero. -/
def scaleDown (number : Binary64) (exponent : Nat) : Binary64 :=
  if exponent ≤ largestPower then number.divide (powerOfTen exponent)
  else if number.isZero then number
  else (number.divide (powerOfTen largestPower)).scaleDown (exponent - largestPower)
termination_by exponent
decreasing_by simp only [largestPower] at *; omega

/-- Multiply by a power of ten, if the result is finite. -/
def scaleUp? (number : Binary64) (exponent : Nat) : Option Binary64 :=
  if exponent ≤ largestPower then number.multiply? (powerOfTen exponent)
  else if number.isZero then some number
  else none

/-- A decimal significand below 2^64 times a power of ten. The significand and
the power are rounded first and their product or quotient once more, so the
result may lie a few places beside the nearest magnitude. -/
def ofDecimal? (significand : Nat) (exponent : Int) : Option Binary64 :=
  match exponent with
  | .ofNat power => (ofNat significand).scaleUp? power
  | .negSucc power => some ((ofNat significand).scaleDown (power + 1))

end Binary64

end PartitionLedger
