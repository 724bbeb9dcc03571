/-
# Base-32 digits

Identifiers are written with the ten decimal digits and the letters of the
alphabet without I, L, O and U, which are easily misread. The symbols ascend
with the values they stand for. Reading accepts letters of either case;
writing uses upper case and a fixed number of digits.
-/

namespace PartitionLedger.Base32

/-- The thirty-two symbols in ascending order of value. -/
def symbols : List Char := "0123456789ABCDEFGHJKMNPQRSTVWXYZ".toList

/-- The symbol of a digit value; only values below thirty-two occur. -/
def symbol (digit : Nat) : Char := symbols.getD digit '0'

/-- The value of a symbol of either case. -/
def digit? (char : Char) : Option Nat := symbols.findIdx? (· == char.toUpper)

/-- The lowest `width` digits of a number, most significant first. -/
def write : (width : Nat) → (value : Nat) → List Char
  | 0, _ => []
  | width + 1, value => write width (value / 32) ++ [symbol (value % 32)]

/-- The number that a digit sequence denotes after the number already read. -/
def readFrom (high : Nat) : List Char → Option Nat
  | [] => some high
  | char :: rest =>
    match digit? char with
    | none => none
    | some digit => readFrom (high * 32 + digit) rest

/-- The number that a digit sequence denotes, unless some character is no symbol. -/
def read (chars : List Char) : Option Nat := readFrom 0 chars

theorem digit?_symbol {digit : Nat} (small : digit < 32) : digit? (symbol digit) = some digit := by
  have every : ∀ value ∈ List.range 32, digit? (symbol value) = some value := by decide
  exact every digit (List.mem_range.mpr small)

theorem length_write (width value : Nat) : (write width value).length = width := by
  induction width generalizing value with
  | zero => rfl
  | succ width ih => simp [write, ih]

end PartitionLedger.Base32
