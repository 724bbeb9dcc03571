/-
# Base-32 numerals

Which characters are digits is said here in terms of what they look like, and what a digit
sequence denotes as a positional numeral. Reading accepts exactly the sequences of digits
and gives their numeral's value; a number that fits into the width it is written with is read
back. Digits are ASCII characters, so that a byte of a text that is no digit belongs to a
character that is none.
-/

import Mathlib.Data.List.GetD
import Mathlib.Data.Nat.Digits.Defs
import PartitionLedger.Identity.Basic

namespace PartitionLedger

namespace Base32

/-- A decimal digit, or a letter of either case other than I, L, O and U. -/
def IsSymbol (char : Char) : Prop :=
  char.isDigit = true ∨ (char.isAlpha = true ∧ char.toUpper ∉ ['I', 'L', 'O', 'U'])

instance (char : Char) : Decidable (IsSymbol char) := inferInstanceAs (Decidable (_ ∨ _))

/-- What a symbol stands for: its place among all symbols. -/
def symbolValue (char : Char) : Nat := symbols.idxOf char.toUpper

/-- What a sequence of symbols denotes, most significant first. -/
def numeral (chars : List Char) : Nat := Nat.ofDigits 32 (chars.map symbolValue).reverse

theorem numeral_cons (char : Char) (chars : List Char) :
    numeral (char :: chars) = symbolValue char * 32 ^ chars.length + numeral chars := by
  rw [numeral, List.map_cons, List.reverse_cons, Nat.ofDigits_append, List.length_reverse,
    List.length_map, Nat.ofDigits_singleton, numeral, Nat.mul_comm, Nat.add_comm]

/-! ### Single characters -/

/-- Characters outside ASCII are no symbols. -/
theorem IsSymbol.ascii {char : Char} (symbol : IsSymbol char) : char.toNat < 128 := by
  have below : ∀ {bound : UInt32}, bound.toNat < 128 → char.val ≤ bound → char.toNat < 128 :=
    fun small least => Nat.lt_of_le_of_lt (UInt32.le_iff_toNat_le.mp least) small
  rcases symbol with digit | ⟨letter, _⟩
  · exact below (by decide) (of_decide_eq_true (Bool.and_eq_true_iff.mp digit).2)
  · rcases Bool.or_eq_true_iff.mp letter with upper | lower
    · exact below (by decide) (of_decide_eq_true upper).2
    · exact below (by decide) (of_decide_eq_true (Bool.and_eq_true_iff.mp lower).2)

/-- What holds of the 128 characters of ASCII one by one. -/
theorem of_ascii {P : Char → Prop} (every : ∀ code ∈ List.range 128, P (Char.ofNat code))
    {char : Char} (ascii : char.toNat < 128) : P char := by
  have this := every char.toNat (List.mem_range.mpr ascii)
  rwa [Char.ofNat_toNat] at this

/-- A symbol is found in upper case among the thirty-two. -/
theorem isSymbol_iff_mem (char : Char) : IsSymbol char ↔ char.toUpper ∈ symbols := by
  -- Within ASCII every character is looked at; outside, upper case changes nothing.
  by_cases ascii : char.toNat < 128
  · have every : ∀ code ∈ List.range 128,
        (IsSymbol (Char.ofNat code) ↔ (Char.ofNat code).toUpper ∈ symbols) := by
      decide +kernel
    exact of_ascii (P := fun char => IsSymbol char ↔ char.toUpper ∈ symbols) every ascii
  · have unchanged : char.toUpper = char := by
      refine dif_neg fun lower => ascii ?_
      exact Nat.lt_of_le_of_lt (UInt32.le_iff_toNat_le.mp lower.2) (by decide)
    have plain : symbols.all (·.toNat < 128) = true := by decide
    rw [unchanged]
    exact iff_of_false (fun symbol => ascii symbol.ascii) fun listed =>
      ascii (of_decide_eq_true (List.all_eq_true.mp plain char listed))

theorem digit?_of_isSymbol {char : Char} (symbol : IsSymbol char) :
    digit? char = some (symbolValue char) := by
  have listed := (isSymbol_iff_mem char).mp symbol
  rw [digit?, List.findIdx?_eq_guard_findIdx_lt, Option.guard_eq_some_iff]
  exact ⟨rfl, decide_eq_true (List.idxOf_lt_length_of_mem listed)⟩

theorem digit?_eq_none_iff (char : Char) : digit? char = none ↔ ¬ IsSymbol char := by
  rw [isSymbol_iff_mem, digit?, List.findIdx?_eq_none_iff]
  constructor
  · intro none listed
    have found := none _ listed
    rw [beq_self_eq_true] at found
    cases found
  · intro unlisted symbol listed
    rw [beq_eq_false_iff_ne]
    rintro rfl
    exact unlisted listed

/-! ### What a symbol stands for -/

theorem symbolValue_lt {char : Char} (isSymbol : IsSymbol char) : symbolValue char < 32 :=
  List.idxOf_lt_length_of_mem ((isSymbol_iff_mem char).mp isSymbol)

theorem symbol_symbolValue {char : Char} (isSymbol : IsSymbol char) :
    symbol (symbolValue char) = char.toUpper := by
  have listed := List.idxOf_lt_length_of_mem ((isSymbol_iff_mem char).mp isSymbol)
  rw [symbol, symbolValue, List.getD_eq_getElem _ _ listed, List.getElem_idxOf]

theorem symbol_mem_symbols {digit : Nat} (small : digit < 32) : symbol digit ∈ symbols := by
  rw [symbol, List.getD_eq_getElem _ _ small]
  exact List.getElem_mem small

/-- A symbol stands at one place only. -/
theorem symbol_inj {first second : Nat} (small : first < 32) (small' : second < 32) :
    symbol first = symbol second ↔ first = second := by
  constructor
  · intro same
    have value := digit?_symbol small
    rw [same, digit?_symbol small'] at value
    exact (Option.some.inj value).symm
  · exact congrArg symbol

/-! ### Numerals -/

theorem numeral_lt {chars : List Char} (symbols : ∀ char ∈ chars, IsSymbol char) :
    numeral chars < 32 ^ chars.length := by
  have small : ∀ value ∈ (chars.map symbolValue).reverse, value < 32 := by
    intro value inside
    obtain ⟨char, member, rfl⟩ := List.mem_map.mp (List.mem_reverse.mp inside)
    exact symbolValue_lt (symbols char member)
  have bound := Nat.ofDigits_lt_base_pow_length (by decide) small
  rwa [List.length_reverse, List.length_map] at bound

theorem readFrom_of_isSymbol (high : Nat) {chars : List Char}
    (symbols : ∀ char ∈ chars, IsSymbol char) :
    readFrom high chars = some (high * 32 ^ chars.length + numeral chars) := by
  induction chars generalizing high with
  | nil => simp [readFrom, numeral]
  | cons char chars ih =>
    obtain ⟨first, later⟩ := List.forall_mem_cons.mp symbols
    rw [readFrom, digit?_of_isSymbol first]
    simp only []
    rw [ih _ later, numeral_cons, List.length_cons, Nat.pow_succ]
    congr 1
    ring

theorem readFrom_eq_none_iff (high : Nat) (chars : List Char) :
    readFrom high chars = none ↔ ∃ char ∈ chars, ¬ IsSymbol char := by
  constructor
  · intro failed
    by_contra every
    simp only [not_exists, not_and, not_not] at every
    rw [readFrom_of_isSymbol high every] at failed
    cases failed
  · rintro ⟨char, inside, other⟩
    induction chars generalizing high with
    | nil => cases inside
    | cons first chars ih =>
      rw [readFrom]
      cases found : digit? first with
      | none => rfl
      | some digit =>
        rcases List.mem_cons.mp inside with rfl | later
        · rw [(digit?_eq_none_iff char).mpr other] at found
          cases found
        · exact ih _ later

/-- Reading gives the value of a sequence of symbols, and nothing else is read. -/
theorem read_eq_some_iff {chars : List Char} {value : Nat} :
    read chars = some value ↔ (∀ char ∈ chars, IsSymbol char) ∧ value = numeral chars := by
  by_cases every : ∀ char ∈ chars, IsSymbol char
  · rw [read, readFrom_of_isSymbol 0 every, Nat.zero_mul, Nat.zero_add, Option.some.injEq,
      and_iff_right every, eq_comm]
  · have failed : read chars = none := by
      rw [read, readFrom_eq_none_iff]
      simpa using every
    rw [failed]
    exact iff_of_false nofun fun both => every both.1

theorem readFrom_append (high : Nat) (first second : List Char) :
    readFrom high (first ++ second) =
      (readFrom high first).bind fun value => readFrom value second := by
  induction first generalizing high with
  | nil => rfl
  | cons char first ih =>
    rw [List.cons_append, readFrom, readFrom]
    cases digit? char with
    | none => rfl
    | some digit => exact ih _

/-- What was written is read back, as far as the width allows. -/
theorem read_write (width value : Nat) : read (write width value) = some (value % 32 ^ width) := by
  induction width generalizing value with
  | zero => rw [Nat.pow_zero, Nat.mod_one]; rfl
  | succ width ih =>
    have digit := digit?_symbol (Nat.mod_lt value (by decide : 0 < 32))
    rw [write, read, readFrom_append, ← read, ih, Option.bind_some, readFrom, digit]
    show some (value / 32 % 32 ^ width * 32 + value % 32) = _
    rw [Nat.pow_succ', Nat.mod_mul, Nat.mul_comm, Nat.add_comm]

theorem mem_symbols_of_mem_write {width value : Nat} {char : Char}
    (written : char ∈ write width value) : char ∈ symbols := by
  induction width generalizing value with
  | zero => cases written
  | succ width ih =>
    rcases List.mem_append.mp written with higher | lowest
    · exact ih higher
    · rw [List.mem_singleton.mp lowest]
      exact symbol_mem_symbols (Nat.mod_lt _ (by decide))

/-- Writing ends with the least significant digit. -/
theorem write_succ (width value : Nat) :
    write (width + 1) value = write width (value / 32) ++ [symbol (value % 32)] := rfl

/-- Writing begins with the most significant digit. -/
theorem write_succ_eq_cons (width value : Nat) :
    write (width + 1) value = symbol (value / 32 ^ width % 32) :: write width value := by
  induction width generalizing value with
  | zero => rw [Nat.pow_zero, Nat.div_one]; rfl
  | succ width ih =>
    rw [write_succ, ih, List.cons_append, ← write_succ, Nat.div_div_eq_div_mul, ← Nat.pow_succ']

/-- Digits beyond the width are not written. -/
theorem write_mod (width value : Nat) : write width (value % 32 ^ width) = write width value := by
  induction width generalizing value with
  | zero => rfl
  | succ width ih =>
    rw [write_succ, Nat.pow_succ', Nat.mod_mul_right_div_self, ih, Nat.mod_mul_right_mod,
      ← write_succ]

/-- Numbers that fit into the width are told apart by what is written. -/
theorem write_inj {width first second : Nat} (fits : first < 32 ^ width)
    (fits' : second < 32 ^ width) : write width first = write width second ↔ first = second := by
  constructor
  · intro same
    have read := read_write width first
    rw [same, read_write, Nat.mod_eq_of_lt fits, Nat.mod_eq_of_lt fits'] at read
    exact (Option.some.inj read).symm
  · exact congrArg (write width)

end Base32

namespace Text

/-- The bytes of a text in UTF-8. -/
def utf8 (chars : List Char) : List UInt8 := chars.flatMap String.utf8EncodeChar

theorem length_utf8 (chars : List Char) : (utf8 chars).length = byteLength chars := by
  induction chars with
  | nil => rfl
  | cons char chars ih =>
    rw [utf8, List.flatMap_cons, List.length_append, String.length_utf8EncodeChar, ← utf8, ih,
      byteLength]

theorem byteLength_of_ascii {chars : List Char} (ascii : ∀ char ∈ chars, char.toNat < 128) :
    byteLength chars = chars.length := by
  induction chars with
  | nil => rfl
  | cons char chars ih =>
    obtain ⟨first, later⟩ := List.forall_mem_cons.mp ascii
    have single : char.utf8Size = 1 := Char.utf8Size_eq_one_iff.mpr (Nat.le_of_lt_succ first)
    rw [byteLength, single, ih later, List.length_cons, Nat.add_comm]

/-- The bytes of a character outside ASCII are outside ASCII too. -/
theorem le_of_mem_utf8EncodeChar {char : Char} (wide : 128 ≤ char.toNat) {byte : UInt8}
    (inside : byte ∈ String.utf8EncodeChar char) : 128 ≤ byte.toNat := by
  have notAscii : ¬ char.val.toNat ≤ 127 := Nat.not_le.mpr wide
  rw [String.utf8EncodeChar] at inside
  simp only [if_neg notAscii] at inside
  split_ifs at inside <;> simp only [List.mem_cons, List.not_mem_nil, or_false] at inside <;>
    rcases inside with rfl | rfl | rfl | rfl <;> rw [UInt8.toNat_ofNat'] <;> omega

theorem utf8EncodeChar_of_ascii {char : Char} (ascii : char.toNat < 128) :
    String.utf8EncodeChar char = [UInt8.ofNat char.toNat] :=
  if_pos (Nat.le_of_lt_succ ascii)

end Text

namespace Base32

/-- Symbols take one byte each. -/
theorem length_utf8_of_isSymbol {chars : List Char} (symbols : ∀ char ∈ chars, IsSymbol char) :
    (Text.utf8 chars).length = chars.length := by
  rw [Text.length_utf8, Text.byteLength_of_ascii fun char inside => (symbols char inside).ascii]

/-- All bytes of a symbol are symbols, and some byte of any other character is none. -/
theorem forall_mem_utf8EncodeChar_iff (char : Char) :
    (∀ byte ∈ String.utf8EncodeChar char, IsSymbol (Char.ofUInt8 byte)) ↔ IsSymbol char := by
  by_cases ascii : char.toNat < 128
  · have same : Char.ofUInt8 (UInt8.ofNat char.toNat) = char := by
      apply Char.toNat_inj.mp
      show (UInt8.ofNat char.toNat).toUInt32.toNat = char.toNat
      rw [UInt8.toNat_toUInt32, UInt8.toNat_ofNat']
      exact Nat.mod_eq_of_lt (ascii.trans (by decide))
    rw [Text.utf8EncodeChar_of_ascii ascii, List.forall_mem_singleton, same]
  · refine iff_of_false (fun every => ?_) fun symbol => ascii symbol.ascii
    obtain ⟨byte, inside⟩ := List.exists_mem_of_ne_nil _ (String.utf8EncodeChar_ne_nil (c := char))
    have wide := Text.le_of_mem_utf8EncodeChar (Nat.not_lt.mp ascii) inside
    have narrow := (every byte inside).ascii
    rw [← UInt8.toNat_toUInt32] at wide
    exact Nat.not_lt.mpr wide narrow

/-- All bytes of a text are symbols exactly if all of its characters are. -/
theorem forall_mem_utf8_iff {chars : List Char} :
    (∀ byte ∈ Text.utf8 chars, IsSymbol (Char.ofUInt8 byte)) ↔ ∀ char ∈ chars, IsSymbol char := by
  rw [Text.utf8, List.forall_mem_flatMap]
  simp only [forall_mem_utf8EncodeChar_iff]

end Base32

end PartitionLedger
