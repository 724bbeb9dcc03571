/-
# The spellings of an identifier

Twenty-six digits carry 130 bits, two more than an identifier has, and letters are read in
either case. What is lost in reading is therefore the case of every letter, and of the first
symbol all but its value modulo eight. Writing an accepted text again puts the symbols in upper
case and the first one among the eight lowest, and changes nothing else. That describes all
texts that spell the same identifier.
-/

import PartitionLedger.Proofs.Partition.Restoration

namespace PartitionLedger

namespace Base32

/-! ### Single symbols -/

/-- A character whose upper case stands for a digit has the value of that digit. -/
theorem symbolValue_of_toUpper_eq {char : Char} {digit : Nat} (small : digit < 32)
    (same : char.toUpper = symbol digit) : IsSymbol char ∧ symbolValue char = digit := by
  have isSymbol : IsSymbol char := by
    rw [isSymbol_iff_mem, same]
    exact symbol_mem_symbols small
  refine ⟨isSymbol, ?_⟩
  rw [← symbol_inj (symbolValue_lt isSymbol) small, symbol_symbolValue isSymbol, same]

/-- A symbol is in upper case unless it is a lower-case letter. -/
theorem IsSymbol.toUpper_eq_self_iff {char : Char} (isSymbol : IsSymbol char) :
    char.toUpper = char ↔ (char.isAlpha = true → char.isUpper = true) := by
  have every : ∀ code ∈ List.range 128, ((Char.ofNat code).toUpper = Char.ofNat code ↔
      ((Char.ofNat code).isAlpha = true → (Char.ofNat code).isUpper = true)) := by
    decide +kernel
  exact of_ascii
    (P := fun char => char.toUpper = char ↔ (char.isAlpha = true → char.isUpper = true))
    every isSymbol.ascii

/-- The eight lowest symbols are their own remainders. -/
theorem symbol_mod_eq_self_iff (char : Char) :
    symbol (symbolValue char % 8) = char ↔ char ∈ "01234567".toList := by
  constructor
  · intro same
    have lowest : ∀ digit ∈ List.range 8, symbol digit ∈ "01234567".toList := by decide
    rw [← same]
    exact lowest _ (List.mem_range.mpr (Nat.mod_lt _ (by decide)))
  · intro low
    have kept :
        "01234567".toList.all (fun char => symbol (symbolValue char % 8) == char) = true := by
      decide
    exact eq_of_beq (List.all_eq_true.mp kept char low)

/-! ### Digit sequences -/

/-- The highest digit and the others, of a numeral that may have more digits above. -/
theorem numeral_cons_div {char : Char} {chars : List Char}
    (symbols : ∀ char ∈ chars, IsSymbol char) :
    numeral (char :: chars) / 32 ^ chars.length = symbolValue char := by
  rw [numeral_cons, Nat.add_comm, Nat.add_mul_div_right _ _ (Nat.pow_pos (by decide)),
    Nat.div_eq_of_lt (numeral_lt symbols), Nat.zero_add]

theorem numeral_cons_mod {char : Char} {chars : List Char}
    (symbols : ∀ char ∈ chars, IsSymbol char) :
    numeral (char :: chars) % 32 ^ chars.length = numeral chars := by
  rw [numeral_cons, Nat.mul_add_mod_self_right, Nat.mod_eq_of_lt (numeral_lt symbols)]

/-- Written again, digits are in upper case. -/
theorem write_numeral {chars : List Char} (symbols : ∀ char ∈ chars, IsSymbol char) :
    write chars.length (numeral chars) = chars.map Char.toUpper := by
  induction chars with
  | nil => rfl
  | cons char chars ih =>
    obtain ⟨first, later⟩ := List.forall_mem_cons.mp symbols
    rw [List.length_cons, write_succ_eq_cons, numeral_cons_div later,
      Nat.mod_eq_of_lt (symbolValue_lt first), symbol_symbolValue first, ← write_mod,
      numeral_cons_mod later, ih later, List.map_cons]

/-- If all but three bits of the highest digit are dropped, it is written as its remainder. -/
theorem write_truncated {char : Char} {chars : List Char}
    (symbols : ∀ char ∈ chars, IsSymbol char) :
    write (chars.length + 1) (numeral (char :: chars) % (32 ^ chars.length * 8)) =
      symbol (symbolValue char % 8) :: chars.map Char.toUpper := by
  have small : symbolValue char % 8 < 32 := Nat.lt_trans (Nat.mod_lt _ (by decide)) (by decide)
  rw [write_succ_eq_cons, Nat.mod_mul_right_div_self, numeral_cons_div symbols,
    Nat.mod_eq_of_lt small, ← write_mod, Nat.mod_mul_right_mod, numeral_cons_mod symbols,
    write_numeral symbols]

end Base32

namespace Id

open Base32 (IsSymbol symbol symbolValue numeral write)

variable {kind : IdKind}

/-- The characters of a text behind the place of the tag and its underscore. -/
def digits (kind : IdKind) (text : String) : List Char := text.toList.drop (lead kind).length

/-- Digit sequences that differ in case, and in the first symbol by a multiple of eight. -/
def Respells : List Char → List Char → Prop
  | first :: later, first' :: later' =>
    symbolValue first % 8 = symbolValue first' % 8 ∧
      later.map Char.toUpper = later'.map Char.toUpper
  | _, _ => False

/-- The four symbols, in upper case, that the digits of an identifier may begin with. -/
def firstSymbols (id : Id kind) : List Char :=
  (List.range 4).map fun turn => symbol (id.value.toNat / 32 ^ 25 + 8 * turn)

/-- How the texts of one kind of identifiers are brought into one form. -/
structure Normalizes (kind : IdKind) : Prop where
  parse_text : ∀ id : Id kind, parse kind id.text = .ok id
  ofText_toJson : ∀ id : Id kind, ofText kind id.toJson.text = .ok id
  /-- What an accepted text is written as is accepted for the same identifier, and is that text
  exactly if its letters are in upper case and its first symbol is among the eight lowest. -/
  text_of_parse : ∀ text (id : Id kind), parse kind text = .ok id →
    parse kind id.text = .ok id ∧
      (id.text = text ↔
        (∀ char ∈ digits kind text, char.isAlpha = true → char.isUpper = true) ∧
          ∃ first ∈ "01234567".toList, (digits kind text).head? = some first)
  eq_iff_respells : ∀ text text' (id id' : Id kind), parse kind text = .ok id →
    parse kind text' = .ok id' → (id = id' ↔ Respells (digits kind text) (digits kind text'))
  /-- All texts that spell an identifier. -/
  parse_eq_ok_iff : ∀ text (id : Id kind), parse kind text = .ok id ↔
    ∃ first later, text = kind.tag ++ "_" ++ String.ofList (first :: later) ∧
      first.toUpper ∈ id.firstSymbols ∧
      later.map Char.toUpper = (digits kind id.text).tail

/-! ### Accepted texts -/

theorem firstDigit_lt (id : Id kind) : id.value.toNat / 32 ^ 25 < 8 :=
  Nat.div_lt_of_lt_mul id.value.isLt

theorem digits_of_toList_eq {text : String} {rest : List Char}
    (cut : text.toList = lead kind ++ rest) : digits kind text = rest := by
  rw [digits, cut, List.drop_left]

theorem digits_text (id : Id kind) :
    digits kind id.text = symbol (id.value.toNat / 32 ^ 25) :: write 25 id.value.toNat := by
  have small : id.value.toNat / 32 ^ 25 < 32 := Nat.lt_trans id.firstDigit_lt (by decide)
  rw [digits_of_toList_eq id.toList_text, Base32.write_succ_eq_cons, Nat.mod_eq_of_lt small]

/-- Identifiers are told apart by their digits. -/
theorem write_eq_write_iff (first second : Id kind) :
    write 26 first.value.toNat = write 26 second.value.toNat ↔ first = second := by
  rw [Base32.write_inj first.value_lt second.value_lt, ← BitVec.toNat_eq]
  cases first
  cases second
  rw [mk.injEq]

/-- A text cut into the tag and a first and 25 further symbols, with what the symbols are
written as again. -/
structure Cut (text : String) (id : Id kind) (first : Char) (later : List Char) : Prop where
  toList_eq : text.toList = lead kind ++ first :: later
  length_later : later.length = 25
  isSymbol_first : IsSymbol first
  isSymbol_later : ∀ char ∈ later, IsSymbol char
  write_value : write 26 id.value.toNat = symbol (symbolValue first % 8) :: later.map Char.toUpper

/-- What the digits of an accepted text are written as. -/
theorem write_ofNat_numeral {first : Char} {later : List Char} (length : later.length = 25)
    (symbols : ∀ char ∈ later, IsSymbol char) :
    write 26 (BitVec.ofNat 128 (numeral (first :: later))).toNat =
      symbol (symbolValue first % 8) :: later.map Char.toUpper := by
  -- Twenty-five symbols leave three bits of the first one.
  have room : 2 ^ 128 = 32 ^ later.length * 8 := by rw [length]; decide
  rw [BitVec.toNat_ofNat, room, ← Base32.write_truncated symbols, length]

theorem parse_eq_ok_iff_cut (text : String) (id : Id kind) :
    parse kind text = .ok id ↔ ∃ first later, Cut text id first later := by
  rw [parse_eq_iff]
  constructor
  · intro reads
    cases reads with
    | @accepted rest length good =>
      have symbols := Base32.forall_mem_utf8_iff.mp good
      rw [Base32.length_utf8_of_isSymbol symbols] at length
      obtain ⟨first, later, split⟩ := List.exists_cons_of_length_eq_add_one length
      rw [split] at symbols length
      obtain ⟨here, there⟩ := List.forall_mem_cons.mp symbols
      have width : later.length = 25 := Nat.succ.inj length
      refine ⟨first, later, ?_, width, here, there, ?_⟩
      · rw [← eq_tag_append_iff, ← split, String.ofList_toList]
      · rw [split, write_ofNat_numeral width there]
  · rintro ⟨first, later, cut⟩
    have symbols := List.forall_mem_cons.mpr ⟨cut.isSymbol_first, cut.isSymbol_later⟩
    have length : (Text.utf8 (first :: later)).length = 26 := by
      rw [Base32.length_utf8_of_isSymbol symbols, List.length_cons, cut.length_later]
    have same : id = ⟨BitVec.ofNat 128 (numeral (first :: later))⟩ := by
      rw [← write_eq_write_iff, cut.write_value,
        write_ofNat_numeral cut.length_later cut.isSymbol_later]
    rw [(eq_tag_append_iff kind text _).mpr cut.toList_eq, same]
    rw [← String.toList_ofList (l := first :: later)] at symbols length
    have reads : Reads kind (kind.tag ++ "_" ++ String.ofList (first :: later)) _ :=
      .accepted length (Base32.forall_mem_utf8_iff.mpr symbols)
    rwa [String.toList_ofList] at reads

namespace Cut

variable {text text' : String} {id id' : Id kind} {first first' : Char} {later later' : List Char}

theorem digits_eq (cut : Cut text id first later) : digits kind text = first :: later :=
  digits_of_toList_eq cut.toList_eq

/-- Written again, a text is itself if it was in the normal form already. -/
theorem text_eq_iff (cut : Cut text id first later) :
    id.text = text ↔
      (∀ char ∈ digits kind text, char.isAlpha = true → char.isUpper = true) ∧
        ∃ first ∈ "01234567".toList, (digits kind text).head? = some first := by
  have upper : later.map Char.toUpper = later ↔
      ∀ char ∈ later, char.isAlpha = true → char.isUpper = true := by
    conv_lhs => rhs; rw [← List.map_id later]
    rw [List.map_eq_map_iff]
    exact forall₂_congr fun char inside => (cut.isSymbol_later char inside).toUpper_eq_self_iff
  have plain : ∀ char ∈ "01234567".toList, char.isAlpha = true → char.isUpper = true := by
    have digits : "01234567".toList.all (fun char => !char.isAlpha) = true := by decide
    intro char low letter
    have none := List.all_eq_true.mp digits char low
    rw [letter] at none
    exact absurd none Bool.false_ne_true
  rw [← String.toList_inj, toList_text, cut.toList_eq, List.append_cancel_left_eq, cut.write_value,
    List.cons.injEq, Base32.symbol_mod_eq_self_iff, upper, cut.digits_eq, List.forall_mem_cons]
  simp only [List.head?_cons, Option.some.injEq, exists_eq_right']
  constructor
  · rintro ⟨low, later⟩
    exact ⟨⟨plain first low, later⟩, low⟩
  · rintro ⟨⟨_, later⟩, low⟩
    exact ⟨low, later⟩

/-- Two texts spell the same identifier if one respells the other. -/
theorem eq_iff_respells (cut : Cut text id first later) (cut' : Cut text' id' first' later') :
    id = id' ↔ Respells (digits kind text) (digits kind text') := by
  have small : ∀ value : Nat, value % 8 < 32 := fun value =>
    Nat.lt_trans (Nat.mod_lt value (by decide)) (by decide)
  rw [← write_eq_write_iff, cut.write_value, cut'.write_value, List.cons.injEq,
    Base32.symbol_inj (small _) (small _), cut.digits_eq, cut'.digits_eq, Respells]

end Cut

/-- All texts that spell an identifier, by its own digits. -/
theorem parse_eq_ok_iff_exists (text : String) (id : Id kind) :
    parse kind text = .ok id ↔
      ∃ first later, text = kind.tag ++ "_" ++ String.ofList (first :: later) ∧
        first.toUpper ∈ id.firstSymbols ∧ later.map Char.toUpper = (digits kind id.text).tail := by
  have own : write 26 id.value.toNat =
      symbol (id.value.toNat / 32 ^ 25) :: write 25 id.value.toNat := by
    rw [← digits_text, digits_of_toList_eq id.toList_text]
  have low := id.firstDigit_lt
  rw [parse_eq_ok_iff_cut]
  refine exists_congr fun first => exists_congr fun later => ?_
  rw [eq_tag_append_iff, digits_text, List.tail_cons, firstSymbols, List.mem_map]
  simp only [List.mem_range]
  constructor
  · intro cut
    have value := Base32.symbolValue_lt cut.isSymbol_first
    obtain ⟨head, tail⟩ := List.cons.inj (own.symm.trans cut.write_value)
    rw [Base32.symbol_inj (by omega) (by omega)] at head
    refine ⟨cut.toList_eq, ⟨symbolValue first / 8, by omega, ?_⟩, tail.symm⟩
    rw [head, Nat.mod_add_div, Base32.symbol_symbolValue cut.isSymbol_first]
  · rintro ⟨toList_eq, ⟨turn, few, begins⟩, goesOn⟩
    obtain ⟨isSymbol, value⟩ := Base32.symbolValue_of_toUpper_eq (by omega) begins.symm
    refine ⟨toList_eq, ?_, isSymbol, ?_, ?_⟩
    · rw [← List.length_map (f := Char.toUpper), goesOn, Base32.length_write]
    · intro char inside
      rw [Base32.isSymbol_iff_mem]
      apply Base32.mem_symbols_of_mem_write
      rw [← goesOn]
      exact List.mem_map_of_mem inside
    · rw [own, value, goesOn, Nat.add_mul_mod_self_left, Nat.mod_eq_of_lt low]

/-- Reading takes the text of an identifier back, whether bare or as JSON. Every text that is
accepted is brought into the normal form by reading and writing it, and two of them spell the
same identifier exactly if they differ in case and in the two bits that are dropped. -/
theorem texts_normalize (kind : IdKind) : Normalizes kind where
  parse_text := parse_text
  ofText_toJson id := by
    rw [ofText, Json.Document.readText_text _ id.toJson trivial]
    exact id_toJson 0 id
  text_of_parse text id accepted := by
    obtain ⟨first, later, cut⟩ := (parse_eq_ok_iff_cut text id).mp accepted
    exact ⟨parse_text id, cut.text_eq_iff⟩
  eq_iff_respells text text' id id' accepted accepted' := by
    obtain ⟨first, later, cut⟩ := (parse_eq_ok_iff_cut text id).mp accepted
    obtain ⟨first', later', cut'⟩ := (parse_eq_ok_iff_cut text' id').mp accepted'
    exact cut.eq_iff_respells cut'
  parse_eq_ok_iff := parse_eq_ok_iff_exists

example : (parse .worker "wkr_9abcdefghjkmnpqrstvwxyz012").map text =
    .ok "wkr_1ABCDEFGHJKMNPQRSTVWXYZ012" := by
  decide +kernel

end Id

end PartitionLedger
