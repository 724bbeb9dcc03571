/-
# Written values

A written value is laid out as the tokens that its shape prescribes, without blanks. Strings
are escaped character by character, and whole numbers are written in decimal digits. Both are
among the ways in which a text may have them.
-/

import PartitionLedger.Json.Writer
import PartitionLedger.Proofs.Json.Grammar

namespace PartitionLedger.Json

/-! ### Strings -/

/-- The four digits of the escape of a control character. -/
theorem hexUnit?_control {code : Nat} (control : code < 0x20) :
    hexUnit? '0' '0' (Nat.digitChar (code / 16)) (Nat.digitChar (code % 16)) = some code := by
  have every : ∀ code ∈ List.range 0x20,
      hexUnit? '0' '0' (Nat.digitChar (code / 16)) (Nat.digitChar (code % 16)) = some code := by
    decide
  exact every code (List.mem_range.mpr control)

/-- A character has a short escape, or is a control character and has a long one, or stands for
itself. -/
theorem escape?_cases (char : Char) :
    (∃ letter, shortEscape? letter = some char ∧ escape? char = some ['\\', letter]) ∨
      (char.toNat < 0x20 ∧ escape? char = some ['\\', 'u', '0', '0',
        Nat.digitChar (char.toNat / 16), Nat.digitChar (char.toNat % 16)]) ∨
      (char ≠ '"' ∧ char ≠ '\\' ∧ ¬ char.toNat < 0x20 ∧ escape? char = none) := by
  generalize written : escape? char = escaped
  rw [escape?] at written
  split_ifs at written with quote backslash backspace feed line carriage tab control <;>
    cases written
  · exact .inl ⟨'"', by rw [quote]; rfl, rfl⟩
  · exact .inl ⟨'\\', by rw [backslash]; rfl, rfl⟩
  · exact .inl ⟨'b', by rw [backspace]; rfl, rfl⟩
  · exact .inl ⟨'f', by rw [feed]; rfl, rfl⟩
  · exact .inl ⟨'n', by rw [line]; rfl, rfl⟩
  · exact .inl ⟨'r', by rw [carriage]; rfl, rfl⟩
  · exact .inl ⟨'t', by rw [tab]; rfl, rfl⟩
  · exact .inr (.inl ⟨control, rfl⟩)
  · exact .inr (.inr ⟨quote, backslash, control, rfl⟩)

/-- A character is written as itself or with its escape. -/
theorem writtenChar_escaped (char : Char) : WrittenChar char ((escape? char).getD [char]) := by
  rcases escape?_cases char with ⟨letter, known, escaped⟩ | ⟨control, escaped⟩ |
    ⟨noQuote, noEscape, printable, escaped⟩
  · rw [escaped]
    exact .short known
  · rw [escaped]
    exact .code (hexUnit?_control control)
  · rw [escaped]
    exact .plain noQuote noEscape printable

theorem writtenChars_stringBody (chars : List Char) : WrittenChars chars (stringBody chars) := by
  induction chars with
  | nil => exact .nil
  | cons char chars ih =>
    rw [stringBody, List.flatMap_cons]
    exact .cons (writtenChar_escaped char) ih

/-! ### Whole numbers -/

theorem isDigit_of_mem_decimal {number : Nat} {char : Char}
    (inside : char ∈ Nat.toDigits 10 number) : char.isDigit = true :=
  Nat.isDigit_of_mem_toDigits (by decide) (by decide) inside

/-- A number above zero has no leading zero. -/
theorem head?_toDigits_ne {number : Nat} (positive : 0 < number) :
    (Nat.toDigits 10 number).head? ≠ some '0' := by
  induction number using Nat.strongRecOn with
  | ind number ih =>
    by_cases small : number < 10
    · have every : ∀ digit ∈ List.range 10, 0 < digit → Nat.digitChar digit ≠ '0' := by decide
      rw [Nat.toDigits_of_lt_base small, List.head?_cons, ne_eq, Option.some.injEq]
      exact every number (List.mem_range.mpr small) positive
    · have large : 10 ≤ number := Nat.le_of_not_lt small
      have shorter : 0 < number / 10 ∧ number / 10 < number := by omega
      rw [Nat.toDigits_of_base_le (by decide) large,
        List.head?_append, Option.or_of_isSome (List.isSome_head?.mpr Nat.toDigits_ne_nil)]
      exact ih _ shorter.2 shorter.1

theorem wholePart_toDigits (number : Nat) : WholePart (Nat.toDigits 10 number) := by
  refine ⟨⟨Nat.toDigits_ne_nil, fun _ => isDigit_of_mem_decimal⟩, fun zero => ?_⟩
  rcases Nat.eq_zero_or_pos number with rfl | positive
  · rfl
  · exact absurd zero (head?_toDigits_ne positive)

/-- A whole number as it is spelled. -/
def wholeNumeral (exact : Int) : Numeral :=
  ⟨decide (exact < 0), Nat.toDigits 10 exact.natAbs, [], none, true⟩

theorem written_integerChars (exact : Int) : (wholeNumeral exact).Written (integerChars exact) := by
  have parts : (wholeNumeral exact).Written ((if decide (exact < 0) then ['-'] else []) ++
      (Nat.toDigits 10 exact.natAbs ++ ([] ++ []))) :=
    .parts (wholePart_toDigits exact.natAbs) .absent .absent
  rw [List.append_nil, List.append_nil] at parts
  rw [integerChars]
  split_ifs with negative
  · rwa [decide_eq_true negative] at parts
  · rwa [decide_eq_false negative] at parts

theorem digitsValue_toDigits (number : Nat) : digitsValue (Nat.toDigits 10 number) = number := by
  have value := Nat.ofDigitChars_ten_toDigits (n := number)
  rw [Nat.ofDigitChars_eq_foldl] at value
  simpa only [digitsValue, Nat.mul_comm] using value

/-- A number of 64 bits is read back exactly. -/
theorem reading_wholeNumeral (exact : Integer) :
    (wholeNumeral exact.value).reading = .ok (.integer exact) := by
  obtain ⟨value, lower, upper⟩ := exact
  have whole : (wholeNumeral value).integer? = some ⟨value, lower, upper⟩ := by
    rw [Numeral.integer?]
    simp only [wholeNumeral, digitsValue_toDigits, decide_eq_true_eq, not_true_eq_false, if_false]
    split_ifs with negative inside outside
    · congr
      omega
    · omega
    · congr
      omega
    · omega
  rw [Numeral.reading, whole]

/-! ### Values -/

mutual

/-- No number inside is a binary64 number. -/
def Exact : Json → Prop
  | null | boolean _ | string _ | number (.integer _) => True
  | number (.real _) => False
  | array items => ExactItems items
  | object members => ExactMembers members

/-- No number inside any item is a binary64 number. -/
def ExactItems : List Json → Prop
  | [] => True
  | item :: items => item.Exact ∧ ExactItems items

/-- No number inside any member is a binary64 number. -/
def ExactMembers : List (String × Json) → Prop
  | [] => True
  | (_, value) :: members => value.Exact ∧ ExactMembers members

end

mutual

/-- The tokens of a written value. -/
def tokens : Json → List Token
  | null => [.null]
  | boolean flag => [.boolean flag]
  | number value => [.number (.ok value)]
  | string text => [.string (.ok text)]
  | array [] => [.openBracket, .closeBracket]
  | array (item :: items) => .openBracket :: (item.tokens ++ laterItemTokens items)
  | object [] => [.openBrace, .closeBrace]
  | object ((key, value) :: members) =>
    .openBrace :: .string (.ok key) :: .colon :: (value.tokens ++ laterMemberTokens members)

/-- The tokens of the items after the first one, and the closing bracket. -/
def laterItemTokens : List Json → List Token
  | [] => [.closeBracket]
  | item :: items => .comma :: (item.tokens ++ laterItemTokens items)

/-- The tokens of the members after the first one, and the closing brace. -/
def laterMemberTokens : List (String × Json) → List Token
  | [] => [.closeBrace]
  | (key, value) :: members =>
    .comma :: .string (.ok key) :: .colon :: (value.tokens ++ laterMemberTokens members)

end

/-- What a written token is followed by, with nothing between. -/
theorem Laid.next {token : Token} {tokens : List Token} {part rest : List Char}
    (written : token.Written part) (later : Laid tokens rest) :
    Laid (token :: tokens) (part ++ rest) :=
  .cons (show ∀ char ∈ [], isBlank char = true from nofun) written later

/-- A token of one character. -/
theorem Laid.sign {token : Token} {tokens : List Token} {char : Char} {rest : List Char}
    (written : token.Written [char]) (later : Laid tokens rest) :
    Laid (token :: tokens) (char :: rest) :=
  .next written later

/-- A member starts with its key and a colon. -/
theorem Laid.key {tokens : List Token} {rest : List Char} (name : String)
    (later : Laid tokens rest) :
    Laid (.string (.ok name) :: .colon :: tokens) (stringChars name ++ ':' :: rest) :=
  .next (.string (writtenChars_stringBody name.toList)) (.sign .colon later)

mutual

/-- A written value is laid out as its tokens, in front of whatever follows. -/
theorem laid_chars (value : Json) (exact : value.Exact) {tokens : List Token} {rest : List Char}
    (later : Laid tokens rest) : Laid (value.tokens ++ tokens) (value.chars ++ rest) := by
  match value with
  | null => exact .next .null later
  | boolean true => exact .next .yes later
  | boolean false => exact .next .no later
  | number (.integer whole) =>
    have written := Token.Written.number (written_integerChars whole.value)
    rw [reading_wholeNumeral] at written
    exact .next written later
  | number (.real _) => cases exact
  | string text => exact .next (.string (writtenChars_stringBody text.toList)) later
  | array [] =>
    rw [chars]
    exact .sign .openBracket (.sign .closeBracket later)
  | array (item :: items) =>
    rw [chars, List.append_assoc, Json.tokens, List.cons_append, List.append_assoc]
    exact .sign .openBracket (laid_chars item exact.1 (laid_laterItems items exact.2 later))
  | object [] =>
    rw [chars]
    exact .sign .openBrace (.sign .closeBrace later)
  | object ((key, value) :: members) =>
    rw [chars, Json.tokens]
    simp only [List.append_assoc, List.cons_append]
    exact .sign .openBrace
      (.key key (laid_chars value exact.1 (laid_laterMembers members exact.2 later)))

theorem laid_laterItems (items : List Json) (exact : ExactItems items) {tokens : List Token}
    {rest : List Char} (later : Laid tokens rest) :
    Laid (laterItemTokens items ++ tokens) (laterItems items ++ rest) := by
  match items with
  | [] => exact .sign .closeBracket later
  | item :: items =>
    rw [laterItems, List.append_assoc, laterItemTokens, List.cons_append, List.append_assoc]
    exact .sign .comma (laid_chars item exact.1 (laid_laterItems items exact.2 later))

theorem laid_laterMembers (members : List (String × Json)) (exact : ExactMembers members)
    {tokens : List Token} {rest : List Char} (later : Laid tokens rest) :
    Laid (laterMemberTokens members ++ tokens) (laterMembers members ++ rest) := by
  match members with
  | [] => exact .sign .closeBrace later
  | (key, value) :: members =>
    rw [laterMembers, laterMemberTokens]
    simp only [List.append_assoc, List.cons_append]
    exact .sign .comma
      (.key key (laid_chars value exact.1 (laid_laterMembers members exact.2 later)))

end

end PartitionLedger.Json
