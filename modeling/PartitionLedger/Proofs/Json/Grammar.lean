/-
# The grammar of texts

A text is laid out as tokens with blanks around them. A token may be written in several ways:
a character of a string may stand for itself or be escaped, and a number has a sign, a whole
part, a fraction and an exponent. Whatever way is chosen, the text falls into these tokens
again. A number needs something behind it that ends it, and in a document a comma or a closing
token always stands there.
-/

import Mathlib.Tactic.SplitIfs
import PartitionLedger.Json.Document

namespace PartitionLedger.Json

/-! ### Strings -/

/-- A character of a string may stand for itself, have a short escape, or be given by its code,
which takes two escapes beyond 0xFFFF. -/
inductive WrittenChar : Char → List Char → Prop
  | plain {char : Char} (noQuote : char ≠ '"') (noEscape : char ≠ '\\')
      (printable : ¬ char.toNat < 0x20) : WrittenChar char [char]
  | short {letter char : Char} (known : shortEscape? letter = some char) :
      WrittenChar char ['\\', letter]
  | code {char first second third fourth : Char}
      (known : hexUnit? first second third fourth = some char.toNat) :
      WrittenChar char ['\\', 'u', first, second, third, fourth]
  | pair {char first second third fourth fifth sixth seventh eighth : Char} {lead trail : Nat}
      (leads : hexUnit? first second third fourth = some lead)
      (trails : hexUnit? fifth sixth seventh eighth = some trail)
      (high : 0xD800 ≤ lead ∧ lead ≤ 0xDBFF) (low : 0xDC00 ≤ trail ∧ trail ≤ 0xDFFF)
      (value : char.toNat = 0x10000 + (lead - 0xD800) * 0x400 + (trail - 0xDC00)) :
      WrittenChar char ['\\', 'u', first, second, third, fourth,
        '\\', 'u', fifth, sixth, seventh, eighth]

/-- What stands between the quotes of a string of characters. -/
inductive WrittenChars : List Char → List Char → Prop
  | nil : WrittenChars [] []
  | cons {char : Char} {part chars body : List Char} (first : WrittenChar char part)
      (later : WrittenChars chars body) : WrittenChars (char :: chars) (part ++ body)

/-- What stands between the quotes of any string, also of one whose escapes denote half of a
surrogate pair, so that it can only be skipped. -/
inductive WrittenPieces : List Piece → List Char → Prop
  | nil : WrittenPieces [] []
  | plain {char : Char} {pieces : List Piece} {body : List Char} (noQuote : char ≠ '"')
      (noEscape : char ≠ '\\') (printable : ¬ char.toNat < 0x20)
      (later : WrittenPieces pieces body) : WrittenPieces (.plain char :: pieces) (char :: body)
  | short {letter char : Char} {pieces : List Piece} {body : List Char}
      (known : shortEscape? letter = some char) (later : WrittenPieces pieces body) :
      WrittenPieces (.plain char :: pieces) ('\\' :: letter :: body)
  | unit {first second third fourth : Char} {value : Nat} {pieces : List Piece} {body : List Char}
      (known : hexUnit? first second third fourth = some value)
      (later : WrittenPieces pieces body) :
      WrittenPieces (.unit value :: pieces)
        ('\\' :: 'u' :: first :: second :: third :: fourth :: body)

theorem scanString_short {letter meant : Char} (known : shortEscape? letter = some meant)
    (rest : List Char) :
    scanString ('\\' :: letter :: rest) = (scanString rest).prepend (.plain meant) := by
  have notUnit : letter ≠ 'u' := by
    rintro rfl
    cases known
  rw [scanString]
  · rw [if_neg (by decide), if_pos rfl, if_neg notUnit, known]
  · intro _ _ _ _ _ unit
    exact absurd unit notUnit

theorem scanString_unit {first second third fourth : Char} {value : Nat}
    (known : hexUnit? first second third fourth = some value) (rest : List Char) :
    scanString ('\\' :: 'u' :: first :: second :: third :: fourth :: rest) =
      (scanString rest).prepend (.unit value) := by
  rw [scanString, if_neg (by decide), if_pos rfl, known]

theorem scanString_plain {char : Char} (noQuote : char ≠ '"') (noEscape : char ≠ '\\')
    (printable : ¬ char.toNat < 0x20) (rest : List Char) :
    scanString (char :: rest) = (scanString rest).prepend (.plain char) := by
  rw [scanString.eq_def]
  simp only [if_neg noQuote, if_neg noEscape, if_neg printable]

theorem scanString_writtenPieces {pieces : List Piece} {body : List Char}
    (written : WrittenPieces pieces body) (rest : List Char) :
    scanString (body ++ '"' :: rest) = ⟨pieces, .ok rest⟩ := by
  induction written with
  | nil =>
    rw [List.nil_append, scanString.eq_def]
    rfl
  | plain noQuote noEscape printable _ ih =>
    rw [List.cons_append, scanString_plain noQuote noEscape printable, ih]
    rfl
  | short known _ ih =>
    rw [List.cons_append, List.cons_append, scanString_short known, ih]
    rfl
  | unit known _ ih =>
    simp only [List.cons_append]
    rw [scanString_unit known, ih]
    rfl

/-- The piece gives a character of its own, whatever pieces come after it. -/
def Piece.Gives (piece : Piece) (char : Char) : Prop :=
  ∀ unclosed pieces,
    joinPieces unclosed (piece :: pieces) = (joinPieces unclosed pieces).map (char :: ·)

theorem Piece.plain_gives (char : Char) : (plain char).Gives char := by
  intro unclosed pieces
  rw [joinPieces]
  rfl

/-- A unit that is the code of a character gives the character: it is no half of a surrogate
pair. -/
theorem Piece.code_gives (char : Char) : (Piece.unit char.toNat).Gives char := by
  intro unclosed pieces
  have valid : char.toNat < 0xD800 ∨ 0xDFFF < char.toNat := by
    rcases char.valid with below | above
    · exact .inl below
    · exact .inr above.1
  have notTrail : isTrailUnit char.toNat = false := by simp [isTrailUnit]; omega
  have notLead : isLeadUnit char.toNat = false := by simp [isLeadUnit]; omega
  rw [joinPieces.eq_def]
  simp only [notTrail, notLead, Bool.false_eq_true, if_false, Char.ofNat_toNat]
  rfl

theorem joinPieces_pair {char : Char} {lead trail : Nat} (high : 0xD800 ≤ lead ∧ lead ≤ 0xDBFF)
    (low : 0xDC00 ≤ trail ∧ trail ≤ 0xDFFF)
    (value : char.toNat = 0x10000 + (lead - 0xD800) * 0x400 + (trail - 0xDC00))
    (unclosed : Option Fault) (pieces : List Piece) :
    joinPieces unclosed (.unit lead :: .unit trail :: pieces) =
      (joinPieces unclosed pieces).map (char :: ·) := by
  have notTrail : isTrailUnit lead = false := by simp [isTrailUnit]; omega
  have isLead : isLeadUnit lead = true := by simp [isLeadUnit]; omega
  have isTrail : isTrailUnit trail = true := by simp [isTrailUnit]; omega
  have meant : pairChar lead trail = char := by rw [pairChar, ← value, Char.ofNat_toNat]
  rw [joinPieces.eq_def]
  simp only [notTrail, isLead, isTrail, meant, Bool.false_eq_true, if_false, if_true]
  rfl

/-- A string of characters is made of pieces that give them back. -/
theorem exists_pieces_of_writtenChars {chars body : List Char} (written : WrittenChars chars body) :
    ∃ pieces, WrittenPieces pieces body ∧ joinPieces none pieces = .ok chars := by
  induction written with
  | nil => exact ⟨[], .nil, by rw [joinPieces]⟩
  | cons first _ ih =>
    obtain ⟨pieces, written, joined⟩ := ih
    cases first with
    | plain noQuote noEscape printable =>
      refine ⟨_, .plain noQuote noEscape printable written, ?_⟩
      rw [Piece.plain_gives, joined]
      rfl
    | short known =>
      refine ⟨_, .short known written, ?_⟩
      rw [Piece.plain_gives, joined]
      rfl
    | code known =>
      refine ⟨_, .unit known written, ?_⟩
      rw [Piece.code_gives, joined]
      rfl
    | pair leads trails high low value =>
      refine ⟨_, .unit leads (.unit trails written), ?_⟩
      rw [joinPieces_pair high low value, joined]
      rfl

/-! ### Numbers -/

/-- One or more digits. -/
def Digits (digits : List Char) : Prop := digits ≠ [] ∧ ∀ digit ∈ digits, digit.isDigit = true

/-- The whole part has no leading zero, unless it is zero. -/
def WholePart (digits : List Char) : Prop :=
  Digits digits ∧ (digits.head? = some '0' → digits.length = 1)

/-- The fraction, if there is one, follows a point. -/
inductive WrittenFraction : Option (List Char) → List Char → Prop
  | absent : WrittenFraction none []
  | present {digits : List Char} (digit : Digits digits) :
      WrittenFraction (some digits) ('.' :: digits)

/-- The sign of an exponent; a plus may be left out. -/
inductive WrittenSign : Bool → List Char → Prop
  | omitted : WrittenSign false []
  | plus : WrittenSign false ['+']
  | minus : WrittenSign true ['-']

/-- The exponent, if there is one, follows a mark. -/
inductive WrittenExponent : Option (Bool × List Char) → List Char → Prop
  | absent : WrittenExponent none []
  | present {mark : Char} {negative : Bool} {sign digits : List Char}
      (marks : mark = 'e' ∨ mark = 'E') (signed : WrittenSign negative sign)
      (digit : Digits digits) :
      WrittenExponent (some (negative, digits)) (mark :: (sign ++ digits))

/-- A number has a minus sign if it is negative, a whole part, and perhaps a fraction and an
exponent. -/
inductive Numeral.Written : Numeral → List Char → Prop
  | parts {negative : Bool} {whole fractionPart exponentPart : List Char}
      {fraction : Option (List Char)} {exponent : Option (Bool × List Char)}
      (digits : WholePart whole) (fractional : WrittenFraction fraction fractionPart)
      (exponential : WrittenExponent exponent exponentPart) :
      Written ⟨negative, whole, fraction.getD [], exponent, fraction.isNone && exponent.isNone⟩
        ((if negative then ['-'] else []) ++ (whole ++ (fractionPart ++ exponentPart)))

/-- No number goes on here. -/
def EndsNumber (rest : List Char) : Prop :=
  ∀ char ∈ rest.head?, char.isDigit = false ∧ char ≠ '.' ∧ char ≠ 'e' ∧ char ≠ 'E'

theorem spanDigits_of_stop {digits rest : List Char}
    (every : ∀ char ∈ digits, char.isDigit = true)
    (stop : ∀ char ∈ rest.head?, char.isDigit = false) :
    spanDigits (digits ++ rest) = (digits, rest) := by
  have stops : rest.takeWhile Char.isDigit = [] ∧ rest.dropWhile Char.isDigit = rest := by
    cases rest with
    | nil => exact ⟨rfl, rfl⟩
    | cons char later =>
      have noDigit : ¬ char.isDigit = true := by simp [stop char rfl]
      exact ⟨List.takeWhile_cons_of_neg noDigit, List.dropWhile_cons_of_neg noDigit⟩
  rw [spanDigits, List.takeWhile_append_of_pos every, stops.1, List.append_nil,
    List.dropWhile_append_of_pos every, stops.2]

theorem scanWhole_written {whole rest : List Char} (digits : WholePart whole)
    (stop : ∀ char ∈ rest.head?, char.isDigit = false) :
    scanWhole (whole ++ rest) = .ok (whole, rest) := by
  obtain ⟨⟨nonempty, every⟩, zero⟩ := digits
  have leading : ¬ (whole.head? = some '0' ∧ 1 < whole.length) := by
    rintro ⟨first, long⟩
    exact absurd (zero first) (Nat.ne_of_gt long)
  rw [scanWhole, spanDigits_of_stop every stop]
  simp only [List.isEmpty_iff, if_neg nonempty, if_neg leading]

theorem scanFraction_written {fraction : Option (List Char)} {part rest : List Char}
    (written : WrittenFraction fraction part)
    (stop : ∀ char ∈ rest.head?, char.isDigit = false ∧ char ≠ '.') :
    scanFraction (part ++ rest) = .ok (fraction, rest) := by
  cases written with
  | absent =>
    cases rest with
    | nil => rfl
    | cons char later => exact if_neg (stop char rfl).2
  | present digit =>
    obtain ⟨nonempty, every⟩ := digit
    rw [List.cons_append, scanFraction, if_pos rfl,
      spanDigits_of_stop every fun char first => (stop char first).1]
    simp only [List.isEmpty_iff, if_neg nonempty]

/-- A number without a sign starts with a digit. -/
theorem splitSign_of_digits (plusAllowed : Bool) {digits : List Char} (digit : Digits digits)
    (rest : List Char) : splitSign plusAllowed (digits ++ rest) = (false, digits ++ rest) := by
  obtain ⟨nonempty, every⟩ := digit
  obtain ⟨first, later, rfl⟩ := List.exists_cons_of_ne_nil nonempty
  have isDigit := every first List.mem_cons_self
  have noMinus : first ≠ '-' := by
    rintro rfl
    cases isDigit
  have noPlus : first ≠ '+' := by
    rintro rfl
    cases isDigit
  rw [List.cons_append, splitSign, if_neg noMinus, if_neg fun plus => noPlus plus.1]

theorem splitSign_written {negative : Bool} {sign digits : List Char}
    (signed : WrittenSign negative sign) (digit : Digits digits) (rest : List Char) :
    splitSign true (sign ++ (digits ++ rest)) = (negative, digits ++ rest) := by
  cases signed with
  | omitted => exact splitSign_of_digits true digit rest
  | plus => rfl
  | minus => rfl

theorem scanExponent_written {exponent : Option (Bool × List Char)} {part rest : List Char}
    (written : WrittenExponent exponent part) (ends : EndsNumber rest) :
    scanExponent (part ++ rest) = .ok (exponent, rest) := by
  cases written with
  | absent =>
    cases rest with
    | nil => rfl
    | cons char later =>
      obtain ⟨_, _, lower, upper⟩ := ends char rfl
      exact if_neg (not_or_intro lower upper)
  | present marks signed digit =>
    have span := spanDigits_of_stop digit.2 fun char first => (ends char first).1
    rw [List.cons_append, List.append_assoc, scanExponent, if_pos marks,
      splitSign_written signed digit]
    simp only [span, List.isEmpty_iff, if_neg digit.1]

/-- Neither digits nor a fraction go on where an exponent may stand. -/
theorem stop_of_writtenExponent {exponent : Option (Bool × List Char)} {part rest : List Char}
    (written : WrittenExponent exponent part) (ends : EndsNumber rest) :
    ∀ char ∈ (part ++ rest).head?, char.isDigit = false ∧ char ≠ '.' := by
  cases written with
  | absent =>
    intro char first
    exact ⟨(ends char first).1, (ends char first).2.1⟩
  | present marks _ _ =>
    rintro char ⟨⟩
    rcases marks with rfl | rfl <;> decide

theorem stop_of_writtenFraction {fraction : Option (List Char)} {part rest : List Char}
    (written : WrittenFraction fraction part)
    (stop : ∀ char ∈ rest.head?, char.isDigit = false ∧ char ≠ '.') :
    ∀ char ∈ (part ++ rest).head?, char.isDigit = false := by
  cases written with
  | absent => exact fun char first => (stop char first).1
  | present _ =>
    rintro char ⟨⟩
    decide

theorem scanNumber_written {numeral : Numeral} {part rest : List Char}
    (written : numeral.Written part) (ends : EndsNumber rest) :
    scanNumber (part ++ rest) = .ok (numeral, rest) := by
  cases written with
  | @parts negative whole fractionPart exponentPart _ _ digits fractional exponential =>
    have stopExponent := stop_of_writtenExponent exponential ends
    have stopFraction := stop_of_writtenFraction fractional stopExponent
    have signed : splitSign false ((if negative then ['-'] else []) ++
        (whole ++ (fractionPart ++ (exponentPart ++ rest)))) =
          (negative, whole ++ (fractionPart ++ (exponentPart ++ rest))) := by
      cases negative with
      | true => rfl
      | false => exact splitSign_of_digits false digits.1 _
    rw [List.append_assoc, List.append_assoc, List.append_assoc, scanNumber, signed]
    simp only [scanWhole_written digits stopFraction, scanFraction_written fractional stopExponent,
      scanExponent_written exponential ends]

/-- A number starts with a sign or a digit. -/
theorem Numeral.Written.exists_cons {numeral : Numeral} {part : List Char}
    (written : numeral.Written part) :
    ∃ first later, part = first :: later ∧ (first = '-' ∨ first.isDigit = true) := by
  cases written with
  | @parts negative whole _ _ _ _ digits _ _ =>
    cases negative with
    | true => exact ⟨'-', _, rfl, .inl rfl⟩
    | false =>
      obtain ⟨⟨nonempty, every⟩, -⟩ := digits
      obtain ⟨first, later, rfl⟩ := List.exists_cons_of_ne_nil nonempty
      exact ⟨first, _, rfl, .inr (every first List.mem_cons_self)⟩

/-! ### Tokens -/

/-- A token as it may be written. -/
inductive Token.Written : Token → List Char → Prop
  | openBracket : Written .openBracket ['[']
  | closeBracket : Written .closeBracket [']']
  | openBrace : Written .openBrace ['{']
  | closeBrace : Written .closeBrace ['}']
  | comma : Written .comma [',']
  | colon : Written .colon [':']
  | null : Written .null ['n', 'u', 'l', 'l']
  | yes : Written (.boolean true) ['t', 'r', 'u', 'e']
  | no : Written (.boolean false) ['f', 'a', 'l', 's', 'e']
  | number {numeral : Numeral} {part : List Char} (written : numeral.Written part) :
      Written (.number numeral.reading) part
  | string {text : String} {body : List Char} (written : WrittenChars text.toList body) :
      Written (.string (.ok text)) ('"' :: (body ++ ['"']))
  | pieces {pieces : List Piece} {body : List Char} (written : WrittenPieces pieces body) :
      Written (.string ((joinPieces none pieces).map String.ofList)) ('"' :: (body ++ ['"']))

/-- The token is a number, so that what stands behind it must not extend it. -/
def Token.IsNumber : Token → Prop
  | .number _ => True
  | _ => False

theorem lex_punctuation {char : Char} {token : Token} (known : punctuation? char = some token)
    (solid : isBlank char = false) (rest : List Char) : lex (char :: rest) = token :: lex rest := by
  rw [lex, solid, known]
  rfl

theorem scanWord_append (expected rest : List Char) :
    scanWord expected (expected ++ rest) = .ok rest := by
  induction expected with
  | nil => rw [List.nil_append, scanWord]
  | cons letter expected ih => rw [List.cons_append, scanWord, if_pos rfl, ih]

theorem lex_word {char : Char} {expected : List Char} {token : Token}
    (known : word? char = some (expected, token)) (solid : isBlank char = false)
    (noPunctuation : punctuation? char = none) (rest : List Char) :
    lex (char :: (expected ++ rest)) = token :: lex rest := by
  rw [lex, solid, noPunctuation, known]
  simp only [Bool.false_eq_true, if_false]
  split
  · rename_i after found
    rw [scanWord_append] at found
    cases found
    rfl
  · rename_i fault found
    rw [scanWord_append] at found
    cases found

/-- Neither a sign nor a digit is a blank or starts another token. -/
theorem solid_of_sign_or_digit {char : Char} (starts : char = '-' ∨ char.isDigit = true) :
    isBlank char = false ∧ punctuation? char = none ∧ word? char = none ∧ char ≠ '"' := by
  -- Sign and digits are among the first 58 characters, which are looked at one by one.
  have every : ∀ code ∈ List.range 58,
      Char.ofNat code = '-' ∨ (Char.ofNat code).isDigit = true →
        isBlank (Char.ofNat code) = false ∧ (punctuation? (Char.ofNat code)).isNone = true ∧
          (word? (Char.ofNat code)).isNone = true ∧ Char.ofNat code ≠ '"' := by
    decide
  have small : char.toNat < 58 := by
    rcases starts with rfl | digit
    · decide
    · simp only [Char.isDigit, Bool.and_eq_true, decide_eq_true_eq, UInt32.le_iff_toNat_le] at digit
      exact Nat.lt_succ_of_le digit.2
  have this := every char.toNat (List.mem_range.mpr small)
  rw [Char.ofNat_toNat] at this
  simpa only [Option.isNone_iff_eq_none] using this starts

theorem lex_writtenPieces {pieces : List Piece} {body : List Char}
    (written : WrittenPieces pieces body) (rest : List Char) :
    lex ('"' :: (body ++ '"' :: rest)) =
      .string ((joinPieces none pieces).map String.ofList) :: lex rest := by
  have scanned := scanString_writtenPieces written rest
  rw [lex]
  simp only [show isBlank '"' = false from rfl, show punctuation? '"' = none from rfl,
    show word? '"' = none from rfl, Bool.false_eq_true, if_false, if_true]
  split
  · rename_i after found
    rw [scanned] at found
    cases found
    rw [scanned]
  · rename_i fault found
    rw [scanned] at found
    cases found

theorem lex_numeral {numeral : Numeral} {part rest : List Char} (written : numeral.Written part)
    (ends : EndsNumber rest) : lex (part ++ rest) = .number numeral.reading :: lex rest := by
  have scanned := scanNumber_written written ends
  obtain ⟨first, later, rfl, starts⟩ := written.exists_cons
  obtain ⟨solid, noPunctuation, noWord, noQuote⟩ := solid_of_sign_or_digit starts
  rw [List.cons_append] at scanned ⊢
  rw [lex]
  simp only [solid, noPunctuation, noWord, Bool.false_eq_true, if_false, if_neg noQuote,
    if_pos starts]
  split
  · rename_i numeral after found
    cases found.symm.trans scanned
    rfl
  · rename_i reading skipping found
    cases found.symm.trans scanned

/-- A written token is the next token of the text. -/
theorem lex_written {token : Token} {part rest : List Char} (written : token.Written part)
    (ends : token.IsNumber → EndsNumber rest) : lex (part ++ rest) = token :: lex rest := by
  cases written with
  | openBracket | closeBracket | openBrace | closeBrace | comma | colon =>
    exact lex_punctuation rfl rfl rest
  | null | yes | no => exact lex_word rfl rfl rfl rest
  | number written => exact lex_numeral written (ends trivial)
  | string written =>
    obtain ⟨pieces, written, joined⟩ := exists_pieces_of_writtenChars written
    have lexed := lex_writtenPieces written rest
    rw [joined, Except.map, String.ofList_toList] at lexed
    rw [List.cons_append, List.append_assoc]
    exact lexed
  | pieces written =>
    rw [List.cons_append, List.append_assoc]
    exact lex_writtenPieces written rest

/-! ### Texts -/

/-- A text of these tokens, with any blanks in front of each and at the end. -/
inductive Laid : List Token → List Char → Prop
  | nil {blanks : List Char} (blank : ∀ char ∈ blanks, isBlank char = true) : Laid [] blanks
  | cons {token : Token} {tokens : List Token} {blanks part rest : List Char}
      (blank : ∀ char ∈ blanks, isBlank char = true) (written : token.Written part)
      (later : Laid tokens rest) : Laid (token :: tokens) (blanks ++ (part ++ rest))

/-- Tokens that may follow a number. -/
def Token.Separates : Token → Prop
  | .comma | .closeBracket | .closeBrace => True
  | _ => False

/-- Behind a number stands a comma or a closing token, or nothing. -/
def NumbersEnd : List Token → Prop
  | [] => True
  | token :: tokens =>
    (token.IsNumber → ∀ next ∈ tokens.head?, next.Separates) ∧ NumbersEnd tokens

theorem lex_blanks {blanks : List Char} (blank : ∀ char ∈ blanks, isBlank char = true)
    (rest : List Char) : lex (blanks ++ rest) = lex rest := by
  induction blanks with
  | nil => rfl
  | cons char blanks ih =>
    obtain ⟨first, later⟩ := List.forall_mem_cons.mp blank
    rw [List.cons_append, lex, if_pos first, ih later]

/-- Blanks end a number. -/
theorem endsNumber_of_isBlank {char : Char} (blank : isBlank char = true) (rest : List Char) :
    EndsNumber (char :: rest) := by
  rintro _ ⟨⟩
  simp only [isBlank, Bool.or_eq_true, decide_eq_true_eq] at blank
  rcases blank with ((rfl | rfl) | rfl) | rfl <;> decide

theorem endsNumber_of_laid {tokens : List Token} {rest : List Char} (laid : Laid tokens rest)
    (separates : ∀ next ∈ tokens.head?, next.Separates) : EndsNumber rest := by
  cases laid with
  | nil blank =>
    cases rest with
    | nil => exact nofun
    | cons char blanks => exact endsNumber_of_isBlank (blank char List.mem_cons_self) blanks
  | @cons token _ blanks _ _ blank written _ =>
    cases blanks with
    | cons char blanks => exact endsNumber_of_isBlank (blank char List.mem_cons_self) _
    | nil =>
      have separate := separates token rfl
      cases written with
      | comma | closeBracket | closeBrace =>
        rintro _ ⟨⟩
        decide
      | openBracket | openBrace | colon | null | yes | no | number | string | pieces =>
        cases separate

/-- A text that is laid out as tokens falls into them. -/
theorem lex_of_laid {tokens : List Token} {chars : List Char} (laid : Laid tokens chars)
    (ends : NumbersEnd tokens) : lex chars = tokens := by
  induction laid with
  | @nil blanks blank =>
    have only := lex_blanks blank []
    rw [List.append_nil] at only
    rw [only, lex]
  | cons blank written later ih =>
    rw [lex_blanks blank,
      lex_written written fun number => endsNumber_of_laid later (ends.1 number), ih ends.2]

end PartitionLedger.Json
