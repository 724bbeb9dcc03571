/-
# JSON tokens

A text falls into punctuation, the words `null`, `true` and `false`, numbers and
strings, with blanks between them. Where it stops doing so, a last token says
what is wrong. A value that nobody asked for is only skipped, and skipping is
more lenient than reading: a number may be too large and a string may hold half
of a surrogate pair. So a number or a string is a token as soon as it can be
skipped, and carries what reading it would give.
-/

import PartitionLedger.Text.Bytes
import PartitionLedger.Text.Hexadecimal
import PartitionLedger.Json.Value

namespace PartitionLedger.Json

/-- Why a text is no JSON: it goes wrong at some character, or ends too early. -/
inductive Fault where
  | malformed
  | truncated
  deriving DecidableEq, Repr

/-- One token of a text. -/
inductive Token where
  | openBracket
  | closeBracket
  | openBrace
  | closeBrace
  | comma
  | colon
  | null
  | boolean (flag : Bool)
  | number (reading : Except Fault Number)
  | string (reading : Except Fault String)
  /-- The text cannot go on here; one fault for readers and one for skippers. -/
  | broken (reading : Fault) (skipping : Fault)
  /-- A string that is not closed, which ends the tokens too. -/
  | brokenString (reading : Fault) (skipping : Fault)

/-- Blanks separate tokens. -/
def isBlank (char : Char) : Bool :=
  char = ' ' || char = '\n' || char = '\t' || char = '\r'

/-- Tokens of one character. -/
def punctuation? (char : Char) : Option Token :=
  if char = '[' then some .openBracket
  else if char = ']' then some .closeBracket
  else if char = '{' then some .openBrace
  else if char = '}' then some .closeBrace
  else if char = ',' then some .comma
  else if char = ':' then some .colon
  else none

/-! ### Words -/

/-- What must follow the first letter of a word, and the token of the word. -/
def word? (char : Char) : Option (List Char × Token) :=
  if char = 'n' then some (['u', 'l', 'l'], .null)
  else if char = 't' then some (['r', 'u', 'e'], .boolean true)
  else if char = 'f' then some (['a', 'l', 's', 'e'], .boolean false)
  else none

/-- Take the expected characters from the front of a text. -/
def scanWord : (expected chars : List Char) → Except Fault (List Char)
  | [], chars => .ok chars
  | _ :: _, [] => .error .truncated
  | letter :: expected, char :: chars =>
    if letter = char then scanWord expected chars else .error .malformed

/-! ### Strings -/

/-- A part of a string: a character, or a 16-bit unit given by an escape. -/
inductive Piece where
  | plain (char : Char)
  | unit (value : Nat)
  deriving DecidableEq, Repr

/-- The character of a short escape. -/
def shortEscape? (char : Char) : Option Char :=
  if char = '"' then some '"'
  else if char = '\\' then some '\\'
  else if char = '/' then some '/'
  else if char = 'b' then some '\x08'
  else if char = 'f' then some '\x0c'
  else if char = 'n' then some '\n'
  else if char = 'r' then some '\r'
  else if char = 't' then some '\t'
  else none

/-- The unit that four hexadecimal digits denote. -/
def hexUnit? (first second third fourth : Char) : Option Nat := do
  let first ← Text.hexDigit? first
  let second ← Text.hexDigit? second
  let third ← Text.hexDigit? third
  let fourth ← Text.hexDigit? fourth
  return ((first * 16 + second) * 16 + third) * 16 + fourth

/-- The pieces of a string up to its closing quote, and the text after the quote
or the fault that keeps the string from being closed. -/
structure ScannedString where
  pieces : List Piece
  ending : Except Fault (List Char)

/-- Put one more piece in front of a scanned string. -/
def ScannedString.prepend (piece : Piece) (scanned : ScannedString) : ScannedString :=
  { scanned with pieces := piece :: scanned.pieces }

/-- Cut a string into pieces. An escape whose four digits are not all there,
counted in bytes, is cut off by the end of the text. -/
def scanString : List Char → ScannedString
  | [] => ⟨[], .error .truncated⟩
  | char :: rest =>
    if char = '"' then ⟨[], .ok rest⟩
    else if char = '\\' then
      match rest with
      | [] => ⟨[], .error .truncated⟩
      | 'u' :: first :: second :: third :: fourth :: rest =>
        match hexUnit? first second third fourth with
        | none => ⟨[], .error .malformed⟩
        | some value => (scanString rest).prepend (.unit value)
      | letter :: rest =>
        if letter = 'u' then
          ⟨[], .error (if Text.byteLength rest < 4 then .truncated else .malformed)⟩
        else match shortEscape? letter with
          | none => ⟨[], .error .malformed⟩
          | some meant => (scanString rest).prepend (.plain meant)
    else if char.toNat < 0x20 then ⟨[], .error .malformed⟩
    else (scanString rest).prepend (.plain char)

/-- The unit opens a surrogate pair. -/
def isLeadUnit (value : Nat) : Bool := 0xD800 ≤ value && value ≤ 0xDBFF

/-- The unit closes a surrogate pair. -/
def isTrailUnit (value : Nat) : Bool := 0xDC00 ≤ value && value ≤ 0xDFFF

/-- The character that a surrogate pair stands for. -/
def pairChar (lead trail : Nat) : Char :=
  Char.ofNat (0x10000 + (lead - 0xD800) * 0x400 + (trail - 0xDC00))

/-- Read the characters of a string from its pieces. Surrogates must come in
pairs. A string that is not closed has the fault that comes first. -/
def joinPieces (unclosed : Option Fault) : List Piece → Except Fault (List Char)
  | [] =>
    match unclosed with
    | none => .ok []
    | some fault => .error fault
  | .plain char :: pieces => do
    let chars ← joinPieces unclosed pieces
    return char :: chars
  | .unit value :: pieces =>
    if isTrailUnit value then .error .malformed
    else if isLeadUnit value then
      match pieces with
      | [] => .error (unclosed.getD .malformed)
      | .unit trail :: pieces =>
        if isTrailUnit trail then do
          let chars ← joinPieces unclosed pieces
          return pairChar value trail :: chars
        else .error .malformed
      | .plain _ :: _ => .error .malformed
    else do
      let chars ← joinPieces unclosed pieces
      return Char.ofNat value :: chars

/-! ### Numbers -/

/-- A number as it is spelled: its sign and digits. -/
structure Numeral where
  negative : Bool
  whole : List Char
  fraction : List Char
  /-- Sign and digits of an exponent, if there is one. -/
  exponent : Option (Bool × List Char)
  /-- There is neither a point nor an exponent. -/
  isWhole : Bool
  deriving DecidableEq, Repr

/-- The number that a digit sequence denotes. -/
def digitsValue (digits : List Char) : Nat :=
  digits.foldl (fun value digit => value * 10 + (digit.toNat - '0'.toNat)) 0

/-- Extend a significand by digits as long as it stays below 2^64. Returns it
with the number of digits that found no place. -/
def extendSignificand (significand : Nat) : List Char → Nat × Nat
  | [] => (significand, 0)
  | digit :: digits =>
    let longer := significand * 10 + (digit.toNat - '0'.toNat)
    if longer < UInt64.size then extendSignificand longer digits
    else (significand, (digit :: digits).length)

namespace Numeral

/-- The value of an exponent part; zero if there is none. -/
def exponentValue (numeral : Numeral) : Int :=
  match numeral.exponent with
  | none => 0
  | some (negative, digits) =>
    if negative then -(digitsValue digits : Int) else digitsValue digits

/-- The binary64 reading. Digits that the significand has no place for only
shift the exponent. -/
def real? (numeral : Numeral) : Option Binary64 :=
  let (whole, wholeLeft) := extendSignificand 0 numeral.whole
  let (significand, fractionLeft) := extendSignificand whole numeral.fraction
  let shift : Int := wholeLeft - (numeral.fraction.length - fractionLeft : Nat)
  let unsigned := Binary64.ofDecimal? significand (shift + numeral.exponentValue)
  if numeral.negative then unsigned.map Binary64.negate else unsigned

/-- The exact reading of a whole number that fits into 64 bits. There is no
negative zero among the whole numbers. -/
def integer? (numeral : Numeral) : Option Integer :=
  let value := digitsValue numeral.whole
  if ¬ numeral.isWhole then none
  else if numeral.negative then
    if fits : 0 < value ∧ value ≤ 9223372036854775808 then
      some ⟨-(value : Int), by omega, by omega⟩
    else none
  else if fits : value < UInt64.size then some ⟨value, by omega, Int.ofNat_lt.mpr fits⟩
  else none

/-- The number that a numeral denotes, unless it is too large. -/
def reading (numeral : Numeral) : Except Fault Number :=
  match numeral.integer? with
  | some exact => .ok (.integer exact)
  | none =>
    match numeral.real? with
    | some rounded => .ok (.real rounded)
    | none => .error .malformed

end Numeral

/-- A place where a digit must stand, and none does. A reader is told whether the
text ended; a skipper is not. -/
def missingDigit (rest : List Char) : Fault × Fault :=
  (if rest.isEmpty then .truncated else .malformed, .malformed)

/-- The digits at the front of a text, and the text behind them. -/
def spanDigits (chars : List Char) : List Char × List Char :=
  (chars.takeWhile Char.isDigit, chars.dropWhile Char.isDigit)

/-- Split off a minus sign, or a plus sign where one is allowed. -/
def splitSign (plusAllowed : Bool) (chars : List Char) : Bool × List Char :=
  match chars with
  | [] => (false, [])
  | char :: rest =>
    if char = '-' then (true, rest)
    else if char = '+' ∧ plusAllowed then (false, rest)
    else (false, char :: rest)

/-- The exponent part of a number, if one follows. -/
def scanExponent (chars : List Char) :
    Except (Fault × Fault) (Option (Bool × List Char) × List Char) :=
  match chars with
  | [] => .ok (none, [])
  | char :: rest =>
    if char = 'e' ∨ char = 'E' then
      let signed := splitSign true rest
      let digits := spanDigits signed.2
      if digits.1.isEmpty then .error (missingDigit digits.2)
      else .ok (some (signed.1, digits.1), digits.2)
    else .ok (none, char :: rest)

/-- The digits after a decimal point, if a point follows. -/
def scanFraction (chars : List Char) : Except (Fault × Fault) (Option (List Char) × List Char) :=
  match chars with
  | [] => .ok (none, [])
  | char :: rest =>
    if char = '.' then
      let digits := spanDigits rest
      if digits.1.isEmpty then .error (missingDigit digits.2) else .ok (some digits.1, digits.2)
    else .ok (none, char :: rest)

/-- The whole part of a number. A whole part of several digits must not start
with zero. -/
def scanWhole (chars : List Char) : Except (Fault × Fault) (List Char × List Char) :=
  let digits := spanDigits chars
  if digits.1.isEmpty then .error (missingDigit digits.2)
  else if digits.1.head? = some '0' ∧ 1 < digits.1.length then .error (.malformed, .malformed)
  else .ok digits

/-- The number at the front of a text that starts with a sign or a digit. -/
def scanNumber (chars : List Char) : Except (Fault × Fault) (Numeral × List Char) :=
  let signed := splitSign false chars
  match scanWhole signed.2 with
  | .error faults => .error faults
  | .ok (whole, afterWhole) =>
    match scanFraction afterWhole with
    | .error faults => .error faults
    | .ok (fraction, afterFraction) =>
      match scanExponent afterFraction with
      | .error faults => .error faults
      | .ok (exponent, rest) =>
        .ok (⟨signed.1, whole, fraction.getD [], exponent, fraction.isNone && exponent.isNone⟩,
          rest)

/-! ### Texts -/

theorem scanWord_length {expected chars rest : List Char}
    (found : scanWord expected chars = .ok rest) :
    rest.length ≤ chars.length := by
  fun_induction scanWord expected chars with
  | case1 => cases found; exact Nat.le_refl _
  | case2 => cases found
  | case3 _ _ _ ih => exact Nat.le_succ_of_le (ih found)
  | case4 => cases found

theorem scanString_length {chars rest : List Char} (found : (scanString chars).ending = .ok rest) :
    rest.length ≤ chars.length := by
  fun_induction scanString chars with
  | case2 =>
    cases found
    exact Nat.le_succ _
  -- The escape of a unit takes six characters, a short escape two, and any other piece one.
  | case5 first second third fourth later value known noQuote ih =>
    exact Nat.le_add_right_of_le (k := 6) (ih found)
  | case8 letter later noUnit notUnit meant known noQuote ih =>
    exact Nat.le_add_right_of_le (k := 2) (ih found)
  | case10 char later noQuote noEscape printable ih => exact Nat.le_succ_of_le (ih found)
  -- Elsewhere the string is not closed.
  | case1 | case3 | case4 | case6 | case7 | case9 => cases found

theorem spanDigits_length (chars : List Char) : (spanDigits chars).2.length ≤ chars.length :=
  (List.dropWhile_suffix _).length_le

theorem splitSign_length (plusAllowed : Bool) (chars : List Char) :
    (splitSign plusAllowed chars).2.length ≤ chars.length := by
  cases chars <;> grind [splitSign]

theorem scanWhole_length {chars whole rest : List Char}
    (found : scanWhole chars = .ok (whole, rest)) :
    whole.length + rest.length ≤ chars.length ∧ 0 < whole.length := by
  have joined : (spanDigits chars).1 ++ (spanDigits chars).2 = chars :=
    List.takeWhile_append_dropWhile
  have lengths := congrArg List.length joined
  rw [List.length_append] at lengths
  grind [scanWhole]

theorem scanFraction_length {chars rest : List Char} {fraction : Option (List Char)}
    (found : scanFraction chars = .ok (fraction, rest)) : rest.length ≤ chars.length := by
  cases chars with
  | nil => cases found; exact Nat.le_refl _
  | cons char later =>
    have tail := spanDigits_length later
    grind [scanFraction]

theorem scanExponent_length {chars rest : List Char} {exponent : Option (Bool × List Char)}
    (found : scanExponent chars = .ok (exponent, rest)) : rest.length ≤ chars.length := by
  cases chars with
  | nil => cases found; exact Nat.le_refl _
  | cons char later =>
    have sign := splitSign_length true later
    have tail := spanDigits_length (splitSign true later).2
    grind [scanExponent]

theorem scanNumber_length {chars rest : List Char} {numeral : Numeral}
    (found : scanNumber chars = .ok (numeral, rest)) : rest.length < chars.length := by
  have sign := splitSign_length false chars
  simp only [scanNumber] at found
  split at found
  · cases found
  · rename_i whole afterWhole wholeFound
    have wholeLength := scanWhole_length wholeFound
    split at found
    · cases found
    · rename_i fraction afterFraction fractionFound
      have fractionLength := scanFraction_length fractionFound
      split at found
      · cases found
      · rename_i exponent afterExponent exponentFound
        have exponentLength := scanExponent_length exponentFound
        cases found
        omega

/-- The tokens of a text. Nothing follows a broken token. -/
def lex (chars : List Char) : List Token :=
  match chars with
  | [] => []
  | char :: rest =>
    if isBlank char then lex rest
    else match punctuation? char with
    | some token => token :: lex rest
    | none =>
      match word? char with
      | some (expected, token) =>
        match _ : scanWord expected rest with
        | .ok after => token :: lex after
        | .error fault => [.broken fault fault]
      | none =>
        if char = '"' then
          match _ : (scanString rest).ending with
          | .ok after =>
            .string ((joinPieces none (scanString rest).pieces).map String.ofList) :: lex after
          | .error fault =>
            match joinPieces (some fault) (scanString rest).pieces with
            | .ok _ => [.brokenString fault fault]
            | .error first => [.brokenString first fault]
        else if char = '-' ∨ char.isDigit then
          match _ : scanNumber (char :: rest) with
          | .ok (numeral, after) => .number numeral.reading :: lex after
          | .error (reading, skipping) => [.broken reading skipping]
        else [.broken .malformed .malformed]
termination_by chars.length
decreasing_by
  · exact Nat.lt_succ_self _
  · exact Nat.lt_succ_self _
  · exact Nat.lt_succ_of_le (scanWord_length ‹_›)
  · exact Nat.lt_succ_of_le (scanString_length ‹_›)
  · exact scanNumber_length ‹_›

end PartitionLedger.Json
