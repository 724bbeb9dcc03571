/-
# Documents laid out as texts

A whole document is laid out as its tokens: items and members with commas between them,
inside brackets and braces. A text that is laid out this way, with any blanks and however its
strings and numbers are written, spells that document and nothing behind it. Building works on
the innermost open array or object first, so that what is shown of one document is shown
inside any others that are open.
-/

import PartitionLedger.Proofs.Json.Grammar

namespace PartitionLedger.Json.Document

/-! ### Tokens -/

mutual

/-- The tokens of a whole document. -/
def tokens : Document → List Token
  | null => [.null]
  | boolean flag => [.boolean flag]
  | number reading => [.number reading]
  | string reading => [.string reading]
  | array [] _ => [.openBracket, .closeBracket]
  | array (item :: items) _ => .openBracket :: (item.tokens ++ laterItemTokens items)
  | object [] _ => [.openBrace, .closeBrace]
  | object ((key, value) :: members) _ =>
    .openBrace :: (key.tokens ++ .colon :: (value.tokens ++ laterMemberTokens members))
  | absent | broken _ _ => []

/-- The tokens of the items after the first one, and the closing bracket. -/
def laterItemTokens : List Document → List Token
  | [] => [.closeBracket]
  | item :: items => .comma :: (item.tokens ++ laterItemTokens items)

/-- The tokens of the members after the first one, and the closing brace. -/
def laterMemberTokens : List (Document × Document) → List Token
  | [] => [.closeBrace]
  | (key, value) :: members =>
    .comma :: (key.tokens ++ .colon :: (value.tokens ++ laterMemberTokens members))

end

/-- The document is a string. -/
def IsString (document : Document) : Prop := ∃ reading, document = string reading

mutual

/-- Nothing is missing or cut off, and all keys are strings. -/
def Whole : Document → Prop
  | null | boolean _ | number _ | string _ => True
  | array items cut => cut = none ∧ WholeItems items
  | object members cut => cut = none ∧ WholeMembers members
  | absent | broken _ _ => False

/-- Every item is whole. -/
def WholeItems : List Document → Prop
  | [] => True
  | item :: items => item.Whole ∧ WholeItems items

/-- Every member is whole. -/
def WholeMembers : List (Document × Document) → Prop
  | [] => True
  | (key, value) :: members => key.IsString ∧ value.Whole ∧ WholeMembers members

end

theorem wholeMembers_iff (members : List (Document × Document)) :
    WholeMembers members ↔ ∀ member ∈ members, member.1.IsString ∧ member.2.Whole := by
  induction members with
  | nil => exact iff_of_true trivial nofun
  | cons member members ih => rw [WholeMembers, ih, List.forall_mem_cons, and_assoc]

/-- A whole document can be skipped, however deeply it is nested. -/
theorem Whole.skip_eq_ok {document : Document} (whole : document.Whole) :
    document.skip = .ok () := by
  cases document with
  | null | boolean | number | string => rfl
  | array items cut | object members cut =>
    obtain ⟨rfl, -⟩ := whole
    rfl
  | absent | broken => cases whole

/-! ### Building -/

/-- An array is entered unless it ends at once, which no document does. -/
theorem build_openBracket (outer : List Open) {document : Document} (whole : document.Whole)
    (rest : List Token) :
    build outer (.openBracket :: (document.tokens ++ rest)) =
      build (.array [] :: outer) (document.tokens ++ rest) := by
  match document with
  | .null | .boolean _ | .number _ | .string _ => rfl
  | .array [] _ | .array (_ :: _) _ | .object [] _ | .object (_ :: _) _ => rfl
  | .absent | .broken _ _ => cases whole

mutual

/-- The tokens of a whole document build it, whatever is open around it. -/
theorem build_tokens (document : Document) (whole : document.Whole) (outer : List Open)
    (rest : List Token) :
    build outer (document.tokens ++ rest) = resume outer document rest := by
  match document with
  | .null | .boolean _ | .number _ | .string _ => rfl
  | .array [] none | .object [] none => rfl
  | .array (item :: items) none =>
    obtain ⟨-, first, later⟩ := whole
    rw [tokens, List.cons_append, List.append_assoc, build_openBracket _ first,
      build_tokens item first, resume_laterItemTokens items later]
    rfl
  | .object ((key, value) :: members) none =>
    obtain ⟨-, ⟨reading, rfl⟩, first, later⟩ := whole
    have entered : ∀ rest, build outer (.openBrace :: .string reading :: .colon :: rest) =
        build (.object [] (string reading) :: outer) rest := fun _ => rfl
    simp only [tokens, List.cons_append, List.nil_append, List.append_assoc]
    rw [entered, build_tokens value first, resume_laterMemberTokens members later]
    rfl
  | .array _ (some _) | .object _ (some _) => cases whole.1
  | .absent | .broken _ _ => cases whole

/-- The tokens of the later items of an open array finish it. -/
theorem resume_laterItemTokens (items : List Document) (whole : WholeItems items)
    (outer : List Open) (before : List Document) (inner : Document) (rest : List Token) :
    resume (.array before :: outer) inner (laterItemTokens items ++ rest) =
      resume outer (.array (before.reverse ++ inner :: items) none) rest := by
  match items with
  | [] => rfl
  | item :: items =>
    rw [laterItemTokens, List.cons_append, List.append_assoc, resume, build_tokens item whole.1,
      resume_laterItemTokens items whole.2, List.reverse_cons, List.append_assoc]
    rfl

theorem resume_laterMemberTokens (members : List (Document × Document))
    (whole : WholeMembers members) (outer : List Open) (before : List (Document × Document))
    (key inner : Document) (rest : List Token) :
    resume (.object before key :: outer) inner (laterMemberTokens members ++ rest) =
      resume outer (.object (before.reverse ++ (key, inner) :: members) none) rest := by
  match members with
  | [] => rfl
  | (name, value) :: members =>
    obtain ⟨⟨reading, rfl⟩, first, later⟩ := whole
    simp only [laterMemberTokens, tokens, List.cons_append, List.nil_append, List.append_assoc]
    rw [resume, buildMember, build_tokens value first, resume_laterMemberTokens members later,
      List.reverse_cons, List.append_assoc]
    rfl

end

/-! ### Numbers inside documents -/

theorem separates_laterItemTokens (items : List Document) (rest : List Token) :
    ∀ next ∈ (laterItemTokens items ++ rest).head?, next.Separates := by
  cases items <;> · rintro _ ⟨⟩; trivial

theorem separates_laterMemberTokens (members : List (Document × Document)) (rest : List Token) :
    ∀ next ∈ (laterMemberTokens members ++ rest).head?, next.Separates := by
  cases members <;> · rintro _ ⟨⟩; trivial

mutual

/-- Inside a document, whatever follows a number ends it. -/
theorem numbersEnd_tokens (document : Document) (whole : document.Whole) {rest : List Token}
    (separates : ∀ next ∈ rest.head?, next.Separates) (ends : NumbersEnd rest) :
    NumbersEnd (document.tokens ++ rest) := by
  match document with
  | .null | .boolean _ | .string _ => exact ⟨nofun, ends⟩
  | .number _ => exact ⟨fun _ => separates, ends⟩
  | .array [] _ | .object [] _ => exact ⟨nofun, nofun, ends⟩
  | .array (item :: items) _ =>
    obtain ⟨-, first, later⟩ := whole
    rw [tokens, List.cons_append, List.append_assoc]
    exact ⟨nofun, numbersEnd_tokens item first (separates_laterItemTokens items rest)
      (numbersEnd_laterItemTokens items later ends)⟩
  | .object ((key, value) :: members) _ =>
    obtain ⟨-, ⟨reading, rfl⟩, first, later⟩ := whole
    simp only [tokens, List.cons_append, List.nil_append, List.append_assoc]
    exact ⟨nofun, nofun, nofun, numbersEnd_tokens value first
      (separates_laterMemberTokens members rest) (numbersEnd_laterMemberTokens members later ends)⟩
  | .absent | .broken _ _ => cases whole

theorem numbersEnd_laterItemTokens (items : List Document) (whole : WholeItems items)
    {rest : List Token} (ends : NumbersEnd rest) : NumbersEnd (laterItemTokens items ++ rest) := by
  match items with
  | [] => exact ⟨nofun, ends⟩
  | item :: items =>
    rw [laterItemTokens, List.cons_append, List.append_assoc]
    exact ⟨nofun, numbersEnd_tokens item whole.1 (separates_laterItemTokens items rest)
      (numbersEnd_laterItemTokens items whole.2 ends)⟩

theorem numbersEnd_laterMemberTokens (members : List (Document × Document))
    (whole : WholeMembers members) {rest : List Token} (ends : NumbersEnd rest) :
    NumbersEnd (laterMemberTokens members ++ rest) := by
  match members with
  | [] => exact ⟨nofun, ends⟩
  | (name, value) :: members =>
    obtain ⟨⟨reading, rfl⟩, first, later⟩ := whole
    simp only [laterMemberTokens, tokens, List.cons_append, List.nil_append, List.append_assoc]
    exact ⟨nofun, nofun, nofun, numbersEnd_tokens value first
      (separates_laterMemberTokens members rest) (numbersEnd_laterMemberTokens members later ends)⟩

end

/-- A text that is laid out as a whole document. -/
def Written (document : Document) (text : String) : Prop :=
  document.Whole ∧ Laid document.tokens text.toList

/-- A text that is laid out as a whole document spells it, and nothing else follows. -/
theorem ofText_of_written {document : Document} {text : String} (written : document.Written text) :
    ofText text = (document, false) := by
  obtain ⟨whole, laid⟩ := written
  have ends : NumbersEnd (document.tokens ++ []) :=
    numbersEnd_tokens document whole (fun _ inside => nomatch inside) trivial
  have built := build_tokens document whole [] []
  rw [List.append_nil] at ends built
  rw [ofText, lex_of_laid laid ends, built]
  rfl

end PartitionLedger.Json.Document
