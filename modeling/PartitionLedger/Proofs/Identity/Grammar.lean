/-
# What is read as an identifier

A text that is no identifier of a kind is at fault in one of five ways, and which one is told
by its shape: whether it is empty, where its first underscore stands, what is in front of it,
and how long and of which bytes the rest is. Reading looks for the tag in front and falls
back to the first underscore only if the tag is missing, so that the shapes have to be shown
to leave no text out and to share none. As no tag holds an underscore and no two are alike, a
text is read for one kind at most, and the others name that kind's tag.
-/

import PartitionLedger.Proofs.Identity.Digits

namespace PartitionLedger

open Base32 (IsSymbol numeral)

theorem IdKind.tag_injective : Function.Injective IdKind.tag := by
  intro first second
  cases first <;> cases second <;> decide

theorem IdKind.underscore_not_mem_tag (kind : IdKind) : '_' ∉ kind.tag.toList := by
  cases kind <;> decide

namespace Id

/-- What comes of reading a text as an identifier of a kind, by the shape of the text. -/
inductive Reads (kind : IdKind) : String → Except IdError (Id kind) → Prop where
  | empty : Reads kind "" (.error .empty)
  | missingSeparator {text : String} (nonempty : text ≠ "") (free : '_' ∉ text.toList) :
    Reads kind text (.error .missingSeparator)
  /-- Another word stands in front of the first underscore. -/
  | wrongTag {actual rest : String} (free : '_' ∉ actual.toList) (other : actual ≠ kind.tag) :
    Reads kind (actual ++ "_" ++ rest) (.error (.wrongTag kind actual))
  | badLength {rest : String} (length : (Text.utf8 rest.toList).length ≠ 26) :
    Reads kind (kind.tag ++ "_" ++ rest) (.error .badLength)
  | badCharacter {rest : String} (length : (Text.utf8 rest.toList).length = 26)
    (bad : ∃ byte ∈ Text.utf8 rest.toList, ¬ IsSymbol (Char.ofUInt8 byte)) :
    Reads kind (kind.tag ++ "_" ++ rest) (.error .badCharacter)
  | accepted {rest : String} (length : (Text.utf8 rest.toList).length = 26)
    (good : ∀ byte ∈ Text.utf8 rest.toList, IsSymbol (Char.ofUInt8 byte)) :
    Reads kind (kind.tag ++ "_" ++ rest) (.ok ⟨BitVec.ofNat 128 (numeral rest.toList)⟩)

section Split

variable {before : List Char} (free : '_' ∉ before) (rest : List Char)

include free

theorem takeWhile_of_free : (before ++ '_' :: rest).takeWhile (· != '_') = before := by
  rw [List.takeWhile_append_of_pos, List.takeWhile_cons_of_neg (by decide), List.append_nil]
  intro char inside
  rw [bne_iff_ne]
  rintro rfl
  exact free inside

/-- A text leads with a tag and an underscore if the tag is what stands in front of its first
underscore. -/
theorem lead_isPrefixOf_iff (kind : IdKind) :
    (lead kind).isPrefixOf (before ++ '_' :: rest) = true ↔ before = kind.tag.toList := by
  rw [List.isPrefixOf_iff_prefix, lead]
  constructor
  · rintro ⟨tail, same⟩
    rw [List.append_assoc, List.singleton_append] at same
    rw [← takeWhile_of_free free rest, ← same, takeWhile_of_free kind.underscore_not_mem_tag]
  · rintro rfl
    exact ⟨rest, by rw [List.append_assoc, List.singleton_append]⟩

/-- What stands in front of the first underscore decides what the rest is read as. -/
theorem ofChars_of_free (kind : IdKind) :
    ofChars kind (before ++ '_' :: rest) =
      if before = kind.tag.toList then ofDigits rest
      else .error (.wrongTag kind (String.ofList before)) := by
  have nonempty : (before ++ '_' :: rest).isEmpty = false := by simp
  have separated : (before ++ '_' :: rest).contains '_' = true := by simp
  rw [ofChars, nonempty, separated, takeWhile_of_free free, if_neg Bool.false_ne_true, if_pos rfl]
  apply if_ctx_congr (lead_isPrefixOf_iff free rest kind)
  · rintro rfl
    rw [← List.singleton_append, ← List.append_assoc, ← lead, List.drop_left]
  · intro _
    rfl

end Split

theorem toList_separated (before rest : String) :
    (before ++ "_" ++ rest).toList = before.toList ++ '_' :: rest.toList := by
  rw [String.toList_append, String.toList_append, List.append_assoc]
  rfl

/-- A text with the tag of a kind in front, by its characters. -/
theorem eq_tag_append_iff (kind : IdKind) (text : String) (digits : List Char) :
    text = kind.tag ++ "_" ++ String.ofList digits ↔ text.toList = lead kind ++ digits := by
  rw [← String.toList_inj, toList_separated, String.toList_ofList, lead, List.append_assoc,
    List.singleton_append]

theorem toList_text {kind : IdKind} (id : Id kind) :
    id.text.toList = lead kind ++ Base32.write 26 id.value.toNat := by
  rw [text, chars, String.toList_ofList, digitCount]

theorem parse_of_separated (kind : IdKind) {before : String} (free : '_' ∉ before.toList)
    (rest : String) :
    parse kind (before ++ "_" ++ rest) =
      if before = kind.tag then ofDigits rest.toList else .error (.wrongTag kind before) := by
  rw [parse, toList_separated, ofChars_of_free free]
  simp only [String.toList_inj, String.ofList_toList]

theorem parse_tag (kind : IdKind) (rest : String) :
    parse kind (kind.tag ++ "_" ++ rest) = ofDigits rest.toList := by
  rw [parse_of_separated kind kind.underscore_not_mem_tag, if_pos rfl]

/-- A text without underscore lacks nothing else unless it is empty. -/
theorem parse_of_not_mem (kind : IdKind) {text : String} (free : '_' ∉ text.toList)
    (nonempty : text ≠ "") : parse kind text = .error .missingSeparator := by
  have some : text.toList.isEmpty = false := by
    rw [List.isEmpty_eq_false_iff]
    exact fun none => nonempty (String.toList_eq_nil_iff.mp none)
  have noLead : (lead kind).isPrefixOf text.toList ≠ true := fun leads =>
    free ((List.isPrefixOf_iff_prefix.mp leads).subset (List.mem_append_right _ (by simp)))
  have noUnderscore : text.toList.contains '_' ≠ true := fun inside =>
    free (List.contains_iff_mem.mp inside)
  rw [parse, ofChars, some, if_neg Bool.false_ne_true, if_neg noLead, if_neg noUnderscore]

/-! ### The digits -/

theorem ofDigits_of_length_ne {kind : IdKind} {digits : List Char}
    (length : (Text.utf8 digits).length ≠ 26) :
    (ofDigits digits : Except IdError (Id kind)) = .error .badLength := by
  rw [Text.length_utf8] at length
  exact if_pos length

/-- Of the right length, the digits are read if all of their bytes are symbols. -/
theorem ofDigits_of_forall {kind : IdKind} {digits : List Char}
    (length : (Text.utf8 digits).length = 26)
    (good : ∀ byte ∈ Text.utf8 digits, IsSymbol (Char.ofUInt8 byte)) :
    (ofDigits digits : Except IdError (Id kind)) = .ok ⟨BitVec.ofNat 128 (numeral digits)⟩ := by
  rw [Text.length_utf8] at length
  have enough : ¬ Text.byteLength digits ≠ digitCount := not_not_intro length
  have read := Base32.read_eq_some_iff.mpr ⟨Base32.forall_mem_utf8_iff.mp good, rfl⟩
  rw [ofDigits, if_neg enough, read]

theorem ofDigits_of_exists {kind : IdKind} {digits : List Char}
    (length : (Text.utf8 digits).length = 26)
    (bad : ∃ byte ∈ Text.utf8 digits, ¬ IsSymbol (Char.ofUInt8 byte)) :
    (ofDigits digits : Except IdError (Id kind)) = .error .badCharacter := by
  rw [Text.length_utf8] at length
  have enough : ¬ Text.byteLength digits ≠ digitCount := not_not_intro length
  have failed : Base32.read digits = none := by
    rw [Option.eq_none_iff_forall_ne_some]
    intro value read
    obtain ⟨byte, inside, other⟩ := bad
    exact other (Base32.forall_mem_utf8_iff.mpr (Base32.read_eq_some_iff.mp read).1 byte inside)
  rw [ofDigits, if_neg enough, failed]

/-- An identifier fits into its digits. -/
theorem value_lt {kind : IdKind} (id : Id kind) : id.value.toNat < 32 ^ 26 :=
  Nat.lt_trans id.value.isLt (by decide)

/-- An identifier is read back from its text. -/
theorem parse_text {kind : IdKind} (id : Id kind) : parse kind id.text = .ok id := by
  have value : Base32.read (Base32.write 26 id.value.toNat) = some id.value.toNat := by
    rw [Base32.read_write, Nat.mod_eq_of_lt id.value_lt]
  obtain ⟨symbols, numeral⟩ := Base32.read_eq_some_iff.mp value
  have length : (Text.utf8 (Base32.write 26 id.value.toNat)).length = 26 := by
    rw [Base32.length_utf8_of_isSymbol symbols, Base32.length_write]
  rw [(eq_tag_append_iff kind id.text _).mpr id.toList_text, parse_tag, String.toList_ofList,
    ofDigits_of_forall length (Base32.forall_mem_utf8_iff.mpr symbols), ← numeral,
    BitVec.ofNat_toNat, BitVec.setWidth_eq]

/-! ### The grammar -/

/-- A text of a certain shape is read by it. -/
theorem Reads.parse_eq {kind : IdKind} {text : String} {result : Except IdError (Id kind)}
    (reads : Reads kind text result) : parse kind text = result := by
  cases reads with
  | empty => rfl
  | missingSeparator nonempty free => exact parse_of_not_mem kind free nonempty
  | wrongTag free other => rw [parse_of_separated kind free, if_neg other]
  | badLength length => rw [parse_tag, ofDigits_of_length_ne length]
  | badCharacter length bad => rw [parse_tag, ofDigits_of_exists length bad]
  | accepted length good => rw [parse_tag, ofDigits_of_forall length good]

/-- Every text has a shape. -/
theorem exists_reads (kind : IdKind) (text : String) : ∃ result, Reads kind text result := by
  by_cases separated : '_' ∈ text.toList
  · obtain ⟨before, rest, cut, free⟩ := List.eq_append_cons_of_mem separated
    obtain rfl : text = String.ofList before ++ "_" ++ String.ofList rest := by
      rw [← String.toList_inj, toList_separated, String.toList_ofList, String.toList_ofList, cut]
    by_cases other : String.ofList before = kind.tag
    · rw [other]
      by_cases length : (Text.utf8 (String.ofList rest).toList).length = 26
      · by_cases good : ∀ byte ∈ Text.utf8 (String.ofList rest).toList, IsSymbol (Char.ofUInt8 byte)
        · exact ⟨_, .accepted length good⟩
        · simp only [not_forall, exists_prop] at good
          exact ⟨_, .badCharacter length good⟩
      · exact ⟨_, .badLength length⟩
    · rw [← String.toList_ofList (l := before)] at free
      exact ⟨_, .wrongTag free other⟩
  · by_cases empty : text = ""
    · rw [empty]
      exact ⟨_, .empty⟩
    · exact ⟨_, .missingSeparator empty separated⟩

theorem parse_eq_iff (kind : IdKind) (text : String) (result : Except IdError (Id kind)) :
    parse kind text = result ↔ Reads kind text result := by
  constructor
  · rintro rfl
    obtain ⟨result, reads⟩ := exists_reads kind text
    rwa [reads.parse_eq]
  · exact Reads.parse_eq

/-- What comes of reading a text as an identifier, be it a number or an error, is told by the shape
of the text. A text that one kind accepts is refused by all others, which name the tag that it
carries. -/
theorem parse_classifies (text : String) :
    (∀ kind result, parse kind text = result ↔ Reads kind text result) ∧
      ∀ kind id, parse kind text = .ok id → ∀ other, other ≠ kind →
        parse other text = .error (.wrongTag other kind.tag) := by
  refine ⟨fun kind result => parse_eq_iff kind text result, ?_⟩
  intro kind id read other different
  cases (parse_eq_iff kind text _).mp read with
  | accepted _ _ =>
    exact (Reads.wrongTag kind.underscore_not_mem_tag
      fun same => different (IdKind.tag_injective same).symm).parse_eq

end Id

end PartitionLedger
