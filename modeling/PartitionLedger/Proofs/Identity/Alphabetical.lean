/-
# The order of identifiers is that of their texts

Identifiers are compared by number, and texts byte by byte. The two orders agree because all
texts of a kind begin alike and have the same number of digits, the most significant one comes
first, and the symbols ascend with the values they stand for. Whatever lists identifiers in
ascending order therefore lists their texts in ascending order too: sorted lists, maps and sets,
and with them the calls of a dispatch and the workers of a summary.
-/

import PartitionLedger.Ledger.Summary
import PartitionLedger.Proofs.Dispatch.Issue
import PartitionLedger.Proofs.Identity.Grammar

namespace PartitionLedger

open Collection

namespace Text

/-- The bytes of a text come before those of another in the order of dictionaries. -/
def Precedes (first second : String) : Prop := utf8 first.toList < utf8 second.toList

instance (first second : String) : Decidable (Precedes first second) :=
  inferInstanceAs (Decidable (utf8 first.toList < utf8 second.toList))

/-- Texts put into the order of their bytes, repeated ones included. -/
def sorted (texts : List String) : List String :=
  texts.mergeSort fun first second => !decide (Precedes second first)

/-- Each text comes before all later ones. -/
def Ascending (texts : List String) : Prop := texts.Pairwise Precedes

theorem utf8_append (first second : List Char) :
    utf8 (first ++ second) = utf8 first ++ utf8 second :=
  List.flatMap_append

theorem utf8_cons_of_ascii {char : Char} (ascii : char.toNat < 128) (chars : List Char) :
    utf8 (char :: chars) = UInt8.ofNat char.toNat :: utf8 chars := by
  rw [utf8, List.flatMap_cons, utf8EncodeChar_of_ascii ascii, List.singleton_append, ← utf8]

/-- What two sequences of bytes begin with in common does not matter to their order. -/
theorem append_lt_append_iff (front first second : List UInt8) :
    front ++ first < front ++ second ↔ first < second := by
  induction front with
  | nil => rfl
  | cons byte front ih =>
    rw [List.cons_append, List.cons_append, List.cons_lt_cons_iff, ih]
    simp

end Text

namespace Base32

/-- The bytes of the symbols ascend with the values. -/
theorem symbol_byte_lt_iff {first second : Nat} (small : first < 32) (small' : second < 32) :
    UInt8.ofNat (symbol first).toNat < UInt8.ofNat (symbol second).toNat ↔ first < second := by
  have every : ∀ first ∈ List.range 32, ∀ second ∈ List.range 32,
      (UInt8.ofNat (symbol first).toNat < UInt8.ofNat (symbol second).toNat ↔ first < second) := by
    decide +kernel
  exact every first (List.mem_range.mpr small) second (List.mem_range.mpr small')

theorem symbol_byte_inj {first second : Nat} (small : first < 32) (small' : second < 32) :
    UInt8.ofNat (symbol first).toNat = UInt8.ofNat (symbol second).toNat ↔ first = second := by
  constructor
  · intro same
    apply Nat.le_antisymm
    · rw [← Nat.not_lt, ← symbol_byte_lt_iff small' small, same]
      exact UInt8.lt_irrefl _
    · rw [← Nat.not_lt, ← symbol_byte_lt_iff small small', same]
      exact UInt8.lt_irrefl _
  · rintro rfl
    rfl

theorem symbol_ascii {digit : Nat} (small : digit < 32) : (symbol digit).toNat < 128 := by
  have every : ∀ digit ∈ List.range 32, (symbol digit).toNat < 128 := by decide
  exact every digit (List.mem_range.mpr small)

/-- Of two numbers the one with the higher leading digit is greater, and of two with the same
leading digit the one with the greater rest. -/
theorem add_mul_lt_add_mul_iff {unit rest rest' digit digit' : Nat} (small : rest < unit)
    (small' : rest' < unit) :
    rest + unit * digit < rest' + unit * digit' ↔
      digit < digit' ∨ digit = digit' ∧ rest < rest' := by
  rcases Nat.lt_trichotomy digit digit' with less | rfl | greater
  · have step : unit * digit + unit ≤ unit * digit' := Nat.mul_le_mul_left unit less
    exact iff_of_true (by omega) (Or.inl less)
  · simp
  · have step : unit * digit' + unit ≤ unit * digit := Nat.mul_le_mul_left unit greater
    refine iff_of_false (by omega) ?_
    rintro (less | ⟨rfl, _⟩)
    · exact Nat.lt_asymm less greater
    · exact Nat.lt_irrefl _ greater

/-- Numbers written with the same width compare as what is written. -/
theorem utf8_write_lt_iff (width first second : Nat) :
    Text.utf8 (write width first) < Text.utf8 (write width second) ↔
      first % 32 ^ width < second % 32 ^ width := by
  induction width with
  | zero =>
    rw [Nat.pow_zero, Nat.mod_one, Nat.mod_one]
    exact iff_of_false (List.lt_irrefl _) (Nat.lt_irrefl 0)
  | succ width ih =>
    have small : ∀ value : Nat, value / 32 ^ width % 32 < 32 := fun _ => Nat.mod_lt _ (by decide)
    have below : ∀ value : Nat, value % 32 ^ width < 32 ^ width :=
      fun _ => Nat.mod_lt _ (Nat.pow_pos (by decide))
    rw [write_succ_eq_cons, write_succ_eq_cons, Text.utf8_cons_of_ascii (symbol_ascii (small _)),
      Text.utf8_cons_of_ascii (symbol_ascii (small _)), List.cons_lt_cons_iff,
      symbol_byte_lt_iff (small _) (small _), symbol_byte_inj (small _) (small _), ih,
      Nat.mod_pow_succ, Nat.mod_pow_succ, add_mul_lt_add_mul_iff (below _) (below _)]

end Base32

namespace Id

variable {kind : IdKind}

/-- Identifiers of a kind and their texts stand in the same order. -/
theorem lt_iff_precedes (first second : Id kind) :
    first < second ↔ Text.Precedes first.text second.text := by
  rw [Text.Precedes, toList_text, toList_text, Text.utf8_append, Text.utf8_append,
    Text.append_lt_append_iff, Base32.utf8_write_lt_iff, Nat.mod_eq_of_lt first.value_lt,
    Nat.mod_eq_of_lt second.value_lt]
  rfl

theorem eq_iff_text_eq (first second : Id kind) : first = second ↔ first.text = second.text := by
  constructor
  · exact congrArg text
  · intro same
    have read := parse_text first
    rw [same, parse_text] at read
    exact (Except.ok.inj read).symm

/-- Identifiers in ascending order have texts in ascending order. -/
theorem ascending_texts {ids : List (Id kind)} (ascending : ids.Pairwise (· < ·)) :
    Text.Ascending (ids.map text) :=
  List.pairwise_map.mpr (ascending.imp fun {first second} => (lt_iff_precedes first second).mp)

theorem ascending_keys {β : Type} (map : OrderedMap (Id kind) β) :
    Text.Ascending (map.keys.map text) :=
  ascending_texts map.pairwise_keys

/-- Sorting comes to the same before and after the identifiers are written. -/
theorem map_text_ranked (ids : List (Id kind)) :
    (ranked ids).map text = Text.sorted (ids.map text) := by
  apply List.map_mergeSort
  intro first _ second _
  simp only [lt_iff_precedes]

/-- The order of the identifiers of one kind is that of their texts. -/
structure OrderedByText (kind : IdKind) : Prop where
  lt_iff : ∀ first second : Id kind, first < second ↔ Text.Precedes first.text second.text
  eq_iff : ∀ first second : Id kind, first = second ↔ first.text = second.text
  /-- Sorted identifiers are written as their sorted texts, which never go down. -/
  sorted : ∀ ids : List (Id kind), (ranked ids).map text = Text.sorted (ids.map text) ∧
    (Text.sorted (ids.map text)).Pairwise fun first second => ¬ Text.Precedes second first
  keys : ∀ (β : Type) (map : OrderedMap (Id kind) β), Text.Ascending (map.keys.map text)

theorem orderedByText (kind : IdKind) : OrderedByText kind where
  lt_iff := lt_iff_precedes
  eq_iff := eq_iff_text_eq
  sorted ids := by
    refine ⟨map_text_ranked ids, ?_⟩
    rw [← map_text_ranked, List.pairwise_map]
    simpa only [← lt_iff_precedes] using ranked_pairwise ids
  keys _ := ascending_keys

end Id

/-- All identifiers that a dispatch lists by worker or within a call ascend by their texts. -/
structure Dispatch.ListsByText (dispatch : Dispatch) : Prop where
  workersCalled : Text.Ascending (dispatch.workersCalled.map Id.text)
  unreachableWorkers : Text.Ascending (dispatch.unreachableWorkers.map Id.text)
  partitions : ∀ call ∈ dispatch.calls ++ dispatch.skipped,
    Text.Ascending ((OrderedSet.toList call.partitions).map Id.text)

theorem Dispatch.listsByText_issue (job : JobId) (resolves : WorkerId → Bool)
    (disposition : Disposition) (notify : Bool) (removed : List Holding) :
    (issue job resolves disposition notify removed).ListsByText where
  workersCalled := by
    rw [issue_workersCalled]
    exact Id.ascending_texts ((batches removed).pairwise_keys.filter _)
  unreachableWorkers := by
    rw [issue_unreachableWorkers]
    exact Id.ascending_texts ((batches removed).pairwise_keys.filter _)
  partitions call _ := Id.ascending_keys call.partitions

/-- For each kind identifiers and their texts are ordered alike, so that sorting identifiers sorts
their texts; and what a dispatch or a summary lists by identifier ascends by text. -/
theorem listed_by_text :
    (∀ kind, Id.OrderedByText kind) ∧
      (∀ job resolves disposition notify removed,
        (Dispatch.issue job resolves disposition notify removed).ListsByText) ∧
      ∀ ledger, Text.Ascending ((Summary.ofLedger ledger).workers.keys.map Id.text) :=
  ⟨Id.orderedByText, Dispatch.listsByText_issue,
    fun ledger => Id.ascending_keys (Summary.ofLedger ledger).workers⟩

end PartitionLedger
