/-
# Values read back from their texts

The document that the text of a value spells is the value once more, with its arrays and
objects properly ended. Reading gives back the value with its members in order of their keys if
the room suffices, and finds the text malformed otherwise. What is read from any text at all
has ascending keys and fits into the room.
-/

import PartitionLedger.Json.Reader
import PartitionLedger.Proofs.Json.Layout
import PartitionLedger.Proofs.Json.Spelling

namespace PartitionLedger.Json

/-! ### Computations that may fail -/

theorem ok_bind {ε α β : Type} (value : α) (next : α → Except ε β) :
    (.ok value >>= next) = next value := rfl

/-- What a successful computation in two steps went through. -/
theorem exists_of_bind_eq_ok {ε α β : Type} {first : Except ε α} {next : α → Except ε β}
    {result : β} (succeeded : first >>= next = .ok result) :
    ∃ value, first = .ok value ∧ next value = .ok result := by
  cases first with
  | error _ => cases succeeded
  | ok value => exact ⟨value, rfl, succeeded⟩

theorem bind_eq_ok_iff {ε α β : Type} {first : Except ε α} {next : α → Except ε β} {result : β} :
    first >>= next = .ok result ↔ ∃ value, first = .ok value ∧ next value = .ok result := by
  constructor
  · exact exists_of_bind_eq_ok
  · rintro ⟨value, rfl, succeeded⟩
    exact succeeded

/-! ### Documents of values -/

mutual

/-- The document that the text of a value spells. -/
def document : Json → Document
  | null => .null
  | boolean flag => .boolean flag
  | number value => .number (.ok value)
  | string text => .string (.ok text)
  | array items => .array (itemDocuments items) none
  | object members => .object (memberDocuments members) none

/-- The documents of the items of an array. -/
def itemDocuments : List Json → List Document
  | [] => []
  | item :: items => item.document :: itemDocuments items

/-- The documents of the members of an object. -/
def memberDocuments : List (String × Json) → List (Document × Document)
  | [] => []
  | (key, value) :: members => (.string (.ok key), value.document) :: memberDocuments members

end

mutual

/-- The document of a value has the tokens of the value. -/
theorem tokens_document (value : Json) : value.document.tokens = value.tokens := by
  match value with
  | .null | .boolean _ | .number _ | .string _ | .array [] | .object [] => rfl
  | .array (item :: items) =>
    rw [document, itemDocuments, Document.tokens, tokens_document item, laterTokens_items items]
    rfl
  | .object ((key, value) :: members) =>
    rw [document, memberDocuments, Document.tokens, tokens_document value,
      laterTokens_members members]
    rfl

theorem laterTokens_items (items : List Json) :
    Document.laterItemTokens (itemDocuments items) = laterItemTokens items := by
  match items with
  | [] => rfl
  | item :: items =>
    rw [itemDocuments, Document.laterItemTokens, tokens_document item, laterTokens_items items]
    rfl

theorem laterTokens_members (members : List (String × Json)) :
    Document.laterMemberTokens (memberDocuments members) = laterMemberTokens members := by
  match members with
  | [] => rfl
  | (key, value) :: members =>
    rw [memberDocuments, Document.laterMemberTokens, tokens_document value,
      laterTokens_members members]
    rfl

end

mutual

theorem whole_document (value : Json) : value.document.Whole := by
  match value with
  | .null | .boolean _ | .number _ | .string _ => trivial
  | .array items => exact ⟨rfl, whole_itemDocuments items⟩
  | .object members => exact ⟨rfl, whole_memberDocuments members⟩

theorem whole_itemDocuments (items : List Json) : Document.WholeItems (itemDocuments items) := by
  match items with
  | [] => trivial
  | item :: items => exact ⟨whole_document item, whole_itemDocuments items⟩

theorem whole_memberDocuments (members : List (String × Json)) :
    Document.WholeMembers (memberDocuments members) := by
  match members with
  | [] => trivial
  | (_, value) :: members =>
    exact ⟨⟨_, rfl⟩, whole_document value, whole_memberDocuments members⟩

end

/-- The text of a value is laid out as its document. -/
theorem written_text (value : Json) (exact : value.Exact) :
    value.document.Written value.text := by
  have laid := laid_chars value exact (Laid.nil (show ∀ char ∈ [], isBlank char = true from nofun))
  rw [List.append_nil, List.append_nil] at laid
  refine ⟨whole_document value, ?_⟩
  rw [tokens_document, text, String.toList_ofList]
  exact laid

namespace Document

/-- A text that spells a document and nothing else is read from it. -/
theorem readText_eq {α : Type} (read : Document → Except ReadError α) {text : String}
    {document : Document} (spelled : ofText text = (document, false)) :
    readText read text = read document := by
  rw [readText, spelled]
  exact bind_pure (read document)

/-- A text that is read in any way spells a document and nothing else. -/
theorem ofText_of_readText_eq_ok {α : Type} {read : Document → Except ReadError α} {text : String}
    {value : α} (accepted : readText read text = .ok value) :
    ∃ document, ofText text = (document, false) ∧ read document = .ok value := by
  rw [readText] at accepted
  generalize ofText text = spelled at accepted
  obtain ⟨document, trailing⟩ := spelled
  obtain ⟨result, success, next⟩ := exists_of_bind_eq_ok accepted
  cases trailing with
  | false => exact ⟨document, rfl, success.trans next⟩
  | true => cases next

/-- Reading the text of a value is reading its document. -/
theorem readText_text {α : Type} (read : Document → Except ReadError α) (value : Json)
    (exact : value.Exact) : readText read value.text = read value.document :=
  readText_eq read (ofText_of_written (written_text value exact))

/-- What is read from a text is read from the document that it spells. -/
theorem exists_of_readText_eq_ok {α : Type} {read : Document → Except ReadError α} {text : String}
    {value : α} (accepted : readText read text = .ok value) :
    ∃ document, read document = .ok value := by
  obtain ⟨document, -, success⟩ := ofText_of_readText_eq_ok accepted
  exact ⟨document, success⟩

end Document

/-! ### Members in order -/

section Sorted

open Collection

variable {α β : Type} [LT α] [DecidableLT α] [StrictOrder α]

theorem insert_of_forall_lt {key : α} (value : β) {entries : List (α × β)}
    (less : ∀ entry ∈ entries, entry.1 < key) :
    Sorted.insert key value entries = entries ++ [(key, value)] := by
  induction entries with
  | nil => rfl
  | cons entry entries ih =>
    obtain ⟨first, later⟩ := List.forall_mem_cons.mp less
    have notLess : ¬ key < entry.1 := fun greater =>
      StrictOrder.irrefl _ (StrictOrder.trans _ _ _ first greater)
    rw [Sorted.insert, if_neg notLess, if_pos first, ih later, List.cons_append]

/-- Entries that ascend already are put one behind the other. -/
theorem foldl_insert_of_ascending {front entries : List (α × β)}
    (ascending : Sorted.Ascending (front ++ entries)) :
    entries.foldl (fun sorted entry => Sorted.insert entry.1 entry.2 sorted) front =
      front ++ entries := by
  induction entries generalizing front with
  | nil => rw [List.foldl_nil, List.append_nil]
  | cons entry entries ih =>
    have less : ∀ other ∈ front, other.1 < entry.1 := fun other before =>
      (List.pairwise_append.mp ascending).2.2 other before entry List.mem_cons_self
    have next : front ++ [entry] ++ entries = front ++ entry :: entries := by
      rw [List.append_assoc, List.singleton_append]
    rw [List.foldl_cons, insert_of_forall_lt _ less, ih (next ▸ ascending), next]

theorem ascending_foldl_insert {front : List (α × β)} (ascending : Sorted.Ascending front)
    (entries : List (α × β)) :
    Sorted.Ascending
      (entries.foldl (fun sorted entry => Sorted.insert entry.1 entry.2 sorted) front) := by
  induction entries generalizing front with
  | nil => exact ascending
  | cons entry entries ih => exact ih (Sorted.ascending_insert entry.1 entry.2 ascending)

omit [StrictOrder α] in
theorem mem_of_mem_foldl_insert {front entries : List (α × β)} {entry : α × β}
    (inside : entry ∈
      entries.foldl (fun sorted entry => Sorted.insert entry.1 entry.2 sorted) front) :
    entry ∈ front ∨ entry ∈ entries := by
  induction entries generalizing front with
  | nil => exact .inl inside
  | cons first entries ih =>
    rcases ih inside with early | later
    · rcases Sorted.mem_of_mem_insert early with rfl | before
      · exact .inr List.mem_cons_self
      · exact .inl before
    · exact .inr (List.mem_cons_of_mem _ later)

end Sorted

/-- Members with ascending keys are the object that they make. -/
theorem ofMembers_of_ascending {members : List (String × Json)}
    (ascending : Collection.Sorted.Ascending members) : ofMembers members = object members := by
  have sorted := foldl_insert_of_ascending (show Collection.Sorted.Ascending ([] ++ members) from
    ascending)
  rw [ofMembers, sorted, List.nil_append]

/-! ### Room for a value -/

/-- The result, if something of this depth fits into the room. -/
def within {α : Type} (room depth : Nat) (result : α) : Except ReadError α :=
  if depth ≤ room then .ok result else .error .malformed

section Within

variable {α β γ : Type} (room : Nat)

theorem within_zero (result : α) : within room 0 result = .ok result := if_pos (Nat.zero_le room)

theorem zero_within_succ (depth : Nat) (result : α) :
    within 0 (depth + 1) result = .error .malformed := if_neg (Nat.not_succ_le_zero depth)

theorem within_succ (depth : Nat) (result : α) :
    within (room + 1) (depth + 1) result = within room depth result := by
  simp only [within, Nat.add_le_add_iff_right]

/-- What fits is used further, and what does not is told on. -/
theorem within_bind {depth : Nat} {result : α} {next : α → Except ReadError β} {final : β}
    (succeeds : next result = .ok final) :
    (within room depth result >>= next) = within room depth final := by
  rw [within, within]
  split
  · exact succeeds
  · rfl

theorem map_within (depth : Nat) (result : α) (use : α → β) :
    (within room depth result).map use = within room depth (use result) := by
  rw [within, within]
  split <;> rfl

/-- Two results are there if both fit. -/
theorem within_bind_within (first second : Nat) (one : α) (other : β) (join : α → β → γ) :
    (within room first one >>= fun value =>
        within room second other >>= fun values => .ok (join value values)) =
      within room (max first second) (join one other) := by
  have outer : ∀ value : α,
      (within room second other >>= fun values => Except.ok (join value values)) =
        within room second (join value other) := fun _ => within_bind room rfl
  simp only [outer]
  by_cases fits : first ≤ room
  · have rest : max first second ≤ room ↔ second ≤ room := by
      rw [Nat.max_le, and_iff_right fits]
    rw [within, if_pos fits]
    simp only [within, rest]
    rfl
  · rw [within, within, if_neg fits, if_neg fun both => fits (Nat.max_le.mp both).1]
    rfl

end Within

/-! ### Values whose members are in any order -/

mutual

/-- The value with the members of its objects in order of their keys. Where a key is repeated, the
last member stays. -/
def sorted : Json → Json
  | null => null
  | boolean flag => boolean flag
  | number value => number value
  | string text => string text
  | array items => array (sortedItems items)
  | object members => ofMembers (sortedMembers members)

/-- The items of an array, each of them sorted. -/
def sortedItems : List Json → List Json
  | [] => []
  | item :: items => item.sorted :: sortedItems items

/-- The members of an object in the order in which they stand, each of them sorted. -/
def sortedMembers : List (String × Json) → List (String × Json)
  | [] => []
  | (key, value) :: members => (key, value.sorted) :: sortedMembers members

end

mutual

/-- Sorting changes nothing in a value that the library holds. -/
theorem sorted_of_canonical (value : Json) (canonical : value.Canonical) :
    value.sorted = value := by
  match value with
  | .null | .boolean _ | .number _ | .string _ => rfl
  | .array items => rw [sorted, sortedItems_of_canonical items canonical]
  | .object members =>
    rw [sorted, sortedMembers_of_canonical members canonical.2, ofMembers_of_ascending canonical.1]

theorem sortedItems_of_canonical (items : List Json) (canonical : CanonicalItems items) :
    sortedItems items = items := by
  match items with
  | [] => rfl
  | item :: items =>
    rw [sortedItems, sorted_of_canonical item canonical.1,
      sortedItems_of_canonical items canonical.2]

theorem sortedMembers_of_canonical (members : List (String × Json))
    (canonical : CanonicalMembers members) : sortedMembers members = members := by
  match members with
  | [] => rfl
  | (key, value) :: members =>
    rw [sortedMembers, sorted_of_canonical value canonical.1,
      sortedMembers_of_canonical members canonical.2]

end

mutual

/-- A value is read back, sorted, if there is room for it as it is written; otherwise its document
is malformed for a reader. -/
theorem readValue_document_eq (value : Json) (room : Nat) :
    value.document.readValue room = within room value.depth value.sorted := by
  match value with
  | .null | .boolean _ | .number _ | .string _ => exact (within_zero room _).symm
  | .array items =>
    cases room with
    | zero => exact (zero_within_succ _ _).symm
    | succ room =>
      rw [document, Document.readValue, readItems_itemDocuments items, depth, within_succ]
      exact within_bind room rfl
  | .object members =>
    cases room with
    | zero => exact (zero_within_succ _ _).symm
    | succ room =>
      rw [document, Document.readValue, readMembers_memberDocuments members, depth, within_succ]
      exact within_bind room rfl

/-- The items of an array are read back. -/
theorem readItems_itemDocuments (items : List Json) (room : Nat) :
    Document.readItems room (itemDocuments items) =
      within room (depthItems items) (sortedItems items) := by
  match items with
  | [] => exact (within_zero room _).symm
  | item :: items =>
    rw [itemDocuments, Document.readItems, readValue_document_eq item,
      readItems_itemDocuments items]
    exact within_bind_within room _ _ item.sorted (sortedItems items) List.cons

/-- The members of an object are read back. -/
theorem readMembers_memberDocuments (members : List (String × Json)) (room : Nat) :
    Document.readMembers room (memberDocuments members) =
      within room (depthMembers members) (sortedMembers members) := by
  match members with
  | [] => exact (within_zero room _).symm
  | (key, value) :: members =>
    rw [memberDocuments, Document.readMembers, readValue_document_eq value,
      readMembers_memberDocuments members]
    exact within_bind_within room _ _ value.sorted (sortedMembers members)
      fun value values => (key, value) :: values

end

/-- A value with ascending keys is read back as it is. -/
theorem readValue_document (value : Json) (canonical : value.Canonical) (room : Nat) :
    value.document.readValue room = within room value.depth value := by
  rw [readValue_document_eq, sorted_of_canonical value canonical]

/-! ### Values read from any document -/

theorem canonicalItems_iff (items : List Json) :
    CanonicalItems items ↔ ∀ item ∈ items, item.Canonical := by
  induction items with
  | nil => exact iff_of_true trivial nofun
  | cons item items ih => rw [CanonicalItems, ih, List.forall_mem_cons]

theorem canonicalMembers_iff (members : List (String × Json)) :
    CanonicalMembers members ↔ ∀ member ∈ members, member.2.Canonical := by
  induction members with
  | nil => exact iff_of_true trivial nofun
  | cons member members ih => rw [CanonicalMembers, ih, List.forall_mem_cons]

theorem depthItems_le_iff {room : Nat} (items : List Json) :
    depthItems items ≤ room ↔ ∀ item ∈ items, item.depth ≤ room := by
  induction items with
  | nil => exact iff_of_true (Nat.zero_le _) nofun
  | cons item items ih => rw [depthItems, Nat.max_le, ih, List.forall_mem_cons]

theorem depthMembers_le_iff {room : Nat} (members : List (String × Json)) :
    depthMembers members ≤ room ↔ ∀ member ∈ members, member.2.depth ≤ room := by
  induction members with
  | nil => exact iff_of_true (Nat.zero_le _) nofun
  | cons member members ih => rw [depthMembers, Nat.max_le, ih, List.forall_mem_cons]

/-- The value is one that the library holds, and fits into the room. -/
structure Fits (room : Nat) (value : Json) : Prop where
  canonical : value.Canonical
  shallow : value.depth ≤ room

theorem fits_null (room : Nat) : Fits room null := ⟨trivial, Nat.zero_le room⟩

theorem fits_array {room : Nat} {items : List Json} (fit : ∀ item ∈ items, Fits room item) :
    Fits (room + 1) (array items) where
  canonical := (canonicalItems_iff items).mpr fun item inside => (fit item inside).canonical
  shallow := Nat.succ_le_succ
    ((depthItems_le_iff items).mpr fun item inside => (fit item inside).shallow)

/-- Members in any order make an object that fits one level further out. -/
theorem fits_ofMembers {room : Nat} {members : List (String × Json)}
    (fit : ∀ member ∈ members, Fits room member.2) : Fits (room + 1) (ofMembers members) where
  canonical := by
    refine ⟨ascending_foldl_insert List.Pairwise.nil members, ?_⟩
    rw [canonicalMembers_iff]
    intro member inside
    exact (fit member ((mem_of_mem_foldl_insert inside).resolve_left List.not_mem_nil)).canonical
  shallow := by
    refine Nat.succ_le_succ ?_
    rw [depthMembers_le_iff]
    intro member inside
    exact (fit member ((mem_of_mem_foldl_insert inside).resolve_left List.not_mem_nil)).shallow

theorem eq_of_finish_eq_ok {α : Type} {cut : Option Fault} {result value : α}
    (finished : Document.finish cut result = .ok value) : value = result := by
  cases cut with
  | none => exact (Except.ok.inj finished).symm
  | some _ => cases finished

mutual

theorem fits_of_readValue (document : Document) {room : Nat} {value : Json}
    (read : document.readValue room = .ok value) : Fits room value := by
  match document, room with
  | .null, _ | .boolean _, _ =>
    cases read
    exact ⟨trivial, Nat.zero_le _⟩
  | .number _, _ | .string _, _ =>
    obtain ⟨_, _, made⟩ := exists_of_bind_eq_ok read
    cases made
    exact ⟨trivial, Nat.zero_le _⟩
  | .array items cut, 0 | .object members cut, 0 => cases read
  | .array items cut, room + 1 =>
    obtain ⟨values, readAll, finished⟩ := exists_of_bind_eq_ok read
    rw [eq_of_finish_eq_ok finished]
    exact fits_array (fits_of_readItems items readAll)
  | .object members cut, room + 1 =>
    obtain ⟨values, readAll, finished⟩ := exists_of_bind_eq_ok read
    rw [eq_of_finish_eq_ok finished]
    exact fits_ofMembers (fits_of_readMembers members readAll)
  | .absent, _ | .broken _ _, _ => cases read

theorem fits_of_readItems (items : List Document) {room : Nat} {values : List Json}
    (read : Document.readItems room items = .ok values) : ∀ value ∈ values, Fits room value := by
  match items with
  | [] =>
    cases read
    exact nofun
  | item :: items =>
    obtain ⟨first, readFirst, next⟩ := exists_of_bind_eq_ok read
    obtain ⟨later, readLater, made⟩ := exists_of_bind_eq_ok next
    cases made
    exact List.forall_mem_cons.mpr
      ⟨fits_of_readValue item readFirst, fits_of_readItems items readLater⟩

theorem fits_of_readMembers (members : List (Document × Document)) {room : Nat}
    {values : List (String × Json)} (read : Document.readMembers room members = .ok values) :
    ∀ member ∈ values, Fits room member.2 := by
  match members with
  | [] =>
    cases read
    exact nofun
  | (_, value) :: members =>
    obtain ⟨key, _, next⟩ := exists_of_bind_eq_ok read
    obtain ⟨first, readFirst, next⟩ := exists_of_bind_eq_ok next
    obtain ⟨later, readLater, made⟩ := exists_of_bind_eq_ok next
    cases made
    exact List.forall_mem_cons.mpr
      ⟨fits_of_readValue value readFirst, fits_of_readMembers members readLater⟩

end

end PartitionLedger.Json
