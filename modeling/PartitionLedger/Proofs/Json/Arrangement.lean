/-
# Members in any arrangement

Objects of a text have their members in any order, and may repeat a key, in which case the
last member stays. Values hold each key once, in ascending order. Where no key is repeated,
arranging the members only moves them about.
-/

import Mathlib.Data.List.Forall2
import PartitionLedger.Proofs.Json.Restoration

namespace PartitionLedger.Json

/-! ### Arranging members -/

section Sorted

open Collection

variable {α β : Type} [LT α] [DecidableLT α] [StrictOrder α]

theorem insert_perm {key : α} (value : β) {entries : List (α × β)}
    (fresh : ∀ entry ∈ entries, entry.1 ≠ key) :
    (Sorted.insert key value entries).Perm ((key, value) :: entries) := by
  induction entries with
  | nil => exact .refl _
  | cons entry entries ih =>
    obtain ⟨different, later⟩ := List.forall_mem_cons.mp fresh
    rw [Sorted.insert]
    split_ifs with before behind
    · exact .refl _
    · exact ((ih later).cons entry).trans (.swap _ _ _)
    · exact absurd (StrictOrder.connected _ _ behind before) different

/-- Entries with different keys are moved about and all kept. -/
theorem foldl_insert_perm {front entries : List (α × β)}
    (distinct : ((front ++ entries).map Prod.fst).Nodup) :
    (entries.foldl (fun sorted entry => Sorted.insert entry.1 entry.2 sorted) front).Perm
      (front ++ entries) := by
  induction entries generalizing front with
  | nil => rw [List.foldl_nil, List.append_nil]
  | cons entry entries ih =>
    have fresh : ∀ other ∈ front, other.1 ≠ entry.1 := by
      intro other inside
      rw [List.map_append, List.nodup_append] at distinct
      exact distinct.2.2 _ (List.mem_map_of_mem inside) _ List.mem_cons_self
    have moved : (Sorted.insert entry.1 entry.2 front ++ entries).Perm
        (front ++ entry :: entries) :=
      ((insert_perm entry.2 fresh).append_right entries).trans List.perm_middle.symm
    rw [List.foldl_cons]
    exact (ih ((moved.map Prod.fst).nodup_iff.mpr distinct)).trans moved

end Sorted

/-- Members with different keys are those of the object that they make. -/
theorem exists_perm_of_nodup {members : List (String × Json)}
    (distinct : (members.map Prod.fst).Nodup) :
    ∃ sorted, ofMembers members = object sorted ∧ sorted.Perm members :=
  ⟨_, rfl, foldl_insert_perm (show (([] ++ members).map Prod.fst).Nodup from distinct)⟩

/-! ### Repeated keys -/

namespace Document

/-- The key that a document gives, if it can be read. -/
def key? : Document → Option String
  | string (.ok text) => some text
  | _ => none

mutual

/-- No object inside repeats a key. -/
def Distinct : Document → Prop
  | array items _ => DistinctItems items
  | object members _ => (members.filterMap fun member => member.1.key?).Nodup ∧
      DistinctMembers members
  | null | boolean _ | number _ | string _ | absent | broken _ _ => True

/-- No object inside any item repeats a key. -/
def DistinctItems : List Document → Prop
  | [] => True
  | item :: items => item.Distinct ∧ DistinctItems items

/-- No object inside the value of any member repeats a key. -/
def DistinctMembers : List (Document × Document) → Prop
  | [] => True
  | (_, value) :: members => value.Distinct ∧ DistinctMembers members

end

/-- A member of a text whose key can be read. -/
def member (entry : String × Document) : Document × Document := (.string (.ok entry.1), entry.2)

theorem filterMap_key?_member (named : List (String × Document)) :
    ((named.map member).filterMap fun member => member.1.key?) = named.map Prod.fst := by
  rw [List.filterMap_map]
  exact List.filterMap_eq_map ▸ rfl

/-- A key is read if it is a string that can be read. -/
theorem eq_member_of_readKey_eq_ok {key value : Document} {name : String}
    (read : key.readKey = .ok name) : (key, value) = member (name, value) := by
  match key with
  | string (.ok _) =>
    cases read
    rfl
  | string (.error _) | null | boolean _ | number _ | array _ _ | object _ _ | absent
  | broken _ _ => cases read

/-- The document is read as the value, and repeats no key. -/
structure Gives (room : Nat) (document : Document) (value : Json) : Prop where
  read : document.readValue room = .ok value
  distinct : document.Distinct

variable {room : Nat}

theorem forall₂_of_readItems {items : List Document} {values : List Json}
    (read : readItems room items = .ok values) (distinct : DistinctItems items) :
    List.Forall₂ (Gives room) items values := by
  induction items generalizing values with
  | nil =>
    cases read
    exact .nil
  | cons item items ih =>
    obtain ⟨first, readFirst, next⟩ := exists_of_bind_eq_ok read
    obtain ⟨later, readLater, made⟩ := exists_of_bind_eq_ok next
    cases made
    exact .cons ⟨readFirst, distinct.1⟩ (ih readLater distinct.2)

/-- Members are read under the same names. -/
theorem exists_named_of_readMembers {members : List (Document × Document)}
    {values : List (String × Json)} (read : readMembers room members = .ok values)
    (distinct : DistinctMembers members) :
    ∃ named : List (String × Document), members = named.map member ∧
      List.Forall₂ (fun given value => given.1 = value.1 ∧ Gives room given.2 value.2)
        named values := by
  induction members generalizing values with
  | nil =>
    cases read
    exact ⟨[], rfl, .nil⟩
  | cons first members ih =>
    obtain ⟨name, readKey, next⟩ := exists_of_bind_eq_ok read
    obtain ⟨value, readFirst, next⟩ := exists_of_bind_eq_ok next
    obtain ⟨later, readLater, made⟩ := exists_of_bind_eq_ok next
    cases made
    obtain ⟨named, rfl, related⟩ := ih readLater distinct.2
    refine ⟨(name, first.2) :: named, ?_, .cons ⟨rfl, readFirst, distinct.1⟩ related⟩
    rw [List.map_cons, ← eq_member_of_readKey_eq_ok readKey]

/-- What a document and the value that it gives look like. An object gives its members in another
order. -/
inductive Gives.Shape : Nat → Document → Json → Prop
  | null {room : Nat} : Shape room .null .null
  | boolean {room : Nat} {flag : Bool} : Shape room (.boolean flag) (.boolean flag)
  | number {room : Nat} {value : Number} : Shape room (.number (.ok value)) (.number value)
  | string {room : Nat} {text : String} : Shape room (.string (.ok text)) (.string text)
  | array {room : Nat} {items : List Document} {values : List Json}
      (related : List.Forall₂ (Gives room) items values) :
      Shape (room + 1) (.array items none) (.array values)
  | object {room : Nat} {named : List (String × Document)} {values sorted : List (String × Json)}
      (same : sorted.Perm values)
      (related : List.Forall₂ (fun given value => given.1 = value.1 ∧ Gives room given.2 value.2)
        named values) :
      Shape (room + 1) (.object (named.map member) none) (.object sorted)

theorem Gives.shape {document : Document} {value : Json} (gives : Gives room document value) :
    Shape room document value := by
  obtain ⟨read, distinct⟩ := gives
  match document, room with
  | .null, _ | .boolean _, _ | .number (.ok _), _ | .string (.ok _), _ =>
    cases read
    constructor
  | .array items cut, room + 1 =>
    obtain ⟨values, readAll, finished⟩ := exists_of_bind_eq_ok read
    cases cut with
    | some _ => cases finished
    | none =>
      cases finished
      exact .array (forall₂_of_readItems readAll distinct)
  | .object members cut, room + 1 =>
    obtain ⟨values, readAll, finished⟩ := exists_of_bind_eq_ok read
    obtain ⟨named, rfl, related⟩ := exists_named_of_readMembers readAll distinct.2
    cases cut with
    | some _ => cases finished
    | none =>
      cases finished
      have names : named.map Prod.fst = values.map Prod.fst :=
        List.forall₂_eq_eq_eq ▸ List.forall₂_map_left_iff.mpr
          (List.forall₂_map_right_iff.mpr (related.imp fun _ _ pair => pair.1))
      have keys := distinct.1
      rw [filterMap_key?_member, names] at keys
      obtain ⟨sorted, made, same⟩ := exists_perm_of_nodup keys
      rw [made]
      exact .object same related
  | .number (.error _), _ | .string (.error _), _ | .array _ _, 0 | .object _ _, 0 | .absent, _
  | .broken _ _, _ => cases read

end Document

/-! ### Sorted values -/

theorem depthMembers_perm {members other : List (String × Json)} (same : members.Perm other) :
    depthMembers members = depthMembers other := by
  apply Nat.le_antisymm
  · rw [depthMembers_le_iff]
    intro member inside
    exact (depthMembers_le_iff other).mp (Nat.le_refl _) member (same.mem_iff.mp inside)
  · rw [depthMembers_le_iff]
    intro member inside
    exact (depthMembers_le_iff members).mp (Nat.le_refl _) member (same.mem_iff.mpr inside)

theorem keys_memberDocuments (members : List (String × Json)) :
    ((memberDocuments members).filterMap fun member => member.1.key?) = members.map Prod.fst := by
  induction members with
  | nil => rfl
  | cons member members ih =>
    rw [memberDocuments, List.map_cons, ← ih]
    rfl

theorem keys_sortedMembers (members : List (String × Json)) :
    (sortedMembers members).map Prod.fst = members.map Prod.fst := by
  induction members with
  | nil => rfl
  | cons member members ih =>
    rw [sortedMembers, List.map_cons, ih]
    rfl

mutual

/-- A value that repeats no key is nested as deeply when it is sorted. -/
theorem depth_sorted (value : Json) (distinct : value.document.Distinct) :
    value.sorted.depth = value.depth := by
  match value with
  | .null | .boolean _ | .number _ | .string _ => rfl
  | .array items => rw [sorted, depth, depth, depthItems_sorted items distinct]
  | .object members =>
    obtain ⟨keys, inner⟩ := distinct
    rw [keys_memberDocuments, ← keys_sortedMembers] at keys
    obtain ⟨arranged, made, same⟩ := exists_perm_of_nodup keys
    rw [sorted, made, depth, depth, depthMembers_perm same, depthMembers_sorted members inner]

theorem depthItems_sorted (items : List Json)
    (distinct : Document.DistinctItems (itemDocuments items)) :
    depthItems (sortedItems items) = depthItems items := by
  match items with
  | [] => rfl
  | item :: items =>
    rw [sortedItems, depthItems, depthItems, depth_sorted item distinct.1,
      depthItems_sorted items distinct.2]

theorem depthMembers_sorted (members : List (String × Json))
    (distinct : Document.DistinctMembers (memberDocuments members)) :
    depthMembers (sortedMembers members) = depthMembers members := by
  match members with
  | [] => rfl
  | (_, value) :: members =>
    rw [sortedMembers, depthMembers, depthMembers, depth_sorted value distinct.1,
      depthMembers_sorted members distinct.2]

end

end PartitionLedger.Json
