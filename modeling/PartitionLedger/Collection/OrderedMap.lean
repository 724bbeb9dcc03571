/-
# Finite maps and sets with ordered keys

`OrderedMap` bundles an ascending entry list with the proof that it ascends.
Everything that enumerates a map does so in ascending key order, and two maps
with the same look-ups are equal. `OrderedSet` is the map to the unit type.
-/

import PartitionLedger.Collection.Sorted

namespace PartitionLedger.Collection

universe u v

/-- A finite map, kept as its entries in ascending order of keys. -/
structure OrderedMap (α : Type u) (β : Type v) [LT α] where
  entries : List (α × β)
  ascending : Sorted.Ascending entries

/-- A finite set, kept as its members in ascending order. -/
abbrev OrderedSet (α : Type u) [LT α] := OrderedMap α Unit

namespace OrderedMap

variable {α : Type u} {β : Type v} [LT α]

/-- Maps with equal entry lists are equal. -/
theorem eq_of_entries_eq {first second : OrderedMap α β} (same : first.entries = second.entries) :
    first = second := by
  cases first
  cases second
  cases same
  rfl

instance [DecidableEq α] [DecidableEq β] : DecidableEq (OrderedMap α β) := fun first second =>
  if same : first.entries = second.entries then isTrue (eq_of_entries_eq same)
  else isFalse fun equal => same (congrArg entries equal)

/-- The map without entries. -/
def empty : OrderedMap α β := ⟨[], List.Pairwise.nil⟩

instance : EmptyCollection (OrderedMap α β) := ⟨empty⟩

instance : Inhabited (OrderedMap α β) := ⟨empty⟩

/-- The keys in ascending order. -/
def keys (map : OrderedMap α β) : List α := map.entries.map Prod.fst

/-- The values in ascending order of their keys. -/
def values (map : OrderedMap α β) : List β := map.entries.map Prod.snd

/-- The number of entries. -/
def size (map : OrderedMap α β) : Nat := map.entries.length

/-- No key is stored. -/
def isEmpty (map : OrderedMap α β) : Bool := map.entries.isEmpty

section Lookup

variable [DecidableEq α]

/-- The value stored under a key. -/
def get? (map : OrderedMap α β) (key : α) : Option β := Sorted.lookup key map.entries

/-- The key is stored. -/
def contains (map : OrderedMap α β) (key : α) : Bool := (map.get? key).isSome

/-- Forget a key and its value. -/
def erase (map : OrderedMap α β) (key : α) : OrderedMap α β :=
  ⟨Sorted.erase key map.entries, Sorted.ascending_erase key map.ascending⟩

theorem get?_empty (key : α) : (∅ : OrderedMap α β).get? key = none := rfl

theorem get?_erase (map : OrderedMap α β) (key other : α) :
    (map.erase key).get? other = if key = other then none else map.get? other :=
  Sorted.lookup_erase key other map.entries

end Lookup

/-- Keep the entries that satisfy a test. -/
def filter (map : OrderedMap α β) (keep : α → β → Bool) : OrderedMap α β :=
  ⟨map.entries.filter fun entry => keep entry.1 entry.2, List.Pairwise.filter _ map.ascending⟩

section Insert

variable [DecidableLT α] [StrictOrder α]

/-- Store a value under a key, in place of any earlier value. -/
def insert (map : OrderedMap α β) (key : α) (value : β) : OrderedMap α β :=
  ⟨Sorted.insert key value map.entries, Sorted.ascending_insert key value map.ascending⟩

theorem get?_insert [DecidableEq α] (map : OrderedMap α β) (key other : α) (value : β) :
    (map.insert key value).get? other = if key = other then some value else map.get? other :=
  Sorted.lookup_insert key other value map.entries

end Insert

section Extensionality

variable [DecidableEq α] [StrictOrder α]

theorem get?_eq_some_iff {map : OrderedMap α β} {key : α} {value : β} :
    map.get? key = some value ↔ (key, value) ∈ map.entries :=
  Sorted.lookup_eq_some_iff map.ascending

/-- A map is determined by its look-ups. -/
theorem ext_get? {first second : OrderedMap α β}
    (same : ∀ key, first.get? key = second.get? key) : first = second := by
  refine eq_of_entries_eq (Sorted.eq_of_mem_iff first.ascending second.ascending fun entry => ?_)
  obtain ⟨key, value⟩ := entry
  rw [← get?_eq_some_iff, ← get?_eq_some_iff, same]

end Extensionality

end OrderedMap

namespace OrderedSet

variable {α : Type u} [LT α] [DecidableLT α] [StrictOrder α]

/-- Add one member. -/
def add (set : OrderedSet α) (member : α) : OrderedSet α := OrderedMap.insert set member ()

/-- The set of the members of a list. -/
def ofList (members : List α) : OrderedSet α := members.foldl add ∅

/-- The members in ascending order. -/
def toList (set : OrderedSet α) : List α := OrderedMap.keys set

end OrderedSet

end PartitionLedger.Collection
