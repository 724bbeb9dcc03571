/-
# What is in a map

A map is determined by its look-ups, so everything else that can be read off it is
said in terms of them here: its keys and values, its size, the entries that a filter
keeps, and the members of a set. The keys ascend, hence no key is listed twice, and two
enumerations of the same keys are the same list. A list that is merely sorted may repeat
its members, and never goes down.
-/

import Mathlib.Data.List.Sort
import PartitionLedger.Collection.OrderedMap
import PartitionLedger.Collection.Ranked

namespace PartitionLedger.Collection

universe u v

/-- A list without repetitions is determined by its members if there is at most one. -/
theorem eq_toList_of_mem_iff {α : Type u} {members : List α} {only : Option α}
    (nodup : members.Nodup) (same : ∀ member, member ∈ members ↔ only = some member) :
    members = only.toList := by
  cases only with
  | none =>
    rw [Option.toList_none, List.eq_nil_iff_forall_not_mem]
    intro member inside
    exact nomatch (same member).mp inside
  | some member =>
    rw [Option.toList_some, ← List.perm_singleton,
      List.perm_ext_iff_of_nodup nodup (List.nodup_singleton member)]
    intro other
    rw [same, List.mem_singleton, Option.some.injEq, eq_comm]

theorem StrictOrder.asymm {α : Type u} [LT α] [StrictOrder α] {a b : α} (less : a < b) : ¬ b < a :=
  fun greater => StrictOrder.irrefl a (StrictOrder.trans _ _ _ less greater)

/-- A sorted list never goes down. -/
theorem ranked_pairwise {α : Type u} [LT α] [DecidableLT α] [StrictOrder α] (members : List α) :
    (ranked members).Pairwise fun first second => ¬ second < first := by
  have trans : ∀ a b c : α, (!decide (b < a)) = true → (!decide (c < b)) = true →
      (!decide (c < a)) = true := by
    intro a b c notGreater notGreater'
    simp only [Bool.not_eq_true', decide_eq_false_iff_not] at notGreater notGreater' ⊢
    intro greater
    by_cases less : a < b
    · exact notGreater' (StrictOrder.trans _ _ _ greater less)
    · exact notGreater' (StrictOrder.connected a b less notGreater ▸ greater)
  have total : ∀ a b : α, (!decide (b < a) || !decide (a < b)) = true := by
    intro a b
    by_cases less : a < b
    · simp [StrictOrder.asymm less]
    · simp [less]
  have sorted := List.pairwise_mergeSort trans total members
  rw [ranked]
  simpa using sorted

namespace OrderedMap

variable {α : Type u} {β : Type v} [LT α]

/-- The keys ascend strictly. -/
theorem pairwise_keys (map : OrderedMap α β) : map.keys.Pairwise (· < ·) :=
  List.pairwise_map.mpr map.ascending

/-- A filter that looks at values only filters the values. -/
theorem values_filter (map : OrderedMap α β) (keep : β → Bool) :
    (map.filter fun _ value => keep value).values = map.values.filter keep := by
  rw [values, values, filter, List.filter_map]
  rfl

theorem contains_eq_true_iff [DecidableEq α] {map : OrderedMap α β} {key : α} :
    map.contains key = true ↔ ∃ value, map.get? key = some value :=
  Option.isSome_iff_exists

variable [StrictOrder α]

theorem nodup_keys (map : OrderedMap α β) : map.keys.Nodup := by
  apply map.pairwise_keys.imp
  intro first second less same
  exact StrictOrder.irrefl second (same ▸ less)

/-- Two maps with the same keys list them in the same order. -/
theorem keys_eq_of_mem_iff {γ : Type v} {first : OrderedMap α β} {second : OrderedMap α γ}
    (same : ∀ key, key ∈ first.keys ↔ key ∈ second.keys) : first.keys = second.keys := by
  have : Std.Irrefl fun a b : α => a < b := ⟨StrictOrder.irrefl⟩
  have : Std.Asymm fun a b : α => a < b := ⟨fun _ _ => StrictOrder.asymm⟩
  exact first.pairwise_keys.eq_of_mem_iff second.pairwise_keys (fun {key} => same key)

variable [DecidableEq α]

theorem mem_keys_iff {map : OrderedMap α β} {key : α} :
    key ∈ map.keys ↔ ∃ value, map.get? key = some value := by
  constructor
  · intro member
    obtain ⟨entry, inside, rfl⟩ := List.mem_map.mp member
    exact ⟨entry.2, get?_eq_some_iff.mpr inside⟩
  · rintro ⟨value, found⟩
    exact List.mem_map_of_mem (f := Prod.fst) (get?_eq_some_iff.mp found)

theorem mem_values_iff {map : OrderedMap α β} {value : β} :
    value ∈ map.values ↔ ∃ key, map.get? key = some value := by
  constructor
  · intro member
    obtain ⟨entry, inside, rfl⟩ := List.mem_map.mp member
    exact ⟨entry.1, get?_eq_some_iff.mpr inside⟩
  · rintro ⟨key, found⟩
    exact List.mem_map_of_mem (f := Prod.snd) (get?_eq_some_iff.mp found)

/-- When every value tells its key, the keys can be read off the values. -/
theorem map_values_eq_keys {map : OrderedMap α β} (key : β → α)
    (told : ∀ stored value, map.get? stored = some value → key value = stored) :
    map.values.map key = map.keys := by
  rw [values, keys, List.map_map]
  apply List.map_congr_left
  intro entry inside
  exact told entry.1 entry.2 (get?_eq_some_iff.mpr inside)

/-- When every value tells its key, no value is listed twice. -/
theorem nodup_values {map : OrderedMap α β} (key : β → α)
    (told : ∀ stored value, map.get? stored = some value → key value = stored) :
    map.values.Nodup := by
  apply List.Nodup.of_map key
  rw [map_values_eq_keys key told]
  exact map.nodup_keys

/-- The values are what the look-ups of the keys give. -/
theorem filterMap_get?_keys (map : OrderedMap α β) : map.keys.filterMap map.get? = map.values := by
  rw [keys, values, List.filterMap_map, ← List.filterMap_eq_map]
  apply List.filterMap_congr
  intro entry inside
  exact get?_eq_some_iff.mpr inside

theorem isEmpty_eq_false_iff {map : OrderedMap α β} :
    map.isEmpty = false ↔ ∃ key value, map.get? key = some value := by
  rw [isEmpty, List.isEmpty_eq_false_iff_exists_mem]
  constructor
  · rintro ⟨entry, inside⟩
    exact ⟨entry.1, entry.2, get?_eq_some_iff.mpr inside⟩
  · rintro ⟨key, value, found⟩
    exact ⟨(key, value), get?_eq_some_iff.mp found⟩

theorem isEmpty_eq_true_iff {map : OrderedMap α β} :
    map.isEmpty = true ↔ ∀ key, map.get? key = none := by
  rw [← not_iff_not, Bool.not_eq_true, isEmpty_eq_false_iff, not_forall]
  exact exists_congr fun key => Option.ne_none_iff_exists'.symm

/-- What a look-up finds among the entries that a test keeps. -/
theorem get?_filter (map : OrderedMap α β) (keep : α → β → Bool) (key : α) :
    (map.filter keep).get? key = (map.get? key).filter (keep key) := by
  ext value
  rw [Option.filter_eq_some_iff, get?_eq_some_iff, get?_eq_some_iff, filter]
  exact List.mem_filter

/-- A filter that looks at keys only decides for each key alone. -/
theorem get?_filter_key (map : OrderedMap α β) (keep : α → Bool) (key : α) :
    (map.filter fun key _ => keep key).get? key = if keep key then map.get? key else none := by
  rw [get?_filter]
  cases keep key <;> cases map.get? key <;> simp [Option.filter]

end OrderedMap

namespace OrderedSet

variable {α : Type u} [LT α]

theorem contains_empty [DecidableEq α] (member : α) :
    (∅ : OrderedSet α).contains member = false := rfl

theorem contains_iff [DecidableEq α] {set : OrderedSet α} {member : α} :
    set.contains member = true ↔ set.get? member = some () := by
  rw [OrderedMap.contains_eq_true_iff]
  exact ⟨fun ⟨_, found⟩ => found, fun found => ⟨(), found⟩⟩

theorem contains_erase [DecidableEq α] {set : OrderedSet α} {erased member : α} :
    (OrderedMap.erase set erased).contains member = true ↔
      erased ≠ member ∧ set.contains member = true := by
  rw [contains_iff, OrderedMap.get?_erase, contains_iff]
  by_cases same : erased = member <;> simp [same]

variable [StrictOrder α]

theorem nodup_toList (set : OrderedSet α) : (toList set).Nodup := OrderedMap.nodup_keys set

variable [DecidableEq α]

theorem mem_toList {set : OrderedSet α} {member : α} :
    member ∈ toList set ↔ set.contains member = true := by
  rw [toList, OrderedMap.mem_keys_iff, OrderedMap.contains_eq_true_iff]

/-- A set is determined by its members. -/
theorem ext_contains {first second : OrderedSet α}
    (same : ∀ member, first.contains member = true ↔ second.contains member = true) :
    first = second := by
  apply OrderedMap.ext_get?
  intro member
  ext value
  cases value
  rw [← contains_iff, ← contains_iff]
  exact same member

theorem isEmpty_eq_false_iff {set : OrderedSet α} :
    set.isEmpty = false ↔ ∃ member, set.contains member = true := by
  rw [OrderedMap.isEmpty_eq_false_iff]
  exact exists_congr fun member => OrderedMap.contains_eq_true_iff.symm

variable [DecidableLT α]

theorem contains_add {set : OrderedSet α} {added member : α} :
    (add set added).contains member = true ↔ added = member ∨ set.contains member = true := by
  rw [contains_iff, add, OrderedMap.get?_insert, contains_iff]
  by_cases same : added = member <;> simp [same]

theorem contains_ofList {members : List α} {member : α} :
    (ofList members).contains member = true ↔ member ∈ members := by
  have gathered : ∀ set : OrderedSet α, (members.foldl add set).contains member = true ↔
      member ∈ members ∨ set.contains member = true := by
    induction members with
    | nil => simp
    | cons first rest ih =>
      intro set
      rw [List.foldl_cons, ih, contains_add, List.mem_cons, eq_comm (a := first)]
      exact or_left_comm.trans or_assoc.symm
  rw [ofList, gathered, contains_empty]
  simp

end OrderedSet

end PartitionLedger.Collection
