/-
# Association lists in ascending key order

A finite map is kept as the list of its entries in ascending order of their
keys. The order makes the representation canonical: two such lists that answer
every look-up alike are the same list, so equality of maps is equality of data.
Insertion keeps the order, erasure only drops entries.
-/

namespace PartitionLedger.Collection

universe u v

/-- A strict order in which any two different keys are comparable. It is what
an ascending list needs in order to hold each key at most once. -/
class StrictOrder (α : Type u) [LT α] : Prop where
  irrefl : ∀ a : α, ¬ a < a
  trans : ∀ a b c : α, a < b → b < c → a < c
  connected : ∀ a b : α, ¬ a < b → ¬ b < a → a = b

instance : StrictOrder Nat where
  irrefl := Nat.lt_irrefl
  trans _ _ _ := Nat.lt_trans
  connected _ _ notLess notGreater :=
    Nat.le_antisymm (Nat.le_of_not_lt notGreater) (Nat.le_of_not_lt notLess)

instance : StrictOrder String where
  irrefl := String.lt_irrefl
  trans _ _ _ := String.lt_trans
  connected _ _ notLess notGreater :=
    String.le_antisymm (String.not_lt.mp notGreater) (String.not_lt.mp notLess)

namespace Sorted

variable {α : Type u} {β : Type v}

/-- Keys ascend strictly from the front of the list to its end. -/
def Ascending [LT α] (entries : List (α × β)) : Prop :=
  entries.Pairwise fun first second => first.1 < second.1

/-- The value stored under a key, if the key is present. -/
def lookup [DecidableEq α] (key : α) : List (α × β) → Option β
  | [] => none
  | entry :: rest => if entry.1 = key then some entry.2 else lookup key rest

/-- Store a value under a key, in place of any value already stored there. -/
def insert [LT α] [DecidableLT α] (key : α) (value : β) : List (α × β) → List (α × β)
  | [] => [(key, value)]
  | entry :: rest =>
    if key < entry.1 then (key, value) :: entry :: rest
    else if entry.1 < key then entry :: insert key value rest
    else (key, value) :: rest

/-- Drop the entry of a key; a key that is absent changes nothing. -/
def erase [DecidableEq α] (key : α) (entries : List (α × β)) : List (α × β) :=
  entries.filter fun entry => entry.1 ≠ key

/-- Every key of the list after an insertion is the new key or an old one. -/
theorem mem_of_mem_insert [LT α] [DecidableLT α] {key : α} {value : β} {entries : List (α × β)}
    {entry : α × β} (member : entry ∈ insert key value entries) :
    entry = (key, value) ∨ entry ∈ entries := by
  induction entries with
  | nil => simpa [insert] using member
  | cons first rest ih =>
    simp only [insert] at member
    split at member
    · simpa using member
    · split at member
      · rcases List.mem_cons.mp member with rfl | inRest
        · exact Or.inr List.mem_cons_self
        · rcases ih inRest with rfl | old
          · exact Or.inl rfl
          · exact Or.inr (List.mem_cons_of_mem _ old)
      · rcases List.mem_cons.mp member with rfl | inRest
        · exact Or.inl rfl
        · exact Or.inr (List.mem_cons_of_mem _ inRest)

/-- Insertion keeps the keys ascending. -/
theorem ascending_insert [LT α] [DecidableLT α] [StrictOrder α] (key : α) (value : β)
    {entries : List (α × β)} (ascending : Ascending entries) :
    Ascending (insert key value entries) := by
  induction entries with
  | nil => exact List.pairwise_singleton _ _
  | cons first rest ih =>
    obtain ⟨firstLess, restAscending⟩ := List.pairwise_cons.mp ascending
    simp only [insert]
    split
    · rename_i less
      refine List.pairwise_cons.mpr ⟨?_, ascending⟩
      intro entry member
      rcases List.mem_cons.mp member with rfl | inRest
      · exact less
      · exact StrictOrder.trans _ _ _ less (firstLess entry inRest)
    · rename_i notLess
      split
      · rename_i greater
        refine List.pairwise_cons.mpr ⟨?_, ih restAscending⟩
        intro entry member
        rcases mem_of_mem_insert member with rfl | old
        · exact greater
        · exact firstLess entry old
      · rename_i notGreater
        have same : key = first.1 := StrictOrder.connected _ _ notLess notGreater
        refine List.pairwise_cons.mpr ⟨?_, restAscending⟩
        intro entry member
        simpa [same] using firstLess entry member

/-- Erasure keeps the keys ascending. -/
theorem ascending_erase [LT α] [DecidableEq α] (key : α) {entries : List (α × β)}
    (ascending : Ascending entries) : Ascending (erase key entries) :=
  List.Pairwise.filter _ ascending

/-- What a look-up finds after an insertion. -/
theorem lookup_insert [LT α] [DecidableLT α] [DecidableEq α] [StrictOrder α] (key other : α)
    (value : β) (entries : List (α × β)) :
    lookup other (insert key value entries) =
      if key = other then some value else lookup other entries := by
  induction entries with
  | nil => simp [insert, lookup]
  | cons first rest ih =>
    simp only [insert]
    split
    · simp [lookup]
    · rename_i notLess
      split
      · rename_i greater
        simp only [lookup, ih]
        by_cases found : first.1 = other
        · have different : key ≠ other := by
            intro same
            exact StrictOrder.irrefl other (by simpa [found, same] using greater)
          simp [found, different]
        · simp [found]
      · rename_i notGreater
        have same : key = first.1 := StrictOrder.connected _ _ notLess notGreater
        simp only [lookup, ← same]
        by_cases found : key = other <;> simp [found]

/-- What a look-up finds after an erasure. -/
theorem lookup_erase [DecidableEq α] (key other : α) (entries : List (α × β)) :
    lookup other (erase key entries) = if key = other then none else lookup other entries := by
  induction entries with
  | nil => simp [erase, lookup]
  | cons first rest ih =>
    simp only [erase] at ih ⊢
    by_cases gone : first.1 = key
    · rw [List.filter_cons_of_neg (by simpa using gone), ih]
      by_cases same : key = other
      · simp [same]
      · have different : first.1 ≠ other := fun equal => same (gone.symm.trans equal)
        simp [same, lookup, different]
    · rw [List.filter_cons_of_pos (by simpa using gone)]
      simp only [lookup, ih]
      by_cases found : first.1 = other
      · have different : key ≠ other := fun equal => gone (found.trans equal.symm)
        simp [found, different]
      · simp [found]

/-- In an ascending list a look-up finds exactly the entries that are there. -/
theorem lookup_eq_some_iff [LT α] [DecidableEq α] [StrictOrder α] {key : α} {value : β}
    {entries : List (α × β)} (ascending : Ascending entries) :
    lookup key entries = some value ↔ (key, value) ∈ entries := by
  induction entries with
  | nil => simp [lookup]
  | cons first rest ih =>
    obtain ⟨firstLess, restAscending⟩ := List.pairwise_cons.mp ascending
    simp only [lookup, List.mem_cons]
    by_cases found : first.1 = key
    · simp only [found, if_true, Option.some.injEq]
      constructor
      · rintro rfl
        exact Or.inl (by rw [← found])
      · rintro (here | later)
        · rw [← here]
        · exact absurd (by simpa [found] using firstLess _ later) (StrictOrder.irrefl key)
    · simp only [found, if_false, ih restAscending]
      constructor
      · exact Or.inr
      · rintro (here | later)
        · exact absurd (by rw [← here]) found
        · exact later

/-- Ascending lists with the same entries are equal, so the list is a canonical
form of the map it stands for. -/
theorem eq_of_mem_iff [LT α] [StrictOrder α] {first second : List (α × β)}
    (firstAscending : Ascending first) (secondAscending : Ascending second)
    (same : ∀ entry, entry ∈ first ↔ entry ∈ second) : first = second := by
  induction first generalizing second with
  | nil =>
    cases second with
    | nil => rfl
    | cons head tail => exact absurd ((same head).mpr List.mem_cons_self) List.not_mem_nil
  | cons head tail ih =>
    cases second with
    | nil => exact absurd ((same head).mp List.mem_cons_self) List.not_mem_nil
    | cons head' tail' =>
      obtain ⟨headLess, tailAscending⟩ := List.pairwise_cons.mp firstAscending
      obtain ⟨headLess', tailAscending'⟩ := List.pairwise_cons.mp secondAscending
      have heads : head = head' := by
        rcases List.mem_cons.mp ((same head).mp List.mem_cons_self) with equal | later
        · exact equal
        rcases List.mem_cons.mp ((same head').mpr List.mem_cons_self) with equal | later'
        · exact equal.symm
        exact absurd (StrictOrder.trans _ _ _ (headLess' head later) (headLess head' later'))
          (StrictOrder.irrefl _)
      subst heads
      refine congrArg (head :: ·) (ih tailAscending tailAscending' fun entry => ?_)
      constructor
      · intro member
        rcases List.mem_cons.mp ((same entry).mp (List.mem_cons_of_mem _ member)) with rfl | later
        · exact absurd (headLess entry member) (StrictOrder.irrefl _)
        · exact later
      · intro member
        rcases List.mem_cons.mp ((same entry).mpr (List.mem_cons_of_mem _ member)) with rfl | later
        · exact absurd (headLess' entry member) (StrictOrder.irrefl _)
        · exact later

end Sorted

end PartitionLedger.Collection
