/-
# Lists in ascending order

A list is put in ascending order by a stable sort. Members that are not comparable
stay in the order in which they came; under a strict order those are equal members,
so the result depends on the members alone.
-/

import PartitionLedger.Collection.Sorted

namespace PartitionLedger.Collection

universe u

/-- The members of a list in ascending order, repeated ones included. -/
def ranked {α : Type u} [LT α] [DecidableLT α] (members : List α) : List α :=
  members.mergeSort fun first second => !decide (second < first)

end PartitionLedger.Collection
