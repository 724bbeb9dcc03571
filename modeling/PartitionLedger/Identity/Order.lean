/-
# The order of identifiers

Identifiers of one kind are ordered by their number. `compare` tells how two of them
stand to each other in that order.
-/

import PartitionLedger.Identity.Basic

namespace PartitionLedger.Id

variable {kind : IdKind}

/-- How two identifiers stand to each other. -/
instance : Ord (Id kind) := ⟨fun first second => compare first.value.toNat second.value.toNat⟩

end PartitionLedger.Id
