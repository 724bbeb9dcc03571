/-
# Fresh identifiers

A fresh identifier carries the time of its creation in its upper 48 bits and
entropy in the lower 80. The source of both is a value: drawing an identifier
returns the source with its entropy moved on, so that successive draws differ.
-/

import PartitionLedger.Identity.Basic

namespace PartitionLedger

/-- Where fresh identifiers take their bits from. -/
structure IdSource where
  milliseconds : Nat
  entropy : Nat
  deriving DecidableEq, Repr

namespace IdSource

/-- The identifier that the source gives out next. -/
def fresh (source : IdSource) (kind : IdKind) : Id kind :=
  ⟨BitVec.ofNat 48 source.milliseconds ++ BitVec.ofNat 80 source.entropy⟩

/-- The source after one identifier was drawn. -/
def advance (source : IdSource) : IdSource := { source with entropy := source.entropy + 1 }

/-- Draw several identifiers. -/
def draw (source : IdSource) (kind : IdKind) : Nat → List (Id kind) × IdSource
  | 0 => ([], source)
  | count + 1 =>
    let (later, rest) := source.advance.draw kind count
    (source.fresh kind :: later, rest)

end IdSource

end PartitionLedger
