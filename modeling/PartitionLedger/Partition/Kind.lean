/-
# Kinds of partitions

How a partition is written and consumed decides whether anyone has to account
for it. A pipelined partition is consumed while it is produced and leaves nothing
behind; the others must be let go of explicitly. A persistent blocking partition
outlives its job and belongs to the cluster from then on.
-/

namespace PartitionLedger

/-- How a partition is written and consumed. -/
inductive PartitionKind where
  | pipelined
  | blocking
  | pipelinedApproximate
  | blockingPersistent
  deriving DecidableEq, Repr

namespace PartitionKind

/-- Every kind, in the order in which error messages list them. -/
def all : List PartitionKind := [pipelined, blocking, pipelinedApproximate, blockingPersistent]

/-- The name of a kind in texts. -/
def name : PartitionKind → String
  | pipelined => "pipelined"
  | blocking => "blocking"
  | pipelinedApproximate => "pipelined_approximate"
  | blockingPersistent => "blocking_persistent"

/-- The kind of a name. -/
def ofName? (text : String) : Option PartitionKind := all.find? fun kind => kind.name = text

/-- Partitions of this kind leave something behind that must be let go of. -/
def requiresTracking : PartitionKind → Bool
  | pipelined => false
  | blocking | pipelinedApproximate | blockingPersistent => true

/-- Partitions of this kind outlive their job. -/
def isCluster : PartitionKind → Bool
  | blockingPersistent => true
  | pipelined | blocking | pipelinedApproximate => false

theorem ofName?_name (kind : PartitionKind) : ofName? kind.name = some kind := by
  cases kind <;> decide

end PartitionKind

end PartitionLedger
