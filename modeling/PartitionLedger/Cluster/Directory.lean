/-
# The directory of cluster partitions

Cluster partitions of other jobs are known to the resource manager only. The
directory is bound to at most one resource manager; binding another one replaces
it, and every handle on the directory sees the latest binding. A resource manager
records each request before it answers, with its failure if one was ever set.
-/

import PartitionLedger.Cluster.Failure
import PartitionLedger.Partition.Descriptor
import PartitionLedger.Collection.OrderedMap

namespace PartitionLedger

open Collection

/-- A resource manager that serves prepared descriptors. -/
structure ResourceManager where
  descriptors : OrderedMap DatasetId (List ShuffleDescriptor) := ∅
  failure : Option RemoteError := none
  /-- The datasets asked for so far, in order. -/
  requested : List DatasetId := []

namespace ResourceManager

/-- What the resource manager knows about a dataset. -/
def answer (manager : ResourceManager) (dataset : DatasetId) :
    Except RemoteError (List ShuffleDescriptor) :=
  match manager.failure with
  | some cause => .error cause
  | none => .ok ((manager.descriptors.get? dataset).getD [])

/-- Record a request. -/
def record (manager : ResourceManager) (dataset : DatasetId) : ResourceManager :=
  { manager with requested := manager.requested ++ [dataset] }

/-- Prepare the descriptors of a dataset, in place of earlier ones. -/
def provide (manager : ResourceManager) (dataset : DatasetId)
    (descriptors : List ShuffleDescriptor) : ResourceManager :=
  { manager with descriptors := manager.descriptors.insert dataset descriptors }

/-- Answer every later request with a failure. -/
def failWith (manager : ResourceManager) (cause : RemoteError) : ResourceManager :=
  { manager with failure := some cause }

end ResourceManager

/-- What the directory is used through: the tracker, or one of the handles that were
given out. There is one binding for all of them. -/
inductive Handle where
  | tracker
  | given (number : Nat)
  deriving DecidableEq, Repr

/-- The resource managers by name, and the one that is bound. -/
structure Directory where
  managers : OrderedMap String ResourceManager := ∅
  bound : Option String := none

namespace Directory

/-- A resource manager; one not mentioned before is new. -/
def manager (directory : Directory) (name : String) : ResourceManager :=
  (directory.managers.get? name).getD {}

/-- Change a resource manager. -/
def change (directory : Directory) (name : String) (change : ResourceManager → ResourceManager) :
    Directory :=
  { directory with managers := directory.managers.insert name (change (directory.manager name)) }

/-- A resource manager is bound. -/
def isConnected (directory : Directory) : Bool := directory.bound.isSome

/-- Bind a resource manager. -/
def connect (directory : Directory) (name : String) : Directory :=
  { directory with bound := some name }

/-- Ask the bound resource manager for the cluster partitions of a dataset. -/
def lookup (directory : Directory) (dataset : DatasetId) :
    Except LookupError (List ShuffleDescriptor) × Directory :=
  match directory.bound with
  | none => (.error .notConnected, directory)
  | some name =>
    ((directory.manager name).answer dataset |>.mapError .resourceManager,
      directory.change name (·.record dataset))

/-- How the directory shows itself. -/
def text (directory : Directory) : String :=
  "ClusterPartitionDirectory \x7b connected: " ++
    (if directory.isConnected then "true" else "false") ++ " \x7d"

end Directory

end PartitionLedger
