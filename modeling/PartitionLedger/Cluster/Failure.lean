/-
# Failures of collaborators

A worker, the shuffle master or the resource manager may be out of reach, refuse a
request or fail inside. A look-up of cluster partitions fails so, or because no
resource manager is bound.
-/

namespace PartitionLedger

/-- A failure that a collaborator reports. -/
inductive RemoteError where
  | unreachable (text : String)
  | rejected (text : String)
  | internal (text : String)
  deriving DecidableEq, Repr

/-- The wording of a failure. -/
def RemoteError.message : RemoteError → String
  | unreachable text => "endpoint unreachable: " ++ text
  | rejected text => "request rejected: " ++ text
  | internal text => "internal error: " ++ text

/-- Why a look-up of cluster partitions fails. -/
inductive LookupError where
  | notConnected
  | resourceManager (cause : RemoteError)
  deriving DecidableEq, Repr

namespace LookupError

/-- The wording of a failed look-up. -/
def message : LookupError → String
  | notConnected => "not connected to a resource manager"
  | resourceManager cause => "resource manager request failed: " ++ cause.message

/-- The wording of the failure underneath, if there is one. -/
def source? : LookupError → Option String
  | notConnected => none
  | resourceManager cause => some cause.message

/-- No resource manager is bound. -/
def isNotConnected : LookupError → Bool
  | notConnected => true
  | resourceManager _ => false

end LookupError

end PartitionLedger
