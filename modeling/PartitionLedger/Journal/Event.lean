/-
# Journal events

Everything that is worth a line in the journal is one of a few events. An event
knows its level, the part of the program it comes from, its message and its
fields, in the order in which they are shown.
-/

import PartitionLedger.Cluster.Fleet
import PartitionLedger.Duration

namespace PartitionLedger

/-- How urgent an event is, the most urgent level first. -/
inductive Level where
  | error
  | warn
  | info
  | debug
  | trace
  deriving DecidableEq, Repr

namespace Level

/-- The place of a level among all levels; a filter lets through what is at most
as verbose as itself. -/
def verbosity : Level → Nat
  | error => 1
  | warn => 2
  | info => 3
  | debug => 4
  | trace => 5

/-- The name of a level in journal lines. -/
def name : Level → String
  | error => "ERROR"
  | warn => "WARN"
  | info => "INFO"
  | debug => "DEBUG"
  | trace => "TRACE"

end Level

/-- The value of a field of an event. -/
inductive FieldValue where
  | text (content : String)
  | count (number : Nat)
  | flag (value : Bool)
  deriving DecidableEq, Repr

/-- The value as it stands in a line of text. -/
def FieldValue.plain : FieldValue → String
  | .text content => content
  | .count number => toString number
  | .flag true => "true"
  | .flag false => "false"

/-- An identifier as the value of a field. -/
def Id.field {kind : IdKind} (id : Id kind) : FieldValue := .text id.text

/-- What a call to a worker is about, as its events tell it. -/
structure CallFacts where
  job : JobId
  worker : WorkerId
  disposition : Disposition
  partitionCount : Nat
  deriving DecidableEq, Repr

/-- The facts of a call. -/
def WorkerCall.facts (call : WorkerCall) : CallFacts :=
  ⟨call.job, call.worker, call.disposition, call.partitions.size⟩

/-- The fields of a call. -/
def CallFacts.fields (call : CallFacts) : List (String × FieldValue) :=
  [("job_id", call.job.field), ("worker_id", call.worker.field),
    ("action", .text call.disposition.name), ("partition_count", .count call.partitionCount)]

/-- Something worth a line in the journal. -/
inductive Event where
  | kindNotTracked (job : JobId) (worker : WorkerId) (partition : PartitionId)
      (kind : PartitionKind)
  | tracking (job : JobId) (worker : WorkerId) (partition : PartitionId) (kind : PartitionKind)
      (occupiesLocalResource : Bool)
  | forgotWorker (job : JobId) (worker : WorkerId) (partitionCount : Nat)
  | forgot (job : JobId) (requested partitionCount : Nat)
  | dispatched (job : JobId) (disposition : Disposition)
      (requested partitionCount remoteCalls unreachableWorkers externalReleases : Nat)
  | noGateway (call : CallFacts)
  | callReceived (worker : WorkerId) (disposition : Disposition)
  | callAccepted (call : CallFacts)
  | callFailed (call : CallFacts) (cause : RemoteError)
  | callTimedOut (call : CallFacts) (timeout : Nat)
  | noticeFailed (job : JobId) (partition : PartitionId) (cause : RemoteError)
  | noticeTimedOut (job : JobId) (partition : PartitionId) (timeout : Nat)
  | connected (replaced : Bool)
  | resolved (dataset : DatasetId) (descriptorCount : Nat)
  deriving DecidableEq

namespace Event

/-- How urgent the event is. -/
def level : Event → Level
  | kindNotTracked .. | tracking .. | forgot .. | callReceived .. | callAccepted .. | resolved .. =>
    .debug
  | forgotWorker .. | dispatched .. | connected .. => .info
  | noGateway .. | callFailed .. | callTimedOut .. | noticeFailed .. | noticeTimedOut .. => .warn

/-- The part of the program that the event comes from. -/
def target : Event → String
  | kindNotTracked .. | tracking .. | forgotWorker .. | forgot .. | dispatched .. =>
    "shoal_jobmaster::tracker"
  | noGateway .. | callAccepted .. | callFailed .. | callTimedOut .. | noticeFailed ..
  | noticeTimedOut .. => "shoal_jobmaster::tracker::dispatch"
  | connected .. | resolved .. => "shoal_jobmaster::tracker::directory"
  | callReceived .. => "shoal_jobmaster::testing"

/-- What happened, in words. -/
def message : Event → String
  | kindNotTracked .. => "Partition kind is not tracked"
  | tracking .. => "Tracking partition"
  | forgotWorker .. => "Stopped tracking partitions of worker"
  | forgot .. | dispatched .. => "Stopped tracking partitions"
  | noGateway .. => "No gateway for worker, skipping partition call"
  | callReceived .. => "[RECORDING] Partition call"
  | callAccepted .. => "Worker accepted partition call"
  | callFailed .. => "Partition call to worker failed"
  | callTimedOut .. => "Partition call to worker timed out"
  | noticeFailed .. => "Shuffle master failed to release partition"
  | noticeTimedOut .. => "Shuffle master release timed out"
  | connected .. => "Connected to resource manager"
  | resolved .. => "Resolved cluster partition descriptors"

/-- The fields in the order in which they are shown. -/
def fields : Event → List (String × FieldValue)
  | kindNotTracked job worker partition kind =>
    [("job_id", job.field), ("worker_id", worker.field), ("partition_id", partition.field),
      ("kind", .text kind.name)]
  | tracking job worker partition kind occupiesLocalResource =>
    [("job_id", job.field), ("worker_id", worker.field), ("partition_id", partition.field),
      ("kind", .text kind.name), ("occupies_local_resource", .flag occupiesLocalResource)]
  | forgotWorker job worker partitionCount =>
    [("job_id", job.field), ("worker_id", worker.field), ("partition_count", .count partitionCount)]
  | forgot job requested partitionCount =>
    [("job_id", job.field), ("requested", .count requested),
      ("partition_count", .count partitionCount)]
  | dispatched job disposition requested partitionCount remoteCalls unreachableWorkers
      externalReleases =>
    [("job_id", job.field), ("action", .text disposition.name), ("requested", .count requested),
      ("partition_count", .count partitionCount), ("remote_calls", .count remoteCalls),
      ("unreachable_workers", .count unreachableWorkers),
      ("external_releases", .count externalReleases)]
  | noGateway call => call.fields
  | callReceived worker disposition =>
    [("worker_id", worker.field), ("action", .text disposition.name)]
  | callAccepted call => call.fields
  | callFailed call cause => call.fields ++ [("error", .text cause.message)]
  | callTimedOut call timeout => call.fields ++ [("timeout", .text (durationText timeout))]
  | noticeFailed job partition cause =>
    [("job_id", job.field), ("partition_id", partition.field), ("error", .text cause.message)]
  | noticeTimedOut job partition timeout =>
    [("job_id", job.field), ("partition_id", partition.field),
      ("timeout", .text (durationText timeout))]
  | connected replaced => [("replaced", .flag replaced)]
  | resolved dataset descriptorCount =>
    [("dataset_id", dataset.field), ("descriptor_count", .count descriptorCount)]

end Event

end PartitionLedger
