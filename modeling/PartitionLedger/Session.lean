/-
# Sessions

A session is the tracker of one job among its collaborators, under a virtual
clock. Calls and notices become tasks. A task starts at some later moment; its
collaborator then records the request and answers at once, or stalls, in which case
the task is abandoned when the timeout has passed since its start. Letting go of
partitions never waits for a task: the change to the ledger is complete when the
dispatch is returned.
-/

import PartitionLedger.Cluster.Directory
import PartitionLedger.Dispatch
import PartitionLedger.Ledger.Basic

namespace PartitionLedger

open Collection

/-- What a task has to get done. -/
inductive Errand where
  | call (call : WorkerCall)
  | notice (descriptor : ShuffleDescriptor)
  deriving DecidableEq

/-- A request that was issued by a dispatch and runs on its own. -/
structure Task where
  number : Nat
  /-- The number of the dispatch that issued it. -/
  dispatch : Nat
  errand : Errand
  deriving DecidableEq

/-- A started task whose collaborator stalls. -/
structure Unanswered where
  task : Task
  deadline : Nat
  deriving DecidableEq

/-- Who wrote an entry of the journal: the tracker's owner or a task. -/
inductive Origin where
  | owner
  | task (number : Nat)
  deriving DecidableEq, Repr

/-- An event with the time and the origin of its entry. -/
structure Entry where
  time : Nat
  origin : Origin
  event : Event
  deriving DecidableEq

/-- Where gateways to workers come from: the fleet, or a closure. A closure may answer
differently at every dispatch, so its answers depend on the number of earlier ones. -/
inductive Resolver where
  | fleet
  | closure (finds : Nat → WorkerId → Bool)

/-- The closure that never finds a gateway. -/
def Resolver.nowhere : Resolver := .closure fun _ _ => false

/-- The tracker of one job and everything around it. Times and the timeout are in
milliseconds. -/
structure Session where
  job : JobId
  timeout : Nat
  resolver : Resolver := .fleet
  ledger : Ledger := ∅
  fleet : Fleet := {}
  master : ShuffleMaster := {}
  directory : Directory := {}
  clock : Nat := 0
  /-- Tasks that have not started, in the order of their numbers. -/
  waiting : List Task := []
  unanswered : List Unanswered := []
  /-- Dispatches that are kept in order to be awaited later. -/
  held : List Nat := []
  dispatchCount : Nat := 0
  taskCount : Nat := 0
  journal : List Entry := []

namespace Session

/-- Write events into the journal. -/
def record (session : Session) (origin : Origin) (events : List Event) : Session :=
  { session with
    journal := session.journal ++ events.map fun event => ⟨session.clock, origin, event⟩ }

/-- A gateway to the worker is found at this moment. -/
def resolves (session : Session) (worker : WorkerId) : Bool :=
  match session.resolver with
  | .fleet => session.fleet.resolves worker
  | .closure finds => finds session.dispatchCount worker

/-! ### Tracking and forgetting -/

/-- Start tracking a deployed partition, if its kind requires it. -/
def track (session : Session) (producer : WorkerId) (deployment : Deployment) : Bool × Session :=
  let id := deployment.partitionId
  if deployment.kind.requiresTracking then
    let (tracked, ledger) := session.ledger.register (.ofDeployment producer deployment)
    (tracked, { session with ledger }.record .owner
      [.tracking session.job producer id deployment.kind deployment.occupiesLocalResource])
  else
    (false, session.record .owner [.kindNotTracked session.job producer id deployment.kind])

/-- Forget everything that a worker produced, without contacting anyone. -/
def forgetWorker (session : Session) (worker : WorkerId) : List Holding × Session :=
  let (removed, ledger) := session.ledger.removeWorker worker
  let events : List Event :=
    if removed.isEmpty then [] else [.forgotWorker session.job worker removed.length]
  (removed, { session with ledger }.record .owner events)

/-- Forget partitions, without contacting anyone. -/
def forget (session : Session) (ids : List PartitionId) : List Holding × Session :=
  let requested := OrderedSet.ofList ids
  let (removed, ledger) := session.ledger.removeAll (OrderedSet.toList requested)
  (removed, { session with ledger }.record .owner
    [.forgot session.job requested.size removed.length])

/-! ### Letting go -/

/-- The requests of a dispatch: first the calls, then the notices. -/
def errands (dispatch : Dispatch) : List Errand :=
  dispatch.calls.map .call ++ dispatch.notices.map .notice

/-- Number the requests of a dispatch as tasks. -/
def tasksFrom (number dispatch : Nat) : List Errand → List Task
  | [] => []
  | errand :: errands => ⟨number, dispatch, errand⟩ :: tasksFrom (number + 1) dispatch errands

/-- Remove partitions from the ledger and issue what has to be done about them.
The number of the dispatch is the count of earlier ones. -/
def letGo (session : Session) (disposition : Disposition) (notify : Bool)
    (ids : List PartitionId) : Dispatch × Session :=
  let requested := OrderedSet.ofList ids
  let (removed, ledger) := session.ledger.removeAll (OrderedSet.toList requested)
  let dispatch := Dispatch.issue session.job session.resolves disposition notify removed
  let tasks := tasksFrom session.taskCount session.dispatchCount (errands dispatch)
  (dispatch,
    { session with
      ledger
      waiting := session.waiting ++ tasks
      dispatchCount := session.dispatchCount + 1
      taskCount := session.taskCount + tasks.length }.record .owner
        (dispatch.events session.job requested.size))

/-- Release partitions: workers free their resources, and the shuffle master is
notified unless told otherwise. -/
def release (session : Session) (ids : List PartitionId) (notify : Bool) : Dispatch × Session :=
  session.letGo .release notify ids

/-- Promote partitions: workers keep them for the cluster, and the shuffle master is
not notified. -/
def promote (session : Session) (ids : List PartitionId) : Dispatch × Session :=
  session.letGo .promote false ids

/-! ### Tasks -/

/-- What the answer to a call puts into the journal; nothing if there is none yet. -/
def callOutcome (call : WorkerCall) : Answer → List Event
  | .accepted => [.callAccepted call.facts]
  | .failed cause => [.callFailed call.facts cause]
  | .stalled => []

/-- What the answer to a notice puts into the journal; success is not recorded. -/
def noticeOutcome (job : JobId) (partition : PartitionId) : Answer → List Event
  | .accepted => []
  | .failed cause => [.noticeFailed job partition cause]
  | .stalled => []

/-- Keep a task whose collaborator stalls until its timeout has passed. -/
def await (session : Session) (task : Task) : Answer → Session
  | .stalled =>
    { session with unanswered := session.unanswered ++ [⟨task, session.clock + session.timeout⟩] }
  | _ => session

/-- A task runs as far as it can: the request is recorded and answered, or stalls. -/
def run (session : Session) (task : Task) : Session :=
  match task.errand with
  | .call call =>
    let (answer, fleet) := session.fleet.receive call
    ({ session with fleet }.record (.task task.number)
      (.callReceived call.worker call.disposition :: callOutcome call answer)).await task answer
  | .notice descriptor =>
    let (answer, master) := session.master.receive descriptor
    ({ session with master }.record (.task task.number)
      (noticeOutcome session.job descriptor.partitionId answer)).await task answer

/-- Start the waiting task with a given number; a number that is not waiting
changes nothing. -/
def start (session : Session) (number : Nat) : Session :=
  match session.waiting.find? fun task => task.number = number with
  | none => session
  | some task =>
    { session with waiting := session.waiting.filter fun other => other.number ≠ number }.run task

/-- Start every waiting task. -/
def startAll (session : Session) : Session :=
  session.waiting.foldl run { session with waiting := [] }

/-- What a task puts into the journal when its timeout has passed. -/
def timeoutEvent (session : Session) (task : Task) : Event :=
  match task.errand with
  | .call call => .callTimedOut call.facts session.timeout
  | .notice descriptor => .noticeTimedOut session.job descriptor.partitionId session.timeout

/-- Abandon the tasks whose timeout has passed by now. -/
def expire (session : Session) : Session :=
  let due := session.unanswered.filter fun pending => pending.deadline ≤ session.clock
  { session with
    unanswered := session.unanswered.filter fun pending => session.clock < pending.deadline
    journal := session.journal ++ due.map fun pending =>
      ⟨pending.deadline, .task pending.task.number, session.timeoutEvent pending.task⟩ }

/-- The longest time that passes in one step without a task to wait for: thirty years of
365 days, in milliseconds. -/
def longestAdvance : Nat := 30 * 365 * 24 * 60 * 60 * 1000

/-- Start every waiting task, then let some time pass, thirty years at most. A task's own
timeout has no such limit. -/
def advance (session : Session) (milliseconds : Nat) : Session :=
  let started := session.startAll
  { started with clock := started.clock + Nat.min milliseconds longestAdvance }.expire

/-- The last deadline among the tasks of some dispatches, or the present time. -/
def lastDeadline (session : Session) (dispatches : List Nat) : Nat :=
  ((session.unanswered.filter fun pending => dispatches.contains pending.task.dispatch).map
    (·.deadline)).foldl max session.clock

/-- Start every waiting task, then wait until those of some dispatches are done. -/
def settle (session : Session) (dispatches : List Nat) : Session :=
  let started := session.startAll
  { started with clock := started.lastDeadline dispatches }.expire

/-- Keep the latest dispatch in order to await it later. -/
def holdLatest (session : Session) : Session :=
  { session with held := session.held ++ [session.dispatchCount - 1] }

/-- Wait for every dispatch that was kept. -/
def settleHeld (session : Session) : Session :=
  { session.settle session.held with held := [] }

/-! ### Cluster partitions -/

/-- Bind a resource manager. -/
def connect (session : Session) (name : String) : Session :=
  { session with directory := session.directory.connect name }.record .owner
    [.connected session.directory.isConnected]

/-- Ask for the cluster partitions of a dataset. Only answers are recorded. -/
def lookup (session : Session) (dataset : DatasetId) :
    Except LookupError (List ShuffleDescriptor) × Session :=
  let (result, directory) := session.directory.lookup dataset
  let events : List Event :=
    match result with
    | .ok descriptors => [.resolved dataset descriptors.length]
    | .error _ => []
  (result, { session with directory }.record .owner events)

end Session

end PartitionLedger
