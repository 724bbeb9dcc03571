/-
# The outlook of a session

What a collaborator answers costs time, leaves a task unanswered or not, and puts a line
into the journal in the name of the task. Everything else about a session is its outlook.
No move looks beyond it: from sessions of one outlook every move has the same reply and
leads to one outlook again, whatever the clocks, the timeouts and the collaborators are.
-/

import PartitionLedger.Proofs.Session.Conservation

namespace PartitionLedger

open Collection

namespace Session

/-- Everything about a session except how its collaborators answer, what time it is, which
answers are missing, and what tasks have written into the journal. -/
structure Outlook where
  standing : Standing
  traffic : Traffic
  directory : Directory
  held : List Nat
  ownerEvents : List Event

/-- What the owner has written into the journal. -/
def ownerEvents (session : Session) : List Event :=
  (session.journal.filter fun entry => entry.origin = .owner).map (·.event)

/-- The outlook of a session. -/
def outlook (session : Session) : Outlook :=
  ⟨session.standing, session.traffic, session.directory, session.held, session.ownerEvents⟩

theorem outlook_record_owner (session : Session) (events : List Event) :
    (session.record .owner events).outlook =
      { session.outlook with ownerEvents := session.ownerEvents ++ events } := by
  have written : (session.record .owner events).ownerEvents = session.ownerEvents ++ events := by
    simp [ownerEvents, record, List.filter_map, Function.comp_def]
  rw [outlook, written]
  rfl

theorem outlook_record_task (session : Session) (number : Nat) (events : List Event) :
    (session.record (.task number) events).outlook = session.outlook := by
  have written : (session.record (.task number) events).ownerEvents = session.ownerEvents := by
    simp [ownerEvents, record, List.filter_map, Function.comp_def]
  rw [outlook, written]
  rfl

theorem outlook_await (session : Session) (task : Task) (answer : Answer) :
    (session.await task answer).outlook = session.outlook := by
  cases answer <;> rfl

/-- A task that runs adds to the traffic, whatever the answer is. -/
theorem outlook_run (session : Session) (task : Task) :
    (session.run task).outlook =
      { session.outlook with traffic := session.traffic.receive task.errand } := by
  rw [run]
  cases task.errand with
  | call call =>
    rw [outlook_await, outlook_record_task]
    rfl
  | notice descriptor =>
    rw [outlook_await, outlook_record_task]
    rfl

theorem outlook_expire (session : Session) : session.expire.outlook = session.outlook := by
  have written : session.expire.ownerEvents = session.ownerEvents := by
    simp [ownerEvents, expire, List.filter_map, Function.comp_def]
  rw [outlook, written]
  rfl

/-- However much time passes, the outlook stays. -/
theorem outlook_passed (session : Session) (clock : Nat) :
    { session with clock }.expire.outlook = session.outlook :=
  outlook_expire _

theorem outlook_letGo (session : Session) (disposition : Disposition) (notify : Bool)
    (ids : List PartitionId) :
    (session.letGo disposition notify ids).2.outlook =
      let dispatch := (session.letGo disposition notify ids).1
      let tasks := tasksFrom session.taskCount session.dispatchCount (errands dispatch)
      { session.outlook with
        standing := (session.letGo disposition notify ids).2.standing
        traffic := { session.traffic with
          waiting := session.waiting ++ tasks
          taskCount := session.taskCount + tasks.length }
        ownerEvents := session.ownerEvents ++
          dispatch.events session.job (OrderedSet.ofList ids).size } :=
  outlook_record_owner _ _

theorem outlook_track (session : Session) (producer : WorkerId) (deployment : Deployment) :
    (session.track producer deployment).2.outlook =
      { session.outlook with
        standing := (session.track producer deployment).2.standing
        ownerEvents := session.ownerEvents ++
          [if deployment.kind.requiresTracking then
            .tracking session.job producer deployment.partitionId deployment.kind
              deployment.occupiesLocalResource
          else .kindNotTracked session.job producer deployment.partitionId deployment.kind] } := by
  rw [track]
  cases deployment.kind.requiresTracking with
  | false => exact outlook_record_owner _ _
  | true => exact outlook_record_owner _ _

section Alike

variable {session other : Session}

theorem outlook_waiting (same : session.outlook = other.outlook) (waiting : List Task) :
    { session with waiting }.outlook = { other with waiting }.outlook := by
  show { session.outlook with traffic := { session.outlook.traffic with waiting } } =
    { other.outlook with traffic := { other.outlook.traffic with waiting } }
  rw [same]

theorem outlook_foldl_run (same : session.outlook = other.outlook) (tasks : List Task) :
    (tasks.foldl run session).outlook = (tasks.foldl run other).outlook := by
  induction tasks generalizing session other with
  | nil => exact same
  | cons task tasks ih =>
    apply ih
    rw [outlook_run, outlook_run, same, show session.traffic = other.traffic from
      congrArg Outlook.traffic same]

theorem outlook_start (same : session.outlook = other.outlook) (number : Nat) :
    (session.start number).outlook = (other.start number).outlook := by
  have waiting : session.waiting = other.waiting := congrArg (·.traffic.waiting) same
  rw [start, start, waiting]
  split
  · exact same
  · exact outlook_foldl_run (outlook_waiting same _) [_]

theorem outlook_startAll (same : session.outlook = other.outlook) :
    session.startAll.outlook = other.startAll.outlook := by
  have waiting : session.waiting = other.waiting := congrArg (·.traffic.waiting) same
  rw [startAll, startAll, waiting]
  exact outlook_foldl_run (outlook_waiting same []) other.waiting

/-- Tasks that are waited for make no difference, though it may take a different time. -/
theorem outlook_settle (same : session.outlook = other.outlook) (dispatches : List Nat) :
    (session.settle dispatches).outlook = (other.settle dispatches).outlook := by
  rw [settle, settle, outlook_passed, outlook_passed]
  exact outlook_startAll same

theorem outlook_followUp (same : session.outlook = other.outlook) (follow : Follow) :
    (session.followUp follow).outlook = (other.followUp follow).outlook := by
  have count : session.dispatchCount = other.dispatchCount :=
    congrArg (·.standing.dispatchCount) same
  cases follow with
  | settle =>
    rw [followUp, followUp, count]
    exact outlook_settle same _
  | hold =>
    show { session.outlook with held := session.outlook.held ++ [session.dispatchCount - 1] } =
      { other.outlook with held := other.outlook.held ++ [other.dispatchCount - 1] }
    rw [same, count]
  | drop => exact same

theorem outlook_letGo_eq (same : session.outlook = other.outlook) (disposition : Disposition)
    (notify : Bool) (ids : List PartitionId) :
    (session.letGo disposition notify ids).1 = (other.letGo disposition notify ids).1 ∧
      (session.letGo disposition notify ids).2.outlook =
        (other.letGo disposition notify ids).2.outlook := by
  obtain ⟨standing, dispatch⟩ :=
    letGo_eq_of_standing_eq (congrArg Outlook.standing same) disposition notify ids
  refine ⟨dispatch, ?_⟩
  rw [outlook_letGo, outlook_letGo, standing, dispatch]
  have job : session.job = other.job := congrArg (·.standing.job) same
  have taskCount : session.taskCount = other.taskCount := congrArg (·.traffic.taskCount) same
  have count : session.dispatchCount = other.dispatchCount :=
    congrArg (·.standing.dispatchCount) same
  have waiting : session.waiting = other.waiting := congrArg (·.traffic.waiting) same
  have traffic : session.traffic = other.traffic := congrArg Outlook.traffic same
  have events : session.ownerEvents = other.ownerEvents := congrArg Outlook.ownerEvents same
  rw [same, job, taskCount, count, waiting, traffic, events]

theorem outlook_track_eq (same : session.outlook = other.outlook) (producer : WorkerId)
    (deployment : Deployment) :
    (session.track producer deployment).2.outlook =
      (other.track producer deployment).2.outlook := by
  have standing : session.standing = other.standing := congrArg Outlook.standing same
  have job : session.job = other.job := congrArg Standing.job standing
  have ledger : session.ledger = other.ledger := congrArg Standing.ledger standing
  have events : session.ownerEvents = other.ownerEvents := congrArg Outlook.ownerEvents same
  rw [outlook_track, outlook_track, standing_track, standing_track, same, standing, job, ledger,
    events]

theorem outlook_record (same : session.outlook = other.outlook) {events events' : List Event}
    (written : events = events') :
    (session.record .owner events).outlook = (other.record .owner events').outlook := by
  rw [outlook_record_owner, outlook_record_owner, same, written,
    show session.ownerEvents = other.ownerEvents from congrArg Outlook.ownerEvents same]

theorem outlook_ledger (same : session.outlook = other.outlook) (ledger : Ledger) :
    { session with ledger }.outlook = { other with ledger }.outlook := by
  show { session.outlook with standing := { session.outlook.standing with ledger } } =
    { other.outlook with standing := { other.outlook.standing with ledger } }
  rw [same]

theorem outlook_directory (same : session.outlook = other.outlook) (directory : Directory) :
    { session with directory }.outlook = { other with directory }.outlook := by
  show { session.outlook with directory } = { other.outlook with directory }
  rw [same]

/-- From sessions of one outlook, a move has the same reply and leads to one outlook. -/
theorem outlook_act (same : session.outlook = other.outlook) (move : Move) :
    (session.act move).1 = (other.act move).1 ∧
      (session.act move).2.outlook = (other.act move).2.outlook := by
  have job : session.job = other.job := congrArg (·.standing.job) same
  have ledger : session.ledger = other.ledger := congrArg (·.standing.ledger) same
  have directory : session.directory = other.directory := congrArg Outlook.directory same
  have held : session.held = other.held := congrArg Outlook.held same
  cases move with
  | start number => exact ⟨rfl, outlook_start same number⟩
  | pass milliseconds =>
    exact ⟨rfl, (outlook_passed session _).trans (same.trans (outlook_passed other _).symm)⟩
  | await dispatches =>
    exact ⟨rfl, (outlook_passed session _).trans (same.trans (outlook_passed other _).symm)⟩
  | command command =>
    cases command with
    | track producer deployment =>
      have reply : (session.track producer deployment).1 = (other.track producer deployment).1 := by
        rw [track_fst, track_fst]
      exact ⟨congrArg Reply.tracked reply, outlook_track_eq same producer deployment⟩
    | forgetWorker worker =>
      simp only [act, perform, forgetWorker, ledger]
      exact ⟨trivial, outlook_record (outlook_ledger same _) (by rw [job])⟩
    | forget ids =>
      simp only [act, perform, forget, ledger]
      exact ⟨trivial, outlook_record (outlook_ledger same _) (by rw [job])⟩
    | release ids notify follow =>
      obtain ⟨dispatch, next⟩ := outlook_letGo_eq same .release notify ids
      exact ⟨congrArg Reply.dispatched dispatch, outlook_followUp next follow⟩
    | promote ids follow =>
      obtain ⟨dispatch, next⟩ := outlook_letGo_eq same .promote false ids
      exact ⟨congrArg Reply.dispatched dispatch, outlook_followUp next follow⟩
    | settleHeld =>
      refine ⟨rfl, ?_⟩
      show { (session.settle session.held).outlook with held := [] } =
        { (other.settle other.held).outlook with held := [] }
      rw [held, outlook_settle same]
    | advance milliseconds =>
      have started := outlook_startAll same
      exact ⟨rfl, (outlook_passed session.startAll _).trans
        (started.trans (outlook_passed other.startAll _).symm)⟩
    | markUnreachable worker =>
      refine ⟨rfl, ?_⟩
      show { session.outlook with
          standing := { session.outlook.standing with
            unreachable := OrderedSet.add session.outlook.standing.unreachable worker } } =
        { other.outlook with
          standing := { other.outlook.standing with
            unreachable := OrderedSet.add other.outlook.standing.unreachable worker } }
      rw [same]
    | makeTrouble | stallNotices | failNotices => exact ⟨rfl, same⟩
    | connect through manager =>
      simp only [act, perform, connect, directory]
      exact ⟨trivial, outlook_record (outlook_directory same _) rfl⟩
    | provide manager dataset descriptors =>
      simp only [act, perform, directory]
      exact ⟨trivial, outlook_directory same _⟩
    | failManager manager cause =>
      simp only [act, perform, directory]
      exact ⟨trivial, outlook_directory same _⟩
    | lookup through dataset =>
      simp only [act, perform, lookup, directory]
      exact ⟨trivial, outlook_record (outlook_directory same _) rfl⟩

end Alike

end Session

end PartitionLedger
