/-
# Requests are neither lost nor doubled

A dispatch turns its calls and notices into tasks. At every moment the requests that the
collaborators have recorded and those of the tasks that still wait are together the
requests of all dispatches so far, each as often as it was issued. Tasks are found by
their numbers, so the invariant includes that no two waiting tasks share one.

What is issued is a matter of the orders alone. Once nothing waits, two schedules with the
same orders have therefore had the same requests recorded, in whatever order their tasks
started and whatever was done with the dispatches. A request outlives the removal that it
is about: a partition that it names can only be tracked again after a new registration.
-/

import Mathlib.Data.List.Perm.Basic
import PartitionLedger.Proofs.Session.Orders

namespace PartitionLedger

open Collection

/-- A request as the collaborators record it. -/
inductive Request where
  | call (call : WorkerCall)
  | notice (partition : PartitionId)

namespace Request

/-- The call, if the request is one. -/
def call? : Request → Option WorkerCall
  | .call asked => some asked
  | .notice _ => none

/-- The partition of the notice, if the request is one. -/
def notice? : Request → Option PartitionId
  | .call _ => none
  | .notice partition => some partition

/-- The request is about the partition, possibly among others. -/
def Names (id : PartitionId) : Request → Prop
  | .call asked => asked.partitions.contains id = true
  | .notice partition => partition = id

end Request

/-- What the collaborator will record of an errand. -/
def Errand.request : Errand → Request
  | .call asked => .call asked
  | .notice descriptor => .notice descriptor.partitionId

/-- The requests that a dispatch issues. -/
def Dispatch.requests (dispatch : Dispatch) : List Request :=
  (Session.errands dispatch).map Errand.request

/-- The part of a session that its requests pass through. -/
structure Traffic where
  calls : List WorkerCall
  released : List PartitionId
  waiting : List Task
  taskCount : Nat

namespace Dispatch

variable (dispatch : Dispatch)

theorem requests_eq : dispatch.requests =
    dispatch.calls.map .call ++ dispatch.notices.map fun descriptor =>
      .notice descriptor.partitionId := by
  rw [requests, Session.errands, List.map_append, List.map_map, List.map_map]
  rfl

@[simp]
theorem filterMap_call?_requests : dispatch.requests.filterMap Request.call? = dispatch.calls := by
  simp [requests_eq, List.filterMap_append, List.filterMap_map, Function.comp_def, Request.call?]

@[simp]
theorem filterMap_notice?_requests :
    dispatch.requests.filterMap Request.notice? = dispatch.notices.map (·.partitionId) := by
  simp [requests_eq, List.filterMap_append, List.filterMap_map, Function.comp_def,
    Request.notice?]

/-- A partition that a request names has left the ledger. -/
theorem mem_untracked_of_names {job : JobId} {resolves : WorkerId → Bool}
    {disposition : Disposition} {notify : Bool} {removed : List Holding} {request : Request}
    (issued : request ∈ (issue job resolves disposition notify removed).requests)
    {id : PartitionId} (names : request.Names id) :
    id ∈ (issue job resolves disposition notify removed).untracked := by
  rw [requests_eq, List.mem_append, List.mem_map, List.mem_map] at issued
  rcases issued with ⟨call, called, rfl⟩ | ⟨descriptor, noticed, rfl⟩
  · exact mem_issue_untracked_of_sends job resolves disposition notify removed
      ⟨call, called, rfl, names⟩
  · cases names
    cases notify with
    | false => exact absurd noticed List.not_mem_nil
    | true =>
      obtain ⟨holding, inside, rfl⟩ := List.mem_map.mp noticed
      exact List.mem_map.mpr ⟨holding, inside, rfl⟩

end Dispatch

namespace Session

theorem errand_tasksFrom (number dispatch : Nat) (errands : List Errand) :
    (tasksFrom number dispatch errands).map (·.errand) = errands := by
  induction errands generalizing number with
  | nil => rfl
  | cons errand errands ih => rw [tasksFrom, List.map_cons, ih]

theorem number_tasksFrom (number dispatch : Nat) (errands : List Errand) :
    (tasksFrom number dispatch errands).map (·.number) =
      List.range' number (tasksFrom number dispatch errands).length := by
  induction errands generalizing number with
  | nil => rfl
  | cons errand errands ih => rw [tasksFrom, List.map_cons, ih, List.length_cons, List.range'_succ]

/-- The traffic of a session. -/
def traffic (session : Session) : Traffic :=
  ⟨session.fleet.calls, session.master.released, session.waiting, session.taskCount⟩

end Session

namespace Traffic

/-- The requests that the collaborators have recorded. -/
def recorded (traffic : Traffic) : List Request :=
  traffic.calls.map .call ++ traffic.released.map .notice

/-- The requests of the tasks that have not started. -/
def pending (traffic : Traffic) : List Request :=
  traffic.waiting.map fun task => task.errand.request

/-- The collaborator of an errand records it. -/
def receive (traffic : Traffic) : Errand → Traffic
  | .call call => { traffic with calls := traffic.calls ++ [call] }
  | .notice descriptor => { traffic with released := traffic.released ++ [descriptor.partitionId] }

/-- What dispatches have issued is recorded or waits, and waiting tasks can be told apart,
from each other and from later ones. -/
structure Balanced (traffic : Traffic) (issued : List Dispatch) : Prop where
  requests : (traffic.recorded ++ traffic.pending).Perm (issued.flatMap (·.requests))
  distinct : (traffic.waiting.map (·.number)).Nodup
  below : ∀ task ∈ traffic.waiting, task.number < traffic.taskCount

@[simp]
theorem filterMap_call?_recorded (traffic : Traffic) :
    traffic.recorded.filterMap Request.call? = traffic.calls := by
  simp [recorded, List.filterMap_append, List.filterMap_map, Function.comp_def, Request.call?]

@[simp]
theorem filterMap_notice?_recorded (traffic : Traffic) :
    traffic.recorded.filterMap Request.notice? = traffic.released := by
  simp [recorded, List.filterMap_append, List.filterMap_map, Function.comp_def, Request.notice?]

theorem recorded_receive (traffic : Traffic) (errand : Errand) :
    (traffic.receive errand).recorded.Perm (traffic.recorded ++ [errand.request]) := by
  cases errand with
  | call call =>
    rw [recorded, receive, recorded, List.map_append, List.append_assoc, List.append_assoc]
    exact List.Perm.append_left _ List.perm_append_comm
  | notice descriptor =>
    rw [recorded, receive, recorded, List.map_append, ← List.append_assoc]
    rfl

theorem recorded_foldl_receive (traffic : Traffic) (tasks : List Task) :
    (tasks.foldl (fun traffic task => traffic.receive task.errand) traffic).recorded.Perm
      (traffic.recorded ++ tasks.map fun task => task.errand.request) := by
  induction tasks generalizing traffic with
  | nil => simp
  | cons task tasks ih =>
    rw [List.foldl_cons, List.map_cons, List.append_cons]
    exact (ih _).trans ((traffic.recorded_receive task.errand).append_right _)

@[simp]
theorem waiting_receive (traffic : Traffic) (errand : Errand) :
    (traffic.receive errand).waiting = traffic.waiting := by
  cases errand <;> rfl

@[simp]
theorem taskCount_receive (traffic : Traffic) (errand : Errand) :
    (traffic.receive errand).taskCount = traffic.taskCount := by
  cases errand <;> rfl

@[simp]
theorem waiting_foldl_receive (traffic : Traffic) (tasks : List Task) :
    (tasks.foldl (fun traffic task => traffic.receive task.errand) traffic).waiting =
      traffic.waiting := by
  induction tasks generalizing traffic with
  | nil => rfl
  | cons task tasks ih => rw [List.foldl_cons, ih, waiting_receive]

/-- Tasks with different numbers are found by them. -/
theorem perm_cons_filter {tasks : List Task} (distinct : (tasks.map (·.number)).Nodup)
    {task : Task} (inside : task ∈ tasks) :
    tasks.Perm (task :: tasks.filter fun other => other.number ≠ task.number) := by
  have others : (tasks.filter fun other => other.number ≠ task.number) = tasks.erase task := by
    rw [(List.Nodup.of_map _ distinct).erase_eq_filter]
    apply List.filter_congr
    intro other inside'
    rw [bne, decide_not]
    congr 1
    exact decide_eq_decide.mpr
      ⟨fun same => List.inj_on_of_nodup_map distinct inside' inside same, congrArg _⟩
  rw [others]
  exact List.perm_cons_erase inside

namespace Balanced

variable {traffic : Traffic} {issued : List Dispatch}

/-- A dispatch turns its requests into tasks. -/
theorem issue (balanced : traffic.Balanced issued) (dispatch : Dispatch) {tasks : List Task}
    {number : Nat}
    (made : tasks = Session.tasksFrom traffic.taskCount number (Session.errands dispatch)) :
    Balanced { traffic with
      waiting := traffic.waiting ++ tasks
      taskCount := traffic.taskCount + tasks.length } (issued ++ [dispatch]) := by
  have asked : tasks.map (fun task => task.errand.request) = dispatch.requests := by
    rw [Dispatch.requests, ← Session.errand_tasksFrom traffic.taskCount number
      (Session.errands dispatch), List.map_map, made]
    rfl
  have numbers : tasks.map (·.number) = List.range' traffic.taskCount tasks.length := by
    rw [made]
    exact Session.number_tasksFrom _ _ _
  constructor
  case requests =>
    rw [pending, List.map_append, asked, ← List.append_assoc, List.flatMap_append,
      List.flatMap_singleton]
    exact balanced.requests.append_right _
  case distinct =>
    rw [List.map_append, numbers, List.nodup_append]
    refine ⟨balanced.distinct, List.nodup_range', ?_⟩
    rintro earlier old later new rfl
    obtain ⟨task, inside, rfl⟩ := List.mem_map.mp old
    have := balanced.below task inside
    rw [List.mem_range'_1] at new
    omega
  case below =>
    intro task inside
    rcases List.mem_append.mp inside with old | new
    · exact Nat.lt_add_right _ (balanced.below task old)
    · have listed := List.mem_map_of_mem (f := (·.number)) new
      rw [numbers, List.mem_range'_1] at listed
      exact listed.2

/-- A waiting task starts. -/
theorem start (balanced : traffic.Balanced issued) {task : Task} (inside : task ∈ traffic.waiting) :
    Balanced ({ traffic with
      waiting := traffic.waiting.filter fun other => other.number ≠ task.number }.receive
        task.errand) issued := by
  have moved := perm_cons_filter balanced.distinct inside
  constructor
  case requests =>
    refine List.Perm.trans ?_ balanced.requests
    refine ((recorded_receive _ _).append_right _).trans ?_
    rw [pending, waiting_receive, List.append_assoc]
    apply List.Perm.append_left
    exact (moved.map fun task => task.errand.request).symm
  case distinct =>
    rw [waiting_receive]
    exact balanced.distinct.sublist (List.filter_sublist.map _)
  case below =>
    rw [waiting_receive, taskCount_receive]
    intro other kept
    exact balanced.below other (List.mem_of_mem_filter kept)

/-- Every waiting task starts. -/
theorem startAll (balanced : traffic.Balanced issued) :
    Balanced (traffic.waiting.foldl (fun traffic task => traffic.receive task.errand)
      { traffic with waiting := [] }) issued := by
  constructor
  case requests =>
    refine List.Perm.trans ?_ balanced.requests
    rw [pending, waiting_foldl_receive, List.map_nil, List.append_nil]
    exact recorded_foldl_receive _ _
  case distinct =>
    rw [waiting_foldl_receive]
    exact List.nodup_nil
  case below =>
    rw [waiting_foldl_receive]
    exact fun _ inside => absurd inside List.not_mem_nil

/-- No call is lost or doubled. -/
theorem calls (balanced : traffic.Balanced issued) :
    (traffic.calls ++ traffic.pending.filterMap Request.call?).Perm (issued.flatMap (·.calls)) := by
  have kept := balanced.requests.filterMap Request.call?
  rw [List.filterMap_append, filterMap_call?_recorded, List.filterMap_flatMap] at kept
  simpa only [Dispatch.filterMap_call?_requests] using kept

/-- No notice is lost or doubled. -/
theorem notices (balanced : traffic.Balanced issued) :
    (traffic.released ++ traffic.pending.filterMap Request.notice?).Perm
      (issued.flatMap fun dispatch => dispatch.notices.map (·.partitionId)) := by
  have kept := balanced.requests.filterMap Request.notice?
  rw [List.filterMap_append, filterMap_notice?_recorded, List.filterMap_flatMap] at kept
  simpa only [Dispatch.filterMap_notice?_requests] using kept

end Balanced

end Traffic

namespace Session

/-! ### Requests along a schedule -/

theorem traffic_await (session : Session) (task : Task) (answer : Answer) :
    (session.await task answer).traffic = session.traffic := by
  cases answer <;> rfl

theorem traffic_run (session : Session) (task : Task) :
    (session.run task).traffic = session.traffic.receive task.errand := by
  rw [run]
  cases task.errand with
  | call call => exact traffic_await _ _ _
  | notice descriptor => exact traffic_await _ _ _

theorem traffic_foldl_run (session : Session) (tasks : List Task) :
    (tasks.foldl run session).traffic =
      tasks.foldl (fun traffic task => traffic.receive task.errand) session.traffic := by
  induction tasks generalizing session with
  | nil => rfl
  | cons task tasks ih => rw [List.foldl_cons, List.foldl_cons, ih, traffic_run]

theorem waiting_startAll (session : Session) : session.startAll.waiting = [] := by
  have waiting : session.startAll.traffic.waiting = [] := by
    rw [startAll, traffic_foldl_run, Traffic.waiting_foldl_receive]
    rfl
  exact waiting

section Balanced

variable {session : Session} {issued : List Dispatch}

theorem balanced_start (balanced : session.traffic.Balanced issued) (number : Nat) :
    (session.start number).traffic.Balanced issued := by
  rw [start]
  cases found : session.waiting.find? fun task => task.number = number with
  | none => exact balanced
  | some task =>
    obtain rfl : task.number = number := by simpa using List.find?_some found
    rw [traffic_run]
    exact balanced.start (List.mem_of_find?_eq_some found)

theorem balanced_startAll (balanced : session.traffic.Balanced issued) :
    session.startAll.traffic.Balanced issued := by
  rw [startAll, traffic_foldl_run]
  exact balanced.startAll

theorem balanced_followUp (balanced : session.traffic.Balanced issued) (follow : Follow) :
    (session.followUp follow).traffic.Balanced issued := by
  cases follow with
  | settle => exact balanced_startAll balanced
  | hold => exact balanced
  | drop => exact balanced

theorem balanced_letGo (balanced : session.traffic.Balanced issued) (disposition : Disposition)
    (notify : Bool) (ids : List PartitionId) :
    (session.letGo disposition notify ids).2.traffic.Balanced
      (issued ++ [(session.letGo disposition notify ids).1]) :=
  balanced.issue _ rfl

/-- A move keeps the balance, with the dispatch that it makes. -/
theorem balanced_act (balanced : session.traffic.Balanced issued) (move : Move) :
    (session.act move).2.traffic.Balanced
      (issued ++ (session.act move).1.dispatch?.toList) := by
  -- Whatever makes no dispatch has to keep the balance as it is.
  have quiet : ∀ {reply : Reply} {next : Session}, reply.dispatch? = none →
      next.traffic.Balanced issued →
        next.traffic.Balanced (issued ++ reply.dispatch?.toList) := by
    intro reply next none kept
    rw [none, Option.toList_none, List.append_nil]
    exact kept
  cases move with
  | start number => exact quiet rfl (balanced_start balanced number)
  | pass milliseconds => exact quiet rfl balanced
  | await dispatches => exact quiet rfl balanced
  | command command =>
    cases command with
    | track producer deployment =>
      apply quiet rfl
      have same : (session.track producer deployment).2.traffic = session.traffic := by
        rw [track]
        cases deployment.kind.requiresTracking <;> rfl
      show (session.track producer deployment).2.traffic.Balanced issued
      rw [same]
      exact balanced
    | release ids notify follow =>
      exact balanced_followUp (balanced_letGo balanced .release notify ids) follow
    | promote ids follow =>
      exact balanced_followUp (balanced_letGo balanced .promote false ids) follow
    | settleHeld => exact quiet rfl (balanced_startAll balanced)
    | advance milliseconds => exact quiet rfl (balanced_startAll balanced)
    | forgetWorker | forget | markUnreachable | makeTrouble | stallNotices | failNotices | connect
    | provide | failManager | lookup => exact quiet rfl balanced

theorem balanced_after (balanced : session.traffic.Balanced issued) (moves : List Move) :
    (session.after moves).traffic.Balanced (issued ++ dispatches (session.trace moves)) := by
  induction moves generalizing session issued with
  | nil =>
    rw [trace, dispatches, List.flatMap_nil, List.append_nil]
    exact balanced
  | cons move moves ih =>
    have next := ih (balanced_act balanced move)
    rw [List.append_assoc] at next
    exact next

/-- At every moment of a session, what has been issued is recorded or waits. -/
theorem balanced_of_schedule (job : JobId) (timeout : Nat) (resolver : Resolver)
    (moves : List Move) :
    ((fresh job timeout resolver).after moves).traffic.Balanced
      (dispatches ((fresh job timeout resolver).trace moves)) := by
  have start : (fresh job timeout resolver).traffic.Balanced [] :=
    ⟨List.Perm.refl _, List.nodup_nil, fun _ inside => absurd inside List.not_mem_nil⟩
  exact balanced_after start moves

end Balanced

/-! ### Requests and what is tracked -/

/-- A partition that a dispatch lists is tracked later on only if it is registered again. -/
theorem registers_of_isTracked {session : Session} (coherent : session.ledger.Coherent)
    {move : Move} {dispatch : Dispatch} (reply : (session.act move).1 = .dispatched dispatch)
    {id : PartitionId} (listed : id ∈ dispatch.untracked) (moves : List Move)
    (tracked : ((session.act move).2.after moves).ledger.isTracked id = true) :
    ∃ step ∈ (session.act move).2.trace moves, step.registers id = true := by
  obtain ⟨disposition, notify, ids, rfl, left⟩ := letGo_of_dispatched reply
  have gone : (session.act move).2.ledger.get? id = none := by
    rw [left]
    rcases (coherent.removes_removeAll (OrderedSet.toList (OrderedSet.ofList ids))).one coherent id
      with ⟨none, _⟩ | ⟨_, _, gone, _⟩
    · obtain ⟨holding, inside, same⟩ := List.mem_map.mp listed
      have := List.filter_eq_nil_iff.mp none holding inside
      exact absurd (decide_eq_true same) this
    · exact gone
  by_contra never
  simp only [not_exists, not_and, Bool.not_eq_true] at never
  have absent := (dormant_of_untracked (coherent_act coherent move) gone moves).stays never
  rw [Ledger.isTracked, OrderedMap.contains, ← Ledger.get?, absent] at tracked
  cases tracked

/-- What is to be said about the requests of a session, given its steps. -/
structure Conserved (steps : List Step) (session : Session) : Prop where
  /-- Calls are recorded or wait, each as often as it was issued. -/
  calls : (session.fleet.calls ++ session.traffic.pending.filterMap Request.call?).Perm
    ((dispatches steps).flatMap (·.calls))
  /-- So are notices. -/
  notices : (session.master.released ++ session.traffic.pending.filterMap Request.notice?).Perm
    ((dispatches steps).flatMap fun dispatch => dispatch.notices.map (·.partitionId))
  /-- Every request comes from a dispatch. -/
  issued : ∀ request ∈ session.traffic.recorded ++ session.traffic.pending,
    ∃ dispatch ∈ dispatches steps, request ∈ dispatch.requests
  /-- The dispatch has removed what the request names, and only a later step can have
  registered it again. -/
  removed : ∀ earlier step later dispatch request id, steps = earlier ++ step :: later →
    step.reply = .dispatched dispatch → request ∈ dispatch.requests → request.Names id →
      id ∈ dispatch.untracked ∧ (session.ledger.isTracked id = true →
        ∃ registration ∈ later, registration.registers id = true)

/-- Along every schedule of a new session, no request is lost or doubled; and when nothing
waits any more, what was recorded is a matter of the orders alone. -/
theorem requests_conserved (job : JobId) (timeout : Nat) (resolver : Resolver)
    (moves : List Move) :
    let session := fresh job timeout resolver
    Conserved (session.trace moves) (session.after moves) ∧
      ∀ moves', orders moves' = orders moves → (session.after moves).waiting = [] →
        (session.after moves').waiting = [] →
          (session.after moves').fleet.calls.Perm (session.after moves).fleet.calls ∧
          (session.after moves').master.released.Perm (session.after moves).master.released := by
  intro session
  have balanced := balanced_of_schedule job timeout resolver
  refine ⟨⟨(balanced moves).calls, (balanced moves).notices, ?_, ?_⟩, ?_⟩
  · intro request found
    exact List.mem_flatMap.mp ((balanced moves).requests.mem_iff.mp found)
  · intro earlier step later dispatch request id split reply issued names
    obtain ⟨moves₁, move, moves₂, rfl, rfl, rfl⟩ := trace_eq_append_cons split
    have coherent := coherent_of_schedule job timeout resolver moves₁
    have listed : id ∈ dispatch.untracked := by
      obtain ⟨_, _, _, rfl, _⟩ := letGo_of_dispatched reply
      exact Dispatch.mem_untracked_of_names issued names
    refine ⟨listed, fun tracked => ?_⟩
    rw [after_append] at tracked
    exact registers_of_isTracked coherent reply listed moves₂ tracked
  · intro moves' same idle idle'
    have dispatched := dispatches_eq_of_orders_eq session same
    have finished : ∀ moves, (session.after moves).waiting = [] →
        (session.after moves).traffic.pending = [] := fun moves idle => by
      rw [Traffic.pending, traffic, idle, List.map_nil]
    have all := (balanced moves).requests
    have all' := (balanced moves').requests
    rw [finished moves idle, List.append_nil] at all
    rw [finished moves' idle', List.append_nil, dispatched] at all'
    have recorded := all'.trans all.symm
    have calls := recorded.filterMap Request.call?
    have released := recorded.filterMap Request.notice?
    rw [Traffic.filterMap_call?_recorded, Traffic.filterMap_call?_recorded] at calls
    rw [Traffic.filterMap_notice?_recorded, Traffic.filterMap_notice?_recorded] at released
    exact ⟨calls, released⟩

end Session

end PartitionLedger
