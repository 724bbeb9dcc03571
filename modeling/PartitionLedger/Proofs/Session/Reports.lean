/-
# What an invocation is reported to have done

An invocation writes one warning for each worker out of reach and one summary, all at once;
the outcomes of its calls follow later, among those of other invocations. Whatever the
moment, a call is in one of two places: its outcome is in the journal, or it waits or is
unanswered. The sizes of the batches that were skipped, reported and are still owed therefore
add up to the number of holdings with local resources that the invocation removed, and once
nothing is owed the journal accounts for all of them.
-/

import PartitionLedger.Proofs.Dispatch.Batches
import PartitionLedger.Proofs.Session.Exactness
import PartitionLedger.Proofs.Session.Outcomes

namespace PartitionLedger

open Collection

/-- A list with one member at most has one order. -/
theorem eq_toList_of_perm {α : Type u} {members : List α} {only : Option α}
    (perm : members.Perm only.toList) : members = only.toList := by
  cases only with
  | none => exact List.perm_nil.mp perm
  | some member => exact List.perm_singleton.mp perm

/-- The call that an event reports the outcome of. -/
def Event.reported? : Event → Option CallFacts
  | .callAccepted call | .callFailed call _ | .callTimedOut call _ => some call
  | _ => none

/-- The call that a task makes, as its outcome will report it. -/
def Task.facts? (task : Task) : Option CallFacts := task.errand.request.call?.map WorkerCall.facts

/-- The partitions that some calls are about, counted together. -/
def partitionTotal : List CallFacts → Nat
  | [] => 0
  | call :: calls => call.partitionCount + partitionTotal calls

theorem partitionTotal_append (calls calls' : List CallFacts) :
    partitionTotal (calls ++ calls') = partitionTotal calls + partitionTotal calls' := by
  induction calls with
  | nil => exact (Nat.zero_add _).symm
  | cons call calls ih => rw [List.cons_append, partitionTotal, partitionTotal, ih, Nat.add_assoc]

/-- The facts of calls tell how much they carry. -/
theorem partitionTotal_facts (calls : List WorkerCall) :
    partitionTotal (calls.map WorkerCall.facts) =
      (calls.flatMap fun call => OrderedSet.toList call.partitions).length := by
  induction calls with
  | nil => rfl
  | cons call calls ih =>
    rw [List.map_cons, partitionTotal, ih, List.flatMap_cons, List.length_append]
    congr 1
    exact (List.length_map _).symm

/-- A list of different partitions is as long as the set of its members is large. -/
theorem size_ofList (ids : List PartitionId) :
    (OrderedSet.ofList ids).size = ids.eraseDups.length := by
  have perm : (OrderedSet.toList (OrderedSet.ofList ids)).Perm ids.eraseDups := by
    rw [List.perm_ext_iff_of_nodup (OrderedSet.nodup_toList _) (nodup_eraseDups ids)]
    intro id
    rw [OrderedSet.mem_toList, OrderedSet.contains_ofList, List.mem_eraseDups]
  rw [← perm.length_eq]
  exact (List.length_map _).symm

namespace Session

/-! ### Outcomes reported and owed -/

/-- The outcomes of calls that were reported under the number of a task. -/
def reportedBy (session : Session) (number : Nat) : List CallFacts :=
  (session.entriesOf number).filterMap fun entry => entry.event.reported?

/-- The calls under the number of a task whose outcomes have not been reported. -/
def owedBy (session : Session) (number : Nat) : List CallFacts :=
  ((session.unanswered.map (·.task) ++ session.waiting).filter fun task =>
    task.number = number).filterMap Task.facts?

/-- Every attempt reports its call in the end, and reports it once. -/
theorem reported_entries (job : JobId) (timeout : Nat) (attempt : Attempt) :
    ((attempt.entries job timeout).filterMap fun entry => entry.event.reported?) =
      attempt.task.facts?.toList := by
  obtain ⟨⟨number, dispatch, errand⟩, time, answer⟩ := attempt
  cases errand <;> cases answer <;> rfl

/-- So does an unanswered task. -/
theorem reported_timeoutEntry (session : Session) (pending : Unanswered) :
    (session.timeoutEntry pending).event.reported? = pending.task.facts? := by
  obtain ⟨⟨number, dispatch, errand⟩, deadline⟩ := pending
  cases errand <;> rfl

theorem reported_timeoutsOf (session : Session) (number : Nat) :
    ((session.timeoutsOf number).filterMap fun entry => entry.event.reported?) =
      ((session.unanswered.map (·.task)).filter fun task => task.number = number).filterMap
        Task.facts? := by
  rw [timeoutsOf, List.filterMap_map, List.filter_map, List.filterMap_map]
  simp only [Function.comp_def, reported_timeoutEntry]

theorem reported_foretold (session : Session) (attempts : List Attempt) (number : Nat) :
    ((session.foretold attempts number).filterMap fun entry => entry.event.reported?) =
      ((attempts.map (·.task)).filter fun task => task.number = number).filterMap Task.facts? := by
  rw [foretold, List.filterMap_flatMap, List.filter_map, List.filterMap_map]
  simp only [reported_entries]
  exact (List.filterMap_eq_flatMap_toList _ _).symm

/-- The outcome of a task that was issued is either reported or owed. -/
theorem Told.reported_append_owed {session : Session} {issued : List Task}
    {attempts : List Attempt} (told : Told session session.waiting issued attempts) {task : Task}
    (inside : task ∈ issued) :
    session.reportedBy task.number ++ session.owedBy task.number = task.facts?.toList := by
  have known := congrArg (fun entries : List Entry => entries.filterMap fun entry =>
    entry.event.reported?) (told.told task.number)
  rw [List.filterMap_append, reported_timeoutsOf, reported_foretold] at known
  have distinct : (issued.map (·.number)).Nodup := by
    rw [told.numbered]
    exact List.nodup_range
  have perm := (told.begun.filter fun other => other.number = task.number).filterMap Task.facts?
  rw [filter_eq_singleton distinct inside, List.filter_append, List.filterMap_append, ← known,
    List.append_assoc, ← List.filterMap_append, ← List.filter_append] at perm
  refine eq_toList_of_perm (perm.trans (List.Perm.of_eq ?_))
  rw [List.filterMap_eq_flatMap_toList, List.flatMap_singleton]

/-- Together, what is reported and what is owed are as much as the tasks were to carry. -/
theorem Told.reportedTotal_add_owedTotal {session : Session} {issued : List Task}
    {attempts : List Attempt} (told : Told session session.waiting issued attempts)
    {tasks : List Task} (inside : ∀ task ∈ tasks, task ∈ issued) :
    partitionTotal (tasks.flatMap fun task => session.reportedBy task.number) +
        partitionTotal (tasks.flatMap fun task => session.owedBy task.number) =
      partitionTotal (tasks.filterMap Task.facts?) := by
  induction tasks with
  | nil => rfl
  | cons task tasks ih =>
    obtain ⟨first, rest⟩ := List.forall_mem_cons.mp inside
    have own := congrArg partitionTotal (told.reported_append_owed first)
    have others := ih rest
    rw [List.filterMap_eq_flatMap_toList] at others ⊢
    rw [partitionTotal_append] at own
    simp only [List.flatMap_cons, partitionTotal_append]
    omega

/-! ### What an invocation reports at once -/

/-- From one moment to another, tasks alone write into the journal. -/
def OnlyTasksWrite (earlier later : Session) : Prop :=
  ∃ written, later.journal = earlier.journal ++ written ∧ ∀ entry ∈ written, entry.origin ≠ .owner

namespace OnlyTasksWrite

theorem refl (session : Session) : OnlyTasksWrite session session :=
  ⟨[], (List.append_nil _).symm, fun _ inside => absurd inside List.not_mem_nil⟩

theorem trans {earlier between later : Session} (first : OnlyTasksWrite earlier between)
    (second : OnlyTasksWrite between later) : OnlyTasksWrite earlier later := by
  obtain ⟨written, journal, origins⟩ := first
  obtain ⟨written', journal', origins'⟩ := second
  refine ⟨written ++ written', ?_, List.forall_mem_append.mpr ⟨origins, origins'⟩⟩
  rw [journal', journal, List.append_assoc]

theorem run (session : Session) (task : Task) : OnlyTasksWrite session (session.run task) := by
  refine ⟨_, journal_run session task, fun entry inside => ?_⟩
  rw [Attempt.origin_of_mem_atOnce entry inside]
  exact Origin.noConfusion

theorem foldl_run (session : Session) (tasks : List Task) :
    OnlyTasksWrite session (tasks.foldl Session.run session) := by
  induction tasks generalizing session with
  | nil => exact refl session
  | cons task tasks ih => exact (run session task).trans (ih _)

theorem expire (session : Session) : OnlyTasksWrite session session.expire := by
  refine ⟨_, rfl, ?_⟩
  rw [List.forall_mem_map]
  exact fun pending _ => Origin.noConfusion

theorem followUp (session : Session) (follow : Follow) :
    OnlyTasksWrite session (session.followUp follow) := by
  cases follow with
  | settle =>
    have started : OnlyTasksWrite session session.startAll :=
      foldl_run { session with waiting := [] } session.waiting
    exact started.trans (expire { session.startAll with clock := _ })
  | hold | drop => exact refl session

end OnlyTasksWrite

/-- The tasks of a dispatch make its calls. -/
theorem facts_tasksFrom (number count : Nat) (dispatch : Dispatch) :
    (tasksFrom number count (errands dispatch)).filterMap Task.facts? =
      dispatch.calls.map WorkerCall.facts := by
  have requests : (tasksFrom number count (errands dispatch)).map (·.errand.request) =
      dispatch.requests := by
    rw [Dispatch.requests, ← errand_tasksFrom number count (errands dispatch), List.map_map,
      errand_tasksFrom]
    rfl
  rw [← dispatch.filterMap_call?_requests, ← requests, List.filterMap_map, List.map_filterMap]
  rfl

/-- The calls that were prepared carry what was removed and occupies local resources. -/
theorem preparedTotal_eq {session : Session} (coherent : session.ledger.Coherent)
    (disposition : Disposition) (notify : Bool) (ids : List PartitionId) :
    let dispatch := (session.letGo disposition notify ids).1
    partitionTotal (dispatch.calls.map WorkerCall.facts) +
        partitionTotal (dispatch.skipped.map WorkerCall.facts) =
      ((session.ledger.listedHoldings ids).filter (·.occupiesLocalResource)).length := by
  intro dispatch
  have removes := coherent.removes_distinct ids
  have perm : (session.ledger.removeAll (OrderedSet.toList (OrderedSet.ofList ids))).1.Perm
      (session.ledger.listedHoldings ids) := removes.perm coherent
  have carried := Dispatch.issue_carried_perm session.job session.resolves disposition notify
    (removes.nodup_partitionIds coherent)
  rw [← partitionTotal_append, ← List.map_append, partitionTotal_facts,
    ← (perm.filter (·.occupiesLocalResource)).length_eq]
  exact carried.length_eq.trans (List.length_map _)

/-- What is to be said about an invocation that has made a dispatch, at the moment itself and
at a later one. -/
structure Reported (before : Session) (move : Move) (dispatch : Dispatch) (later : Session) :
    Prop where
  /-- The owner writes a warning for each worker out of reach, and then a summary. -/
  logged :
    let warnings := dispatch.skipped.map fun call => Event.noGateway call.facts
    let summary := Event.dispatched before.job dispatch.disposition
      move.requested.eraseDups.length dispatch.untracked.length dispatch.remoteCalls
      dispatch.unreachableWorkers.length dispatch.externalReleases
    OnlyTasksWrite (before.record .owner (warnings ++ [summary])) (before.act move).2
  /-- The warnings are in strictly ascending order of workers. -/
  ascending : (dispatch.skipped.map fun call => call.facts.worker).Pairwise (· < ·)
  /-- Each call that was issued is either reported, once, or still owed. -/
  outcomes : ∀ task ∈ before.issuedBy move,
    later.reportedBy task.number ++ later.owedBy task.number = task.facts?.toList
  /-- What was skipped, reported and is owed comes to what was removed with local resources. -/
  total : partitionTotal (dispatch.skipped.map WorkerCall.facts) +
      partitionTotal ((before.issuedBy move).flatMap fun task => later.reportedBy task.number) +
      partitionTotal ((before.issuedBy move).flatMap fun task => later.owedBy task.number) =
    ((before.ledger.listedHoldings move.requested).filter (·.occupiesLocalResource)).length

theorem reported {before later : Session} (coherent : before.ledger.Coherent) {move : Move}
    {dispatch : Dispatch} (reply : (before.act move).1 = .dispatched dispatch)
    {issued : List Task} {attempts : List Attempt}
    (told : Told later later.waiting issued attempts)
    (kept : ∀ task ∈ before.issuedBy move, task ∈ issued) :
    Reported before move dispatch later := by
  have tasks : before.issuedBy move =
      tasksFrom before.taskCount before.dispatchCount (errands dispatch) := by
    rw [issuedBy, reply]
  have owed := told.reportedTotal_add_owedTotal kept
  obtain ⟨disposition, notify, follow, rfl, next⟩ := exists_followUp_of_dispatched reply
  constructor
  case logged =>
    rw [next, ← size_ofList]
    exact OnlyTasksWrite.followUp (before.letGo disposition notify move.requested).2 follow
  case ascending =>
    show (Dispatch.unreachableWorkers _).Pairwise (· < ·)
    rw [letGo_fst, Dispatch.issue_unreachableWorkers]
    exact (Dispatch.batches _).pairwise_keys.filter _
  case outcomes => exact fun task inside => told.reported_append_owed (kept task inside)
  case total =>
    have prepared := preparedTotal_eq coherent disposition notify move.requested
    rw [tasks, facts_tasksFrom] at owed
    rw [tasks]
    omega

/-! ### Along a schedule -/

/-- Attempts are made by the tasks that start. -/
theorem map_task_attempts (session : Session) (moves : List Move) :
    (session.attempts moves).map (·.task) = (session.starts moves).map (·.task) := by
  induction moves generalizing session with
  | nil => rfl
  | cons move moves ih =>
    rw [attempts, starts, List.map_append, List.map_append, ih, attemptsBy, List.map_map]
    rfl

theorem filterMap_attempts {α : Type u} (session : Session) (moves : List Move)
    (pick : Task → Option α) :
    ((session.attempts moves).filterMap fun attempt => pick attempt.task) =
      (session.starts moves).filterMap fun start => pick start.task := by
  have tasks := congrArg (fun tasks : List Task => tasks.filterMap pick)
    (session.map_task_attempts moves)
  rwa [List.filterMap_map, List.filterMap_map] at tasks

/-- What is to be said about the tasks that some moves have started, in view of later ones. -/
structure EndsOnce (job : JobId) (timeout : Nat) (session : Session) (moves later : List Move) :
    Prop where
  /-- Tasks start when their requests are recorded. -/
  calls : (session.after moves).fleet.calls =
    (session.attempts moves).filterMap fun attempt => attempt.task.errand.request.call?
  released : (session.after moves).master.released =
    (session.attempts moves).filterMap fun attempt => attempt.task.errand.request.notice?
  /-- No task starts twice. -/
  distinct : ((session.attempts (moves ++ later)).map fun attempt => attempt.task.number).Nodup
  /-- What a task has written was settled when it started; its outcome is there from the time
  of the outcome on, once the timeouts that are due have been looked at. -/
  written : ∀ attempt ∈ session.attempts moves,
    (session.after (moves ++ later)).expire.entriesOf attempt.task.number =
      (attempt.entries job timeout).filter fun entry =>
        entry.time ≤ (session.after (moves ++ later)).clock
  /-- Due timeouts have always been looked at, unless tasks without any time to answer are
  started one by one. -/
  prompt : (0 < timeout ∨ ∀ number, .start number ∉ moves ++ later) →
    (session.after (moves ++ later)).expire = session.after (moves ++ later)
  /-- Nothing is written in the name of a task that has not started. -/
  silent : ∀ number, (∀ attempt ∈ session.attempts moves, attempt.task.number ≠ number) →
    (session.after moves).entriesOf number = []

/-- Along every schedule, each task that starts ends in the one way that was settled then, and
for each invocation the journal accounts for what was removed. -/
theorem outcomes_accounted (job : JobId) (timeout : Nat) (resolver : Resolver)
    (moves later : List Move) :
    let session := fresh job timeout resolver
    EndsOnce job timeout session moves later ∧
      ∀ move rest dispatch, later = move :: rest →
        ((session.after moves).act move).1 = .dispatched dispatch →
          Reported (session.after moves) move dispatch (session.after (moves ++ later)) := by
  intro session
  have timed := timed_of_schedule job timeout resolver
  have told := told_of_schedule job timeout resolver
  constructor
  · constructor
    case calls =>
      rw [filterMap_attempts session moves fun task => task.errand.request.call?]
      exact (timed moves).calls
    case released =>
      rw [filterMap_attempts session moves fun task => task.errand.request.notice?]
      exact (timed moves).released
    case distinct => exact (List.nodup_append'.mp (told (moves ++ later)).distinct).1
    case written =>
      intro attempt started
      have passed := (told (moves ++ later)).pass (timed (moves ++ later)).ordered (Nat.le_refl _)
      have begun : attempt ∈ session.attempts (moves ++ later) := by
        rw [attempts_append]
        exact List.mem_append_left _ started
      have same : (session.after (moves ++ later)).job = job := after_job session _
      rw [← same, ← (timed (moves ++ later)).constant]
      exact passed.entriesOf_eq (prompt_expire _) begun
    case prompt =>
      intro quick
      exact expire_of_prompt
        (prompt_after (timed []) (fun _ inside => absurd inside List.not_mem_nil) quick)
    case silent =>
      intro number never
      have known := (told moves).told number
      rw [foretold, List.filter_eq_nil_iff.mpr, List.flatMap_nil, List.append_eq_nil_iff] at known
      · exact known.1
      · exact fun attempt started same => never attempt started (of_decide_eq_true same)
  · rintro move rest dispatch rfl reply
    refine reported (coherent_of_schedule job timeout resolver moves) reply
      (told (moves ++ move :: rest)) fun task inside => ?_
    rw [issued_append]
    exact List.mem_append_right _ (List.mem_append_left _ inside)

end Session

end PartitionLedger
