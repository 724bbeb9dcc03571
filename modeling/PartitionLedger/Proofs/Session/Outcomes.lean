/-
# What tasks write into the journal

How a request is answered is settled when its task starts. A task that calls a worker
writes that the call was received, and later how it ended; a task with a notice writes only
that the notice has failed or timed out. All of this can be foretold from the start: what a
task has written is the part of it whose time has come, and what is still to be written
belongs to the unanswered tasks. Tasks have different numbers, so that nothing is written
twice under one of them.
-/

import PartitionLedger.Proofs.Session.Settling

namespace PartitionLedger

open Collection

/-- Members with different numbers are found by them. -/
theorem filter_eq_singleton {α : Type u} {number : α → Nat} {members : List α}
    (distinct : (members.map number).Nodup) {member : α} (inside : member ∈ members) :
    (members.filter fun other => number other = number member) = [member] := by
  rw [← Option.toList_some]
  apply eq_toList_of_mem_iff ((List.Nodup.of_map _ distinct).filter _)
  intro other
  rw [List.mem_filter, decide_eq_true_iff, Option.some.injEq]
  constructor
  · rintro ⟨inside', same⟩
    exact (List.inj_on_of_nodup_map distinct inside' inside same).symm
  · rintro rfl
    exact ⟨inside, rfl⟩

/-- A task that has started, and how its collaborator answered it then. -/
structure Attempt where
  task : Task
  time : Nat
  answer : Answer

namespace Attempt

/-- What the collaborator writes when the task starts; the shuffle master writes nothing. -/
def receipt? (attempt : Attempt) : Option Entry :=
  match attempt.task.errand with
  | .call call =>
    some ⟨attempt.time, .task attempt.task.number, .callReceived call.worker call.disposition⟩
  | .notice _ => none

/-- What the task writes when it ends: at once if it was answered, and after the timeout if
the collaborator stalled. An accepted notice is not worth an entry. -/
def outcome? (job : JobId) (timeout : Nat) (attempt : Attempt) : Option Entry :=
  let origin := Origin.task attempt.task.number
  match attempt.task.errand, attempt.answer with
  | .call call, .accepted => some ⟨attempt.time, origin, .callAccepted call.facts⟩
  | .call call, .failed cause => some ⟨attempt.time, origin, .callFailed call.facts cause⟩
  | .call call, .stalled =>
    some ⟨attempt.time + timeout, origin, .callTimedOut call.facts timeout⟩
  | .notice _, .accepted => none
  | .notice descriptor, .failed cause =>
    some ⟨attempt.time, origin, .noticeFailed job descriptor.partitionId cause⟩
  | .notice descriptor, .stalled =>
    some ⟨attempt.time + timeout, origin, .noticeTimedOut job descriptor.partitionId timeout⟩

/-- Everything that is ever written under the number of the task. -/
def entries (job : JobId) (timeout : Nat) (attempt : Attempt) : List Entry :=
  attempt.receipt?.toList ++ (attempt.outcome? job timeout).toList

/-- The part of it that is written when the task starts. -/
def atOnce (job : JobId) (timeout : Nat) (attempt : Attempt) : List Entry :=
  match attempt.answer with
  | .stalled => attempt.receipt?.toList
  | _ => attempt.entries job timeout

variable {job : JobId} {timeout : Nat} {attempt : Attempt}

/-- A task writes under its own number. -/
theorem origin_of_mem_atOnce :
    ∀ entry ∈ attempt.atOnce job timeout, entry.origin = .task attempt.task.number := by
  obtain ⟨⟨number, dispatch, errand⟩, time, answer⟩ := attempt
  cases errand <;> cases answer <;> simp [atOnce, entries, receipt?, outcome?]

/-- What a task writes when it starts has that time. -/
theorem time_of_mem_atOnce :
    ∀ entry ∈ attempt.atOnce job timeout, entry.time = attempt.time := by
  obtain ⟨⟨number, dispatch, errand⟩, time, answer⟩ := attempt
  cases errand <;> cases answer <;> simp [atOnce, entries, receipt?, outcome?]

end Attempt

namespace Session

/-- What comes of a start at this moment. -/
def attemptAt (session : Session) (start : Start) : Attempt :=
  ⟨start.task, start.time, session.answerTo start.task.errand⟩

/-- The task starts at this moment. -/
def attemptOf (session : Session) (task : Task) : Attempt :=
  session.attemptAt (session.startOf task)

@[simp]
theorem task_attemptOf (session : Session) (task : Task) :
    (session.attemptOf task).task = task := rfl

theorem attemptOf_eq_of_pace_eq {session other : Session} (same : session.pace = other.pace) :
    session.attemptOf = other.attemptOf := by
  have answerTo : session.answerTo = other.answerTo := congrArg Pace.answerTo same
  funext task
  rw [attemptOf, attemptOf, attemptAt, attemptAt, answerTo, startOf_eq_of_pace_eq same]

/-- The attempts that a move brings about. -/
def attemptsBy (session : Session) (move : Move) : List Attempt :=
  (session.startsBy move).map session.attemptAt

/-- The attempts along a schedule. -/
def attempts (session : Session) : List Move → List Attempt
  | [] => []
  | move :: moves => session.attemptsBy move ++ (session.act move).2.attempts moves

/-- The tasks that a move issues. -/
def issuedBy (session : Session) (move : Move) : List Task :=
  match (session.act move).1 with
  | .dispatched dispatch => tasksFrom session.taskCount session.dispatchCount (errands dispatch)
  | _ => []

/-- The tasks issued along a schedule. -/
def issued (session : Session) : List Move → List Task
  | [] => []
  | move :: moves => session.issuedBy move ++ (session.act move).2.issued moves

theorem attempts_append (session : Session) (moves moves' : List Move) :
    session.attempts (moves ++ moves') =
      session.attempts moves ++ (session.after moves).attempts moves' := by
  induction moves generalizing session with
  | nil => rfl
  | cons move moves ih =>
    rw [List.cons_append, attempts, attempts, ih, List.append_assoc]
    rfl

theorem issued_append (session : Session) (moves moves' : List Move) :
    session.issued (moves ++ moves') =
      session.issued moves ++ (session.after moves).issued moves' := by
  induction moves generalizing session with
  | nil => rfl
  | cons move moves ih =>
    rw [List.cons_append, issued, issued, ih, List.append_assoc]
    rfl

/-! ### Entries of tasks -/

/-- What was written under the number of a task. -/
def entriesOf (session : Session) (number : Nat) : List Entry :=
  session.journal.filter fun entry => entry.origin = .task number

/-- What an unanswered task will write. -/
def timeoutEntry (session : Session) (pending : Unanswered) : Entry :=
  ⟨pending.deadline, .task pending.task.number, session.timeoutEvent pending.task⟩

/-- What will still be written under the number of a task that has started. -/
def timeoutsOf (session : Session) (number : Nat) : List Entry :=
  (session.unanswered.filter fun pending => pending.task.number = number).map
    session.timeoutEntry

theorem journal_await (session : Session) (task : Task) (answer : Answer) :
    (session.await task answer).journal = session.journal := by
  cases answer <;> rfl

theorem clock_run (session : Session) (task : Task) : (session.run task).clock = session.clock :=
  congrArg Pace.clock (pace_run session task)

theorem timeout_run (session : Session) (task : Task) :
    (session.run task).timeout = session.timeout :=
  congrArg Pace.timeout (pace_run session task)

theorem job_run (session : Session) (task : Task) : (session.run task).job = session.job :=
  job_eq_of_standing_eq (standing_run session task)

theorem waiting_run (session : Session) (task : Task) :
    (session.run task).waiting = session.waiting :=
  (congrArg Traffic.waiting (traffic_run session task)).trans (Traffic.waiting_receive _ _)

/-- What a task writes when it starts. -/
theorem journal_run (session : Session) (task : Task) :
    (session.run task).journal =
      session.journal ++ (session.attemptOf task).atOnce session.job session.timeout := by
  obtain ⟨number, dispatch, errand⟩ := task
  cases errand with
  | call call =>
    rw [run, journal_await, Attempt.atOnce, attemptOf, attemptAt, startOf, answerTo]
    cases answer : (session.fleet.receive call).1 <;>
      simp [record, callOutcome, Attempt.entries, Attempt.receipt?, Attempt.outcome?]
  | notice descriptor =>
    rw [run, journal_await, Attempt.atOnce, attemptOf, attemptAt, startOf, answerTo]
    cases answer : (session.master.receive descriptor).1 <;>
      simp [record, noticeOutcome, Attempt.entries, Attempt.receipt?, Attempt.outcome?]

/-- What it does not write then is left to its timeout. -/
theorem atOnce_append_timeout (session : Session) (task : Task) :
    ((session.attemptOf task).atOnce session.job session.timeout ++
      if (session.startOf task).stalled then
        [session.timeoutEntry ((session.startOf task).unanswered session.timeout)]
      else []) = (session.attemptOf task).entries session.job session.timeout := by
  obtain ⟨number, dispatch, errand⟩ := task
  rw [Attempt.atOnce, Attempt.entries, attemptOf, attemptAt, startOf, stalls]
  cases answer : session.answerTo errand <;> cases errand <;>
    simp [Attempt.outcome?, Start.unanswered, timeoutEntry, timeoutEvent]

theorem entriesOf_record_owner (session : Session) (events : List Event) (number : Nat) :
    (session.record .owner events).entriesOf number = session.entriesOf number := by
  simp [entriesOf, record, List.filter_map, Function.comp_def]

/-- What some tasks wrote, or will write, under a number. -/
def foretold (session : Session) (attempts : List Attempt) (number : Nat) : List Entry :=
  (attempts.filter fun attempt => attempt.task.number = number).flatMap fun attempt =>
    attempt.entries session.job session.timeout

theorem entriesOf_run (session : Session) (task : Task) (number : Nat) :
    (session.run task).entriesOf number = session.entriesOf number ++
      if task.number = number then (session.attemptOf task).atOnce session.job session.timeout
      else [] := by
  rw [entriesOf, journal_run, List.filter_append, ← entriesOf]
  have origin : ∀ entry ∈ (session.attemptOf task).atOnce session.job session.timeout,
      entry.origin = .task task.number := Attempt.origin_of_mem_atOnce
  split
  case isTrue same =>
    rw [List.filter_eq_self.mpr]
    intro entry inside
    rw [origin entry inside, same, decide_eq_true_iff]
  case isFalse other =>
    rw [List.filter_eq_nil_iff.mpr]
    intro entry inside
    rw [origin entry inside, decide_eq_true_iff, Origin.task.injEq]
    exact other

theorem timeoutsOf_run (session : Session) (task : Task) (number : Nat) :
    (session.run task).timeoutsOf number = session.timeoutsOf number ++
      if task.number = number then
        if (session.startOf task).stalled then
          [session.timeoutEntry ((session.startOf task).unanswered session.timeout)]
        else []
      else [] := by
  have entry : (session.run task).timeoutEntry = session.timeoutEntry := by
    funext pending
    rw [timeoutEntry, timeoutEntry, timeoutEvent, timeoutEvent, timeout_run, job_run]
  rw [timeoutsOf, entry, unanswered_run, List.filter_append, List.map_append, ← timeoutsOf]
  congr 1
  by_cases same : task.number = number <;> cases (session.startOf task).stalled <;>
    simp [Start.unanswered, startOf, same]

theorem foretold_run (session : Session) (attempts : List Attempt) (task : Task) (number : Nat) :
    (session.run task).foretold (attempts ++ [session.attemptOf task]) number =
      session.foretold attempts number ++
        if task.number = number then (session.attemptOf task).entries session.job session.timeout
        else [] := by
  rw [foretold, job_run, timeout_run, List.filter_append, List.flatMap_append, ← foretold]
  congr 1
  by_cases same : task.number = number <;> simp [same]

/-- As time passes, what is due under a number is written. -/
theorem entriesOf_passed (session : Session) (clock number : Nat) :
    { session with clock }.expire.entriesOf number = session.entriesOf number ++
      ((session.unanswered.filter fun pending => pending.task.number = number).filter fun pending =>
        pending.deadline ≤ clock).map session.timeoutEntry := by
  show (session.journal ++ (session.unanswered.filter fun pending =>
    pending.deadline ≤ clock).map session.timeoutEntry).filter _ = _
  rw [List.filter_append, ← entriesOf, List.filter_map, List.filter_comm]
  simp [Function.comp_def, timeoutEntry]

/-- The rest is still to be written. -/
theorem timeoutsOf_passed (session : Session) (clock number : Nat) :
    { session with clock }.expire.timeoutsOf number =
      ((session.unanswered.filter fun pending => pending.task.number = number).filter fun pending =>
        clock < pending.deadline).map session.timeoutEntry := by
  rw [List.filter_comm]
  rfl

/-! ### The journal along a schedule -/

/-- What the journal says about the tasks that were issued, some of which still wait, and
about the attempts so far. -/
structure Told (session : Session) (waiting issued : List Task) (attempts : List Attempt) :
    Prop where
  /-- Tasks are numbered as they are issued. -/
  numbered : issued.map (·.number) = List.range session.taskCount
  /-- A task that does not wait has started, and only once. -/
  begun : (attempts.map (·.task) ++ waiting).Perm issued
  /-- What is not written yet will be. -/
  told : ∀ number, session.entriesOf number ++ session.timeoutsOf number =
    session.foretold attempts number
  /-- Nothing is written ahead of time. -/
  past : ∀ entry ∈ session.journal, entry.time ≤ session.clock

namespace Told

variable {session : Session} {waiting issued : List Task} {attempts : List Attempt}

/-- No number is used twice. -/
theorem distinct (told : Told session waiting issued attempts) :
    ((attempts.map fun attempt => attempt.task.number) ++ waiting.map (·.number)).Nodup := by
  have numbers := told.begun.map (·.number)
  rw [told.numbered, List.map_append, List.map_map] at numbers
  exact numbers.nodup_iff.mpr List.nodup_range

/-- Nothing is known yet about a task that waits. -/
theorem foretold_of_mem_waiting (told : Told session waiting issued attempts) {task : Task}
    (waits : task ∈ waiting) : session.foretold attempts task.number = [] := by
  rw [foretold, List.filter_eq_nil_iff.mpr, List.flatMap_nil]
  intro attempt started same
  refine List.disjoint_of_nodup_append told.distinct (List.mem_map_of_mem started) ?_
  rw [of_decide_eq_true same]
  exact List.mem_map_of_mem waits

/-- What is foretold about an attempt is about no other one. -/
theorem foretold_of_mem_attempts (told : Told session waiting issued attempts) {attempt : Attempt}
    (started : attempt ∈ attempts) : session.foretold attempts attempt.task.number =
      attempt.entries session.job session.timeout := by
  have distinct := (List.nodup_append'.mp told.distinct).1
  rw [foretold, filter_eq_singleton distinct started, List.flatMap_singleton]

/-- A task that waits starts. -/
theorem run {task : Task} (told : Told session (task :: waiting) issued attempts) :
    Told (session.run task) waiting issued (attempts ++ [session.attemptOf task]) := by
  have count : (session.run task).taskCount = session.taskCount :=
    (congrArg Traffic.taskCount (traffic_run session task)).trans
      (Traffic.taskCount_receive session.traffic task.errand)
  constructor
  case numbered => rw [told.numbered, count]
  case begun =>
    rw [List.map_append, List.append_assoc]
    exact told.begun
  case told =>
    intro number
    have known := told.told number
    rw [entriesOf_run, timeoutsOf_run, foretold_run, ← known]
    by_cases same : task.number = number
    · -- The task has just started, so that nothing was known under its number.
      subst same
      rw [told.foretold_of_mem_waiting List.mem_cons_self, List.append_eq_nil_iff] at known
      rw [known.1, known.2, if_pos rfl, if_pos rfl, if_pos rfl, List.nil_append, List.nil_append,
        List.nil_append]
      exact atOnce_append_timeout session task
    · rw [if_neg same, if_neg same, if_neg same, List.append_nil, List.append_nil,
        List.append_nil]
  case past =>
    rw [journal_run, clock_run, List.forall_mem_append]
    exact ⟨told.past, fun entry new => Nat.le_of_eq (Attempt.time_of_mem_atOnce entry new)⟩

/-- Time passes. -/
theorem pass (told : Told session waiting issued attempts) (ordered : InOrder session.unanswered)
    {clock : Nat} (later : session.clock ≤ clock) :
    Told { session with clock }.expire waiting issued attempts := by
  constructor
  case numbered => exact told.numbered
  case begun => exact told.begun
  case told =>
    intro number
    have split := due_append_left (List.Pairwise.filter
      (fun pending => pending.task.number = number) ordered) clock
    rw [entriesOf_passed, timeoutsOf_passed, List.append_assoc, ← List.map_append, split]
    exact told.told number
  case past =>
    show ∀ entry ∈ session.journal ++ _, entry.time ≤ clock
    rw [List.forall_mem_append, List.forall_mem_map]
    refine ⟨fun entry old => Nat.le_trans (told.past entry old) later, fun pending due => ?_⟩
    exact of_decide_eq_true (List.mem_filter.mp due).2

/-- The tasks that wait start. -/
theorem foldl_run {tasks : List Task} (told : Told session tasks issued attempts) :
    Told (tasks.foldl Session.run session) [] issued (attempts ++ tasks.map session.attemptOf) := by
  induction tasks generalizing session attempts with
  | nil =>
    rw [List.map_nil, List.append_nil]
    exact told
  | cons task tasks ih =>
    have next := ih told.run
    rw [attemptOf_eq_of_pace_eq (pace_run session task), ← List.append_cons] at next
    exact next

/-- The owner writes under no number. -/
theorem record_owner (told : Told session waiting issued attempts) (events : List Event) :
    Told (session.record .owner events) waiting issued attempts := by
  constructor
  case numbered => exact told.numbered
  case begun => exact told.begun
  case told =>
    intro number
    rw [entriesOf_record_owner]
    exact told.told number
  case past =>
    show ∀ entry ∈ session.journal ++ _, entry.time ≤ session.clock
    rw [List.forall_mem_append, List.forall_mem_map]
    exact ⟨told.past, fun event _ => Nat.le_refl _⟩

theorem start (told : Told session session.waiting issued attempts) (number : Nat) :
    Told (session.start number) (session.start number).waiting issued
      (attempts ++ session.attemptsBy (.start number)) := by
  rw [Session.start, attemptsBy, startsBy]
  cases found : session.waiting.find? fun task => task.number = number with
  | none =>
    rw [Option.toList_none, List.map_nil, List.map_nil, List.append_nil]
    exact told
  | some task =>
    obtain rfl : task.number = number := by simpa using List.find?_some found
    have moved := Traffic.perm_cons_filter (List.nodup_append'.mp told.distinct).2.1
      (List.mem_of_find?_eq_some found)
    have ready : Told { session with
          waiting := session.waiting.filter fun other => other.number ≠ task.number }
        (task :: session.waiting.filter fun other => other.number ≠ task.number) issued attempts :=
      { told with begun := (moved.symm.append_left _).trans told.begun }
    show Told (Session.run _ task) (Session.run _ task).waiting issued _
    rw [waiting_run]
    exact ready.run

theorem startAll (told : Told session session.waiting issued attempts) :
    Told session.startAll session.startAll.waiting issued
      (attempts ++ session.waiting.map session.attemptOf) := by
  have ready : Told { session with waiting := [] } session.waiting issued attempts := { told with }
  rw [waiting_startAll]
  exact ready.foldl_run

theorem settle {timeout : Nat} {history : List Start} (timed : Timed timeout session history)
    (told : Told session session.waiting issued attempts) (dispatches : List Nat) :
    Told (session.settle dispatches) (session.settle dispatches).waiting issued
      (attempts ++ session.waiting.map session.attemptOf) :=
  told.startAll.pass timed.startAll.ordered (clock_le_lastDeadline _ dispatches)

theorem letGo (told : Told session session.waiting issued attempts) (disposition : Disposition)
    (notify : Bool) (ids : List PartitionId) :
    let result := session.letGo disposition notify ids
    Told result.2 result.2.waiting
      (issued ++ tasksFrom session.taskCount session.dispatchCount (errands result.1))
      attempts := by
  intro result
  have numbers := number_tasksFrom session.taskCount session.dispatchCount (errands result.1)
  have logged := told.record_owner
    (result.1.events session.job (OrderedSet.ofList ids).size)
  constructor
  case numbered =>
    have split := @List.range'_append_1 0 session.taskCount
      (tasksFrom session.taskCount session.dispatchCount (errands result.1)).length
    rw [Nat.zero_add, ← List.range_eq_range', ← List.range_eq_range'] at split
    rw [List.map_append, told.numbered, numbers, split]
    rfl
  case begun =>
    show (attempts.map (·.task) ++ (session.waiting ++ _)).Perm _
    rw [← List.append_assoc]
    exact told.begun.append_right _
  case told => exact logged.told
  case past => exact logged.past

theorem followUp {timeout : Nat} {history : List Start} (timed : Timed timeout session history)
    (told : Told session session.waiting issued attempts) (follow : Follow) :
    Told (session.followUp follow) (session.followUp follow).waiting issued
      (attempts ++ (session.followUpStarts follow).map session.attemptAt) := by
  cases follow with
  | settle =>
    rw [followUpStarts, waitingStarts, List.map_map]
    exact told.settle timed _
  | hold | drop =>
    rw [followUpStarts, List.map_nil, List.append_nil]
    exact { told with }

/-- A move keeps the account, with the tasks that it issues and the attempts that it brings
about. -/
theorem act {timeout : Nat} {history : List Start} (timed : Timed timeout session history)
    (told : Told session session.waiting issued attempts) (move : Move) :
    Told (session.act move).2 (session.act move).2.waiting (issued ++ session.issuedBy move)
      (attempts ++ session.attemptsBy move) := by
  -- Where nothing is issued and nothing starts, the account has to stay as it is.
  have quiet : ∀ {next : Session}, Told next next.waiting issued attempts →
      Told next next.waiting (issued ++ []) (attempts ++ []) := by
    intro next kept
    rw [List.append_nil, List.append_nil]
    exact kept
  cases move with
  | start number =>
    rw [show session.issuedBy (.start number) = [] from rfl, List.append_nil]
    exact told.start number
  | pass milliseconds => exact quiet (told.pass timed.ordered (Nat.le_add_right _ _))
  | await dispatches => exact quiet (told.pass timed.ordered (clock_le_lastDeadline _ dispatches))
  | command command =>
    cases command with
    | track producer deployment =>
      apply quiet
      show Told (session.track producer deployment).2 (session.track producer deployment).2.waiting
        issued attempts
      rw [track]
      cases deployment.kind.requiresTracking with
      | true => exact { told.record_owner _ with }
      | false => exact told.record_owner _
    | release ids notify follow =>
      exact (told.letGo .release notify ids).followUp (timed.letGo .release notify ids) follow
    | promote ids follow =>
      exact (told.letGo .promote false ids).followUp (timed.letGo .promote false ids) follow
    | settleHeld =>
      rw [show session.issuedBy (.command .settleHeld) = [] from rfl, List.append_nil, attemptsBy,
        startsBy, waitingStarts, List.map_map]
      exact { told.settle timed session.held with }
    | advance milliseconds =>
      rw [show session.issuedBy (.command (.advance milliseconds)) = [] from rfl, List.append_nil,
        attemptsBy, startsBy, waitingStarts, List.map_map]
      exact told.startAll.pass timed.startAll.ordered (Nat.le_add_right _ _)
    | forgetWorker | forget | connect | lookup => exact quiet { told.record_owner _ with }
    | markUnreachable | makeTrouble | stallNotices | failNotices
    | provide | failManager => exact quiet { told with }

theorem after {timeout : Nat} {history : List Start} (timed : Timed timeout session history)
    (told : Told session session.waiting issued attempts) (moves : List Move) :
    Told (session.after moves) (session.after moves).waiting (issued ++ session.issued moves)
      (attempts ++ session.attempts moves) := by
  induction moves generalizing session history issued attempts with
  | nil =>
    rw [Session.issued, Session.attempts, List.append_nil, List.append_nil]
    exact told
  | cons move moves ih =>
    have next := ih (timed.act move) (told.act timed move)
    rw [List.append_assoc, List.append_assoc] at next
    exact next

end Told

/-- The journal of a session is told by the attempts, at every moment. -/
theorem told_of_schedule (job : JobId) (timeout : Nat) (resolver : Resolver) (moves : List Move) :
    let session := fresh job timeout resolver
    Told (session.after moves) (session.after moves).waiting (session.issued moves)
      (session.attempts moves) := by
  intro session
  have start : Told session session.waiting [] [] :=
    ⟨rfl, List.Perm.refl _, fun _ => rfl, fun _ inside => absurd inside List.not_mem_nil⟩
  exact start.after (timed_of_schedule job timeout resolver []) moves

/-! ### Being due -/

/-- No timeout is due that was not looked at. -/
def Prompt (session : Session) : Prop :=
  ∀ pending ∈ session.unanswered, session.clock < pending.deadline

theorem prompt_expire (session : Session) : session.expire.Prompt := fun _ left =>
  of_decide_eq_true (List.mem_filter.mp left).2

theorem expire_of_prompt {session : Session} (prompt : session.Prompt) :
    session.expire = session := by
  have due : (session.unanswered.filter fun pending => pending.deadline ≤ session.clock) = [] := by
    rw [List.filter_eq_nil_iff]
    intro pending inside
    simpa using prompt pending inside
  have left : (session.unanswered.filter fun pending => session.clock < pending.deadline) =
      session.unanswered := by
    rw [List.filter_eq_self]
    exact fun pending inside => decide_eq_true (prompt pending inside)
  rw [expire, due, left, List.map_nil, List.append_nil]

theorem prompt_run {session : Session} (prompt : session.Prompt) (positive : 0 < session.timeout)
    (task : Task) : (session.run task).Prompt := by
  rw [Prompt, clock_run, unanswered_run, List.forall_mem_append]
  refine ⟨prompt, fun pending new => ?_⟩
  obtain ⟨_, same⟩ := List.mem_ite_nil_right.mp new
  rw [List.mem_singleton.mp same]
  exact Nat.lt_add_of_pos_right positive

/-- A timeout of zero can be left to be looked at, but only if a task was started on its own:
wherever a command starts tasks, it looks at their timeouts. -/
theorem prompt_act {session : Session} (prompt : session.Prompt) (move : Move)
    (quick : 0 < session.timeout ∨ ∀ number, move ≠ .start number) :
    (session.act move).2.Prompt := by
  cases move with
  | start number =>
    have positive : 0 < session.timeout := quick.resolve_right fun none => none number rfl
    show (session.start number).Prompt
    rw [start]
    split
    · exact prompt
    · have ready : Prompt { session with
          waiting := session.waiting.filter fun other => other.number ≠ number } := prompt
      exact prompt_run ready positive _
  | pass milliseconds => exact prompt_expire _
  | await dispatches => exact prompt_expire _
  | command command =>
    have followed : ∀ {next : Session}, next.Prompt → ∀ follow, (next.followUp follow).Prompt := by
      intro next ready follow
      cases follow with
      | settle => exact prompt_expire _
      | hold | drop => exact ready
    cases command with
    | track producer deployment =>
      show (session.track producer deployment).2.Prompt
      rw [track]
      cases deployment.kind.requiresTracking <;> exact prompt
    | release ids notify follow =>
      have ready : (session.release ids notify).2.Prompt := prompt
      exact followed ready follow
    | promote ids follow =>
      have ready : (session.promote ids).2.Prompt := prompt
      exact followed ready follow
    | settleHeld => exact prompt_expire _
    | advance milliseconds => exact prompt_expire _
    | forgetWorker | forget | markUnreachable | makeTrouble | stallNotices | failNotices | connect
    | provide | failManager | lookup => exact prompt

theorem prompt_after {timeout : Nat} {session : Session} {history : List Start}
    (timed : Timed timeout session history) (prompt : session.Prompt) {moves : List Move}
    (quick : 0 < timeout ∨ ∀ number, .start number ∉ moves) : (session.after moves).Prompt := by
  induction moves generalizing session history with
  | nil => exact prompt
  | cons move moves ih =>
    have first : 0 < session.timeout ∨ ∀ number, move ≠ .start number := by
      rw [timed.constant]
      exact quick.imp_right fun none number same => none number (same ▸ List.mem_cons_self)
    refine ih (timed.act move) (prompt_act prompt move first) ?_
    exact quick.imp_right fun none number later => none number (List.mem_cons_of_mem move later)

/-- A task that has started has written what was foretold, as far as its time has come. -/
theorem Told.entriesOf_eq {session : Session} {waiting issued : List Task}
    {attempts : List Attempt} (told : Told session waiting issued attempts)
    (prompt : session.Prompt) {attempt : Attempt} (started : attempt ∈ attempts) :
    session.entriesOf attempt.task.number =
      (attempt.entries session.job session.timeout).filter fun entry =>
        entry.time ≤ session.clock := by
  have known := (told.told attempt.task.number).trans (told.foretold_of_mem_attempts started)
  have written : ((session.entriesOf attempt.task.number).filter fun entry =>
      entry.time ≤ session.clock) = session.entriesOf attempt.task.number := by
    rw [List.filter_eq_self]
    exact fun entry inside =>
      decide_eq_true (told.past entry (List.mem_of_mem_filter inside))
  have ahead : ((session.timeoutsOf attempt.task.number).filter fun entry =>
      entry.time ≤ session.clock) = [] := by
    rw [List.filter_eq_nil_iff, timeoutsOf, List.forall_mem_map]
    intro pending inside
    rw [timeoutEntry, decide_eq_true_iff, Nat.not_le]
    exact prompt pending (List.mem_of_mem_filter inside)
  rw [← known, List.filter_append, written, ahead, List.append_nil]

end Session

end PartitionLedger
