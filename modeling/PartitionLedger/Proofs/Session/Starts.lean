/-
# When tasks start

A session only remembers the tasks that wait and those that are unanswered. Which tasks
have started, when, and whether their collaborators stalled, is read off the schedule: a
task starts at the moment at which its request is recorded. A task is unanswered if its
collaborator stalled when it started and its timeout has not passed since, and deadlines
come up in the order in which their tasks started.
-/

import PartitionLedger.Proofs.Session.Conservation

namespace PartitionLedger

open Collection

/-- A task that has started. -/
structure Start where
  task : Task
  time : Nat
  /-- The collaborator does not answer. -/
  stalled : Bool

/-- A bound on the maximum of a list is a bound on all of its members. -/
theorem foldl_max_le_iff (first bound : Nat) (members : List Nat) :
    members.foldl max first ≤ bound ↔ first ≤ bound ∧ ∀ member ∈ members, member ≤ bound := by
  induction members generalizing first with
  | nil => simp
  | cons member members ih => rw [List.foldl_cons, ih, Nat.max_le, and_assoc, List.forall_mem_cons]

namespace Traffic

theorem calls_receive (traffic : Traffic) (errand : Errand) :
    (traffic.receive errand).calls = traffic.calls ++ errand.request.call?.toList := by
  cases errand with
  | call call => rfl
  | notice descriptor => exact (List.append_nil _).symm

theorem released_receive (traffic : Traffic) (errand : Errand) :
    (traffic.receive errand).released = traffic.released ++ errand.request.notice?.toList := by
  cases errand with
  | call call => exact (List.append_nil _).symm
  | notice descriptor => rfl

end Traffic

/-- What is unanswered after the start, if the collaborator does not answer. -/
def Start.unanswered (timeout : Nat) (start : Start) : Unanswered :=
  ⟨start.task, start.time + timeout⟩

/-- Deadlines come up in the order of the list. -/
def InOrder (unanswered : List Unanswered) : Prop :=
  unanswered.Pairwise fun earlier later => earlier.deadline ≤ later.deadline

namespace Session

/-! ### Running tasks -/

/-- How a request would be answered at this moment. -/
def answerTo (session : Session) : Errand → Answer
  | .call call => (session.fleet.receive call).1
  | .notice descriptor => (session.master.receive descriptor).1

/-- The request would not be answered at this moment. -/
def stalls (session : Session) (errand : Errand) : Bool := session.answerTo errand = .stalled

/-- The start of a task at this moment. -/
def startOf (session : Session) (task : Task) : Start :=
  ⟨task, session.clock, session.stalls task.errand⟩

/-- The part of a session that running tasks depend on and leave alone. -/
structure Pace where
  clock : Nat
  timeout : Nat
  dispatchCount : Nat
  answerTo : Errand → Answer

/-- The pace of a session. -/
def pace (session : Session) : Pace :=
  ⟨session.clock, session.timeout, session.dispatchCount, session.answerTo⟩

theorem pace_await (session : Session) (task : Task) (answer : Answer) :
    (session.await task answer).pace = session.pace := by
  cases answer <;> rfl

theorem pace_run (session : Session) (task : Task) : (session.run task).pace = session.pace := by
  rw [run]
  cases task.errand with
  | call call => exact pace_await _ _ _
  | notice descriptor => exact pace_await _ _ _

theorem unanswered_await (session : Session) (task : Task) (answer : Answer) :
    (session.await task answer).unanswered = session.unanswered ++
      if decide (answer = .stalled) then [⟨task, session.clock + session.timeout⟩] else [] := by
  cases answer with
  | stalled => rfl
  | accepted => exact (List.append_nil _).symm
  | failed cause => exact (List.append_nil _).symm

theorem unanswered_run (session : Session) (task : Task) :
    (session.run task).unanswered = session.unanswered ++
      if (session.startOf task).stalled then [(session.startOf task).unanswered session.timeout]
      else [] := by
  rw [run, startOf, stalls]
  cases task.errand with
  | call call => exact unanswered_await _ _ _
  | notice descriptor => exact unanswered_await _ _ _

theorem startOf_eq_of_pace_eq {session other : Session} (same : session.pace = other.pace) :
    session.startOf = other.startOf := by
  have clock : session.clock = other.clock := congrArg Pace.clock same
  have answerTo : session.answerTo = other.answerTo := congrArg Pace.answerTo same
  funext task
  rw [startOf, startOf, stalls, stalls, clock, answerTo]

theorem pace_foldl_run (session : Session) (tasks : List Task) :
    (tasks.foldl run session).pace = session.pace := by
  induction tasks generalizing session with
  | nil => rfl
  | cons task tasks ih => rw [List.foldl_cons, ih, pace_run]

theorem pace_startAll (session : Session) : session.startAll.pace = session.pace :=
  pace_foldl_run { session with waiting := [] } session.waiting

theorem dispatch_of_mem_tasksFrom {number dispatch : Nat} {errands : List Errand} {task : Task}
    (inside : task ∈ tasksFrom number dispatch errands) : task.dispatch = dispatch := by
  induction errands generalizing number with
  | nil => exact absurd inside List.not_mem_nil
  | cons errand errands ih =>
    rcases List.mem_cons.mp inside with rfl | later
    · rfl
    · exact ih later

theorem lastDeadline_le_iff (session : Session) (dispatches : List Nat) (bound : Nat) :
    session.lastDeadline dispatches ≤ bound ↔ session.clock ≤ bound ∧
      ∀ pending ∈ session.unanswered, pending.task.dispatch ∈ dispatches →
        pending.deadline ≤ bound := by
  rw [lastDeadline, foldl_max_le_iff, List.forall_mem_map]
  simp only [List.mem_filter, List.contains_iff_mem, and_imp]

theorem clock_le_lastDeadline (session : Session) (dispatches : List Nat) :
    session.clock ≤ session.lastDeadline dispatches :=
  ((session.lastDeadline_le_iff dispatches _).mp (Nat.le_refl _)).1

/-! ### The starts of a schedule -/

/-- The starts of all tasks that wait. -/
def waitingStarts (session : Session) : List Start := session.waiting.map session.startOf

/-- The starts that following up on the latest dispatch brings about. -/
def followUpStarts (session : Session) : Follow → List Start
  | .settle => session.waitingStarts
  | .hold => []
  | .drop => []

/-- The starts that a move brings about. -/
def startsBy (session : Session) : Move → List Start
  | .start number =>
    (session.waiting.find? fun task => task.number = number).toList.map session.startOf
  | .command (.release ids notify follow) => (session.release ids notify).2.followUpStarts follow
  | .command (.promote ids follow) => (session.promote ids).2.followUpStarts follow
  | .command .settleHeld => session.waitingStarts
  | .command (.advance _) => session.waitingStarts
  | _ => []

/-- The starts along a schedule. -/
def starts (session : Session) : List Move → List Start
  | [] => []
  | move :: moves => session.startsBy move ++ (session.act move).2.starts moves

/-- What a session has kept of the starts so far. -/
structure Timed (timeout : Nat) (session : Session) (history : List Start) : Prop where
  constant : session.timeout = timeout
  /-- The requests recorded are those of the tasks that have started, in this order. -/
  calls : session.fleet.calls = history.filterMap fun start => start.task.errand.request.call?
  released : session.master.released =
    history.filterMap fun start => start.task.errand.request.notice?
  past : ∀ start ∈ history, start.time ≤ session.clock
  /-- What is unanswered has stalled when it started. -/
  stalled : ∀ pending ∈ session.unanswered,
    ∃ start ∈ history, start.stalled = true ∧ start.unanswered timeout = pending
  /-- What has stalled stays unanswered until its timeout has passed. -/
  unfinished : ∀ start ∈ history, start.stalled = true → session.clock < start.time + timeout →
    start.unanswered timeout ∈ session.unanswered
  ordered : InOrder session.unanswered
  waiting : ∀ task ∈ session.waiting, task.dispatch < session.dispatchCount
  issued : ∀ start ∈ history, start.task.dispatch < session.dispatchCount

namespace Timed

variable {timeout : Nat} {session : Session} {history : List Start}

/-- A task of an earlier dispatch runs. -/
theorem run (timed : Timed timeout session history) {task : Task}
    (earlier : task.dispatch < session.dispatchCount) :
    Timed timeout (session.run task) (history ++ [session.startOf task]) := by
  have pace := pace_run session task
  have clock : (session.run task).clock = session.clock := congrArg Pace.clock pace
  have count : (session.run task).dispatchCount = session.dispatchCount :=
    congrArg Pace.dispatchCount pace
  have traffic := traffic_run session task
  have waiting : (session.run task).waiting = session.waiting :=
    (congrArg Traffic.waiting traffic).trans (Traffic.waiting_receive _ _)
  have unanswered := unanswered_run session task
  rw [timed.constant] at unanswered
  constructor
  case constant => exact (congrArg Pace.timeout pace).trans timed.constant
  case calls =>
    rw [List.filterMap_append, ← timed.calls]
    exact (congrArg Traffic.calls traffic).trans (Traffic.calls_receive _ _)
  case released =>
    rw [List.filterMap_append, ← timed.released]
    exact (congrArg Traffic.released traffic).trans (Traffic.released_receive _ _)
  case past =>
    rw [clock, List.forall_mem_append, List.forall_mem_singleton]
    exact ⟨timed.past, Nat.le_refl _⟩
  case stalled =>
    rw [unanswered, List.forall_mem_append]
    constructor
    · intro pending found
      obtain ⟨start, started, stalled, same⟩ := timed.stalled pending found
      exact ⟨start, List.mem_append_left _ started, stalled, same⟩
    · intro pending found
      obtain ⟨stalled, same⟩ := List.mem_ite_nil_right.mp found
      exact ⟨_, List.mem_append_right _ (List.mem_singleton_self _), stalled,
        (List.mem_singleton.mp same).symm⟩
  case unfinished =>
    rw [clock, unanswered, List.forall_mem_append, List.forall_mem_singleton]
    constructor
    · intro start started stalled left
      exact List.mem_append_left _ (timed.unfinished start started stalled left)
    · intro stalled _
      rw [if_pos stalled]
      exact List.mem_append_right _ (List.mem_singleton_self _)
  case ordered =>
    -- No deadline is later than that of a task that starts now.
    have last : ∀ pending ∈ session.unanswered, pending.deadline ≤ session.clock + timeout := by
      intro pending found
      obtain ⟨start, started, _, rfl⟩ := timed.stalled pending found
      exact Nat.add_le_add_right (timed.past start started) timeout
    rw [InOrder, unanswered, List.pairwise_append]
    refine ⟨timed.ordered, ?_, ?_⟩
    · split
      · exact List.pairwise_singleton _ _
      · exact List.Pairwise.nil
    · intro pending found new added
      rw [List.mem_ite_nil_right, List.mem_singleton] at added
      rw [added.2]
      exact last pending found
  case waiting =>
    rw [waiting, count]
    exact timed.waiting
  case issued =>
    rw [count, List.forall_mem_append, List.forall_mem_singleton]
    exact ⟨timed.issued, earlier⟩

/-- Time passes. -/
theorem pass (timed : Timed timeout session history) {clock : Nat} (later : session.clock ≤ clock) :
    Timed timeout { session with clock }.expire history := by
  constructor
  case constant => exact timed.constant
  case calls => exact timed.calls
  case released => exact timed.released
  case past => exact fun start started => Nat.le_trans (timed.past start started) later
  case stalled =>
    intro pending left
    exact timed.stalled pending (List.mem_of_mem_filter left)
  case unfinished =>
    intro start started stalled unfinished
    have kept := timed.unfinished start started stalled (Nat.lt_of_le_of_lt later unfinished)
    exact List.mem_filter.mpr ⟨kept, decide_eq_true unfinished⟩
  case ordered => exact List.Pairwise.filter _ timed.ordered
  case waiting => exact timed.waiting
  case issued => exact timed.issued

/-- Some tasks of earlier dispatches run. -/
theorem foldl_run (timed : Timed timeout session history) {tasks : List Task}
    (earlier : ∀ task ∈ tasks, task.dispatch < session.dispatchCount) :
    Timed timeout (tasks.foldl Session.run session) (history ++ tasks.map session.startOf) := by
  induction tasks generalizing session history with
  | nil =>
    rw [List.map_nil, List.append_nil]
    exact timed
  | cons task tasks ih =>
    obtain ⟨first, rest⟩ := List.forall_mem_cons.mp earlier
    have pace := pace_run session task
    have count : (session.run task).dispatchCount = session.dispatchCount :=
      congrArg Pace.dispatchCount pace
    have next := ih (timed.run first) (by rwa [count])
    rw [startOf_eq_of_pace_eq pace, ← List.append_cons] at next
    exact next

/-- Some waiting tasks are taken out. -/
theorem leave (timed : Timed timeout session history) {left : List Task}
    (kept : ∀ task ∈ left, task ∈ session.waiting) :
    Timed timeout { session with waiting := left } history :=
  { timed with waiting := fun task inside => timed.waiting task (kept task inside) }

theorem start (timed : Timed timeout session history) (number : Nat) :
    Timed timeout (session.start number) (history ++ session.startsBy (.start number)) := by
  rw [Session.start, startsBy]
  cases found : session.waiting.find? fun task => task.number = number with
  | none =>
    rw [Option.toList_none, List.map_nil, List.append_nil]
    exact timed
  | some task =>
    have earlier := timed.waiting task (List.mem_of_find?_eq_some found)
    exact (timed.leave fun _ inside => List.mem_of_mem_filter inside).run earlier

theorem startAll (timed : Timed timeout session history) :
    Timed timeout session.startAll (history ++ session.waitingStarts) :=
  (timed.leave fun _ inside => absurd inside List.not_mem_nil).foldl_run timed.waiting

theorem settle (timed : Timed timeout session history) (dispatches : List Nat) :
    Timed timeout (session.settle dispatches) (history ++ session.waitingStarts) :=
  timed.startAll.pass (clock_le_lastDeadline _ dispatches)

theorem letGo (timed : Timed timeout session history) (disposition : Disposition) (notify : Bool)
    (ids : List PartitionId) : Timed timeout (session.letGo disposition notify ids).2 history :=
  { timed with
    waiting := by
      intro task inside
      rcases List.mem_append.mp inside with old | new
      · exact Nat.lt_succ_of_lt (timed.waiting task old)
      · rw [dispatch_of_mem_tasksFrom new]
        exact Nat.lt_succ_self _
    issued := fun start started => Nat.lt_succ_of_lt (timed.issued start started) }

theorem followUp (timed : Timed timeout session history) (follow : Follow) :
    Timed timeout (session.followUp follow) (history ++ session.followUpStarts follow) := by
  cases follow with
  | settle => exact timed.settle _
  | hold | drop =>
    rw [followUpStarts, List.append_nil]
    exact { timed with }

/-- A move keeps the account, with the starts that it brings about. -/
theorem act (timed : Timed timeout session history) (move : Move) :
    Timed timeout (session.act move).2 (history ++ session.startsBy move) := by
  -- Where nothing starts, the account has to hold of the same history.
  have quiet : ∀ {next : Session}, Timed timeout next history →
      Timed timeout next (history ++ []) := by
    intro next kept
    rw [List.append_nil]
    exact kept
  cases move with
  | start number => exact timed.start number
  | pass milliseconds => exact quiet (timed.pass (Nat.le_add_right _ _))
  | await dispatches => exact quiet (timed.pass (clock_le_lastDeadline _ dispatches))
  | command command =>
    cases command with
    | track producer deployment =>
      apply quiet
      show Timed timeout (session.track producer deployment).2 history
      rw [track]
      cases deployment.kind.requiresTracking with
      | true => exact { timed with }
      | false => exact { timed with }
    | release ids notify follow => exact (timed.letGo .release notify ids).followUp follow
    | promote ids follow => exact (timed.letGo .promote false ids).followUp follow
    | settleHeld => exact { timed.settle session.held with }
    | advance milliseconds => exact timed.startAll.pass (Nat.le_add_right _ _)
    | forgetWorker | forget | markUnreachable | makeTrouble | stallNotices | failNotices | connect
    | provide | failManager | lookup => exact quiet { timed with }

theorem after (timed : Timed timeout session history) (moves : List Move) :
    Timed timeout (session.after moves) (history ++ session.starts moves) := by
  induction moves generalizing session history with
  | nil =>
    rw [starts, List.append_nil]
    exact timed
  | cons move moves ih =>
    have next := ih (timed.act move)
    rw [List.append_assoc] at next
    exact next

end Timed

/-- A session keeps account of all starts, at every moment. -/
theorem timed_of_schedule (job : JobId) (timeout : Nat) (resolver : Resolver)
    (moves : List Move) : Timed timeout ((fresh job timeout resolver).after moves)
      ((fresh job timeout resolver).starts moves) := by
  have start : Timed timeout (fresh job timeout resolver) [] := by
    constructor
    case constant => rfl
    case calls => rfl
    case released => rfl
    case ordered => exact List.Pairwise.nil
    all_goals exact fun _ inside => absurd inside List.not_mem_nil
  exact start.after moves

end Session

end PartitionLedger
