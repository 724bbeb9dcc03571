/-
# Settling takes as long as the slowest task

The tasks of a dispatch are awaited one after another, but all of them have started before,
so that their timeouts run side by side. By the time one has been waited for, the others
have come as much closer to their own deadlines. The clock therefore advances to the last
deadline, in whatever order tasks are awaited, and never further than by the timeout: not
at all if every task was answered, by the timeout if a task of a new dispatch stalls, and by
what is left of the latest timeout if the tasks have started earlier.
-/

import PartitionLedger.Proofs.Session.Starts

namespace PartitionLedger

open Collection

/-- The maximum of a list is a matter of its members. -/
theorem foldl_max_congr (first : Nat) {members others : List Nat}
    (same : ∀ member, member ∈ members ↔ member ∈ others) :
    members.foldl max first = others.foldl max first := by
  apply eq_of_forall_ge_iff
  intro bound
  rw [foldl_max_le_iff, foldl_max_le_iff]
  simp only [same]

namespace Session

/-! ### Awaiting in turn -/

/-- Let the clock go forward to a time. -/
def passTo (session : Session) (clock : Nat) : Session := { session with clock }.expire

/-- Wait until an unanswered task is abandoned, unless this has happened by now. -/
def waitFor (session : Session) (pending : Unanswered) : Session :=
  session.passTo (max session.clock pending.deadline)

/-- What is due comes first. -/
theorem due_append_left {unanswered : List Unanswered} (ordered : InOrder unanswered)
    (clock : Nat) :
    (unanswered.filter fun pending => pending.deadline ≤ clock) ++
      (unanswered.filter fun pending => clock < pending.deadline) = unanswered := by
  induction unanswered with
  | nil => rfl
  | cons pending unanswered ih =>
    obtain ⟨least, rest⟩ := List.pairwise_cons.mp ordered
    by_cases due : pending.deadline ≤ clock
    · rw [List.filter_cons_of_pos (by simpa using due),
        List.filter_cons_of_neg (by simpa using due), List.cons_append, ih rest]
    · have left : ∀ other ∈ pending :: unanswered, clock < other.deadline := by
        rw [List.forall_mem_cons]
        exact ⟨Nat.lt_of_not_le due, fun other inside =>
          Nat.lt_of_lt_of_le (Nat.lt_of_not_le due) (least other inside)⟩
      rw [List.filter_eq_nil_iff.mpr, List.filter_eq_self.mpr, List.nil_append]
      · exact fun other inside => decide_eq_true (left other inside)
      · exact fun other inside => by simpa using left other inside

/-- What is due later on is due sooner, or due later among what is left then. -/
theorem due_append_due {unanswered : List Unanswered} (ordered : InOrder unanswered)
    {sooner later : Nat} (le : sooner ≤ later) :
    (unanswered.filter fun pending => pending.deadline ≤ sooner) ++
        ((unanswered.filter fun pending => sooner < pending.deadline).filter fun pending =>
          pending.deadline ≤ later) =
      unanswered.filter fun pending => pending.deadline ≤ later := by
  have split := due_append_left (List.Pairwise.filter (fun pending => pending.deadline ≤ later)
    ordered) sooner
  have early : ((unanswered.filter fun pending => pending.deadline ≤ later).filter fun pending =>
      pending.deadline ≤ sooner) = unanswered.filter fun pending => pending.deadline ≤ sooner := by
    rw [List.filter_filter]
    apply List.filter_congr
    intro pending _
    rw [← Bool.decide_and, decide_eq_decide]
    omega
  rw [early, List.filter_comm] at split
  exact split

/-- Stopping on the way changes nothing. -/
theorem passTo_passTo {session : Session} (ordered : InOrder session.unanswered)
    {sooner later : Nat} (le : sooner ≤ later) :
    (session.passTo sooner).passTo later = session.passTo later := by
  have left : ((session.unanswered.filter fun pending => sooner < pending.deadline).filter
      fun pending => later < pending.deadline) =
        session.unanswered.filter fun pending => later < pending.deadline := by
    rw [List.filter_filter]
    apply List.filter_congr
    intro pending _
    rw [← Bool.decide_and, decide_eq_decide]
    omega
  simp only [passTo, expire, left, List.append_assoc, ← due_append_due ordered le, List.map_append]
  rfl

/-- Waiting for some tasks in turn takes until the last of their deadlines. -/
theorem foldl_waitFor {session : Session} (ordered : InOrder session.unanswered)
    (order : List Unanswered) (clock : Nat) :
    order.foldl waitFor (session.passTo clock) =
      session.passTo ((order.map fun pending => pending.deadline).foldl max clock) := by
  induction order generalizing clock with
  | nil => rfl
  | cons pending order ih =>
    have next : (session.passTo clock).waitFor pending =
        session.passTo (max clock pending.deadline) :=
      passTo_passTo ordered (Nat.le_max_left _ _)
    rw [List.foldl_cons, next, ih]
    rfl

/-- Awaiting the unanswered tasks of some dispatches in any order is waiting for the last
deadline among them. -/
theorem foldl_waitFor_eq_passTo {session : Session} (ordered : InOrder session.unanswered)
    {dispatches : List Nat} {order : List Unanswered}
    (same : ∀ pending, pending ∈ order ↔
      pending ∈ session.unanswered ∧ pending.task.dispatch ∈ dispatches) :
    order.foldl waitFor session.expire = session.passTo (session.lastDeadline dispatches) := by
  rw [show session.expire = session.passTo session.clock from rfl, foldl_waitFor ordered,
    lastDeadline]
  refine congrArg session.passTo (foldl_max_congr session.clock fun deadline => ?_)
  simp only [List.mem_map, same, List.mem_filter, List.contains_iff_mem]

/-! ### How long it takes -/

/-- The starts of tasks of some dispatches that will be abandoned, but have not been yet. -/
def unfinished (timeout clock : Nat) (history : List Start) (dispatches : List Nat) : List Start :=
  history.filter fun start =>
    start.stalled && dispatches.contains start.task.dispatch && clock < start.time + timeout

/-- The longest time that is left to the tasks of some dispatches. -/
def longestLeft (timeout clock : Nat) (history : List Start) (dispatches : List Nat) : Nat :=
  ((unfinished timeout clock history dispatches).map fun start =>
    start.time + timeout - clock).foldl max 0

theorem mem_unfinished_iff {timeout clock : Nat} {history : List Start} {dispatches : List Nat}
    {start : Start} : start ∈ unfinished timeout clock history dispatches ↔
      start ∈ history ∧ start.stalled = true ∧ start.task.dispatch ∈ dispatches ∧
        clock < start.time + timeout := by
  rw [unfinished, List.mem_filter, Bool.and_eq_true, Bool.and_eq_true, List.contains_iff_mem,
    decide_eq_true_iff, and_assoc]

theorem longestLeft_le_iff {timeout clock bound : Nat} {history : List Start}
    {dispatches : List Nat} : longestLeft timeout clock history dispatches ≤ bound ↔
      ∀ start ∈ history, start.stalled = true → start.task.dispatch ∈ dispatches →
        start.time + timeout ≤ clock + bound := by
  rw [longestLeft, foldl_max_le_iff, List.forall_mem_map]
  simp only [mem_unfinished_iff]
  constructor
  · rintro ⟨_, left⟩ start started stalled among
    by_cases finished : start.time + timeout ≤ clock
    · exact Nat.le_add_right_of_le finished
    · have := left start ⟨started, stalled, among, Nat.lt_of_not_le finished⟩
      omega
  · intro all
    refine ⟨Nat.zero_le bound, ?_⟩
    rintro start ⟨started, stalled, among, _⟩
    exact Nat.sub_le_iff_le_add'.mpr (all start started stalled among)

/-- The last deadline is as far away as the account of starts says. -/
theorem Timed.lastDeadline_eq {timeout : Nat} {session : Session} {history : List Start}
    (timed : Timed timeout session history) (dispatches : List Nat) :
    session.lastDeadline dispatches =
      session.clock + longestLeft timeout session.clock history dispatches := by
  apply Nat.le_antisymm
  · rw [lastDeadline_le_iff]
    refine ⟨Nat.le_add_right _ _, fun pending unanswered among => ?_⟩
    obtain ⟨start, started, stalled, rfl⟩ := timed.stalled pending unanswered
    exact longestLeft_le_iff.mp (Nat.le_refl _) start started stalled among
  · obtain ⟨wait, reached⟩ := Nat.exists_eq_add_of_le (session.clock_le_lastDeadline dispatches)
    obtain ⟨_, within⟩ := (session.lastDeadline_le_iff dispatches _).mp (Nat.le_of_eq reached)
    rw [reached, Nat.add_le_add_iff_left, longestLeft_le_iff]
    intro start started stalled among
    by_cases finished : start.time + timeout ≤ session.clock
    · exact Nat.le_add_right_of_le finished
    · exact within _ (timed.unfinished start started stalled (Nat.lt_of_not_le finished)) among

/-- Among the starts after a dispatch was made, those of its own tasks happen now. -/
theorem Timed.mem_starts_letGo_iff {timeout : Nat} {session : Session} {history : List Start}
    (timed : Timed timeout session history) (disposition : Disposition) (notify : Bool)
    (ids : List PartitionId) (start : Start) :
    let result := session.letGo disposition notify ids
    (start ∈ history ++ result.2.waitingStarts ∧ start.task.dispatch ∈ [session.dispatchCount]) ↔
      ∃ task ∈ tasksFrom session.taskCount session.dispatchCount (errands result.1),
        session.startOf task = start := by
  intro result
  rw [List.mem_append, List.mem_singleton]
  constructor
  · rintro ⟨earlier | waits, own⟩
    · exact absurd own (Nat.ne_of_lt (timed.issued start earlier))
    · obtain ⟨task, inside, rfl⟩ := List.mem_map.mp waits
      rcases List.mem_append.mp inside with old | new
      · exact absurd own (Nat.ne_of_lt (timed.waiting task old))
      · exact ⟨task, new, rfl⟩
  · rintro ⟨task, new, rfl⟩
    have waits : task ∈ result.2.waiting := List.mem_append_right _ new
    exact ⟨Or.inr (List.mem_map_of_mem (f := result.2.startOf) waits),
      dispatch_of_mem_tasksFrom new⟩

/-- The tasks of a new dispatch have the whole timeout before them. -/
theorem Timed.longestLeft_letGo {timeout : Nat} {session : Session} {history : List Start}
    (timed : Timed timeout session history) (disposition : Disposition) (notify : Bool)
    (ids : List PartitionId) :
    let result := session.letGo disposition notify ids
    longestLeft timeout session.clock (history ++ result.2.waitingStarts)
        [session.dispatchCount] =
      if (errands result.1).any session.stalls then timeout else 0 := by
  intro result
  have own := timed.mem_starts_letGo_iff disposition notify ids
  have tasks := errand_tasksFrom session.taskCount session.dispatchCount (errands result.1)
  apply eq_of_forall_ge_iff
  intro bound
  rw [longestLeft_le_iff]
  cases stalls : (errands result.1).any session.stalls with
  | true =>
    obtain ⟨errand, asked, stalled⟩ := List.any_eq_true.mp stalls
    rw [← tasks] at asked
    obtain ⟨task, new, rfl⟩ := List.mem_map.mp asked
    obtain ⟨begun, among⟩ := (own _).mpr ⟨task, new, rfl⟩
    rw [if_pos rfl]
    constructor
    · intro all
      exact Nat.le_of_add_le_add_left (all _ begun stalled among)
    · intro within start begun _ among
      obtain ⟨other, _, rfl⟩ := (own start).mp ⟨begun, among⟩
      exact Nat.add_le_add_left within _
  | false =>
    rw [if_neg Bool.false_ne_true]
    refine iff_of_true (fun start begun stalled among => ?_) (Nat.zero_le bound)
    obtain ⟨task, new, rfl⟩ := (own start).mp ⟨begun, among⟩
    have asked := List.mem_map_of_mem (f := Task.errand) new
    rw [tasks] at asked
    rw [List.any_eq_false] at stalls
    exact absurd stalled (stalls task.errand asked)

/-! ### Settling along a schedule -/

/-- What settling some dispatches comes to, given the starts so far. -/
structure Settled (timeout : Nat) (session : Session) (history : List Start)
    (dispatches : List Nat) (settled : Session) : Prop where
  /-- First all requests that wait are recorded, whichever of them stall. -/
  waiting : session.startAll.waiting = []
  calls : session.startAll.fleet.calls =
    session.fleet.calls ++ session.waiting.filterMap fun task => task.errand.request.call?
  released : session.startAll.master.released =
    session.master.released ++ session.waiting.filterMap fun task => task.errand.request.notice?
  /-- Until then no time has passed, and afterwards nothing is recorded. -/
  before : session.startAll.clock = session.clock
  afterwards : settled.fleet = session.startAll.fleet ∧ settled.master = session.startAll.master
  /-- It does not matter in which order the tasks are awaited. -/
  inTurn : ∀ order : List Unanswered, (∀ pending, pending ∈ order ↔
      pending ∈ session.startAll.unanswered ∧ pending.task.dispatch ∈ dispatches) →
    order.foldl waitFor session.startAll.expire = settled
  finished : ∀ pending ∈ settled.unanswered, pending.task.dispatch ∉ dispatches
  /-- The clock advances by the longest time that is left to one of the tasks. -/
  elapsed : settled.clock = session.clock +
    longestLeft timeout session.clock (history ++ session.waitingStarts) dispatches
  bounded : settled.clock ≤ session.clock + timeout

theorem Timed.settled {timeout : Nat} {session : Session} {history : List Start}
    (timed : Timed timeout session history) (dispatches : List Nat) :
    Settled timeout session history dispatches (session.settle dispatches) := by
  have started := timed.startAll
  have clock : session.startAll.clock = session.clock := congrArg Pace.clock session.pace_startAll
  have elapsed := started.lastDeadline_eq dispatches
  rw [clock] at elapsed
  constructor
  case waiting => exact session.waiting_startAll
  case calls =>
    rw [started.calls, List.filterMap_append, ← timed.calls, waitingStarts, List.filterMap_map]
    rfl
  case released =>
    rw [started.released, List.filterMap_append, ← timed.released, waitingStarts,
      List.filterMap_map]
    rfl
  case before => exact clock
  case afterwards => exact ⟨rfl, rfl⟩
  case inTurn => exact fun order same => foldl_waitFor_eq_passTo started.ordered same
  case finished =>
    intro pending left among
    obtain ⟨unanswered, later⟩ := List.mem_filter.mp left
    have due := ((session.startAll.lastDeadline_le_iff dispatches _).mp (Nat.le_refl _)).2
    exact Nat.not_lt_of_le (due pending unanswered among) (of_decide_eq_true later)
  case elapsed => exact elapsed
  case bounded =>
    show session.startAll.lastDeadline dispatches ≤ _
    rw [elapsed, Nat.add_le_add_iff_left, longestLeft_le_iff]
    intro start begun _ _
    have past := started.past start begun
    rw [clock] at past
    exact Nat.add_le_add_right past timeout

/-- A command that makes a dispatch settles it like any other, and this takes the timeout if
one of its own requests stalls, else no time. -/
def SettlesAtOnce (timeout : Nat) (session : Session) (history : List Start)
    (command : Follow → Command) : Prop :=
  ∃ dispatch, (session.perform (command .settle)).1 = .dispatched dispatch ∧
    Settled timeout (session.perform (command .drop)).2 history [session.dispatchCount]
      (session.perform (command .settle)).2 ∧
    (session.perform (command .settle)).2.clock =
      session.clock + if (errands dispatch).any session.stalls then timeout else 0

theorem Timed.settlesAtOnce {timeout : Nat} {session : Session} {history : List Start}
    (timed : Timed timeout session history) (disposition : Disposition) (notify : Bool)
    (ids : List PartitionId) {command : Follow → Command}
    (makes : ∀ follow, session.perform (command follow) =
      (.dispatched (session.letGo disposition notify ids).1,
        (session.letGo disposition notify ids).2.followUp follow)) :
    SettlesAtOnce timeout session history command := by
  have settled := (timed.letGo disposition notify ids).settled [session.dispatchCount]
  refine ⟨(session.letGo disposition notify ids).1, ?_, ?_, ?_⟩
  · rw [makes]
  · rw [makes, makes]
    exact settled
  · rw [makes, ← timed.longestLeft_letGo disposition notify ids]
    exact settled.elapsed

/-- At every moment of every schedule, settling takes as long as the slowest task that is
waited for. -/
theorem settling_takes_longestLeft (job : JobId) (timeout : Nat) (resolver : Resolver)
    (moves : List Move) :
    let session := (fresh job timeout resolver).after moves
    let history := (fresh job timeout resolver).starts moves
    Timed timeout session history ∧
      (∀ dispatches, Settled timeout session history dispatches (session.settle dispatches)) ∧
      (session.perform .settleHeld).2 = { session.settle session.held with held := [] } ∧
      ∀ ids, (∀ notify, SettlesAtOnce timeout session history (.release ids notify)) ∧
        SettlesAtOnce timeout session history (.promote ids) := by
  intro session history
  have timed : Timed timeout session history := timed_of_schedule job timeout resolver moves
  refine ⟨timed, timed.settled, rfl, fun ids => ⟨fun notify => ?_, ?_⟩⟩
  · exact timed.settlesAtOnce .release notify ids fun _ => rfl
  · exact timed.settlesAtOnce .promote false ids fun _ => rfl

end Session

end PartitionLedger
