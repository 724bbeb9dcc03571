/-
# Schedules

The commands of a session run its waiting tasks in one fixed order and at fixed
moments. A schedule leaves that open: between the commands, any waiting task may start,
time may pass, and dispatches may be awaited whose tasks were started in any order. The
running commands are schedules of this sort, so what holds along every schedule holds
along every list of commands.

Tasks and time never change what later dispatches depend on, which is the standing of
the session.
-/

import PartitionLedger.Command
import PartitionLedger.Proofs.Ledger.Coherence

namespace PartitionLedger

open Collection

/-- What may happen next in a session: a command, or something that no command decides. -/
inductive Move where
  | command (command : Command)
  /-- The waiting task with this number starts. -/
  | start (number : Nat)
  /-- Time passes. -/
  | pass (milliseconds : Nat)
  /-- The started tasks of these dispatches are waited for. -/
  | await (dispatches : List Nat)

/-- The partitions that a move asks to let go of. -/
def Move.requested : Move → List PartitionId
  | .command (.release ids _ _) => ids
  | .command (.promote ids _) => ids
  | _ => []

namespace Session

/-- A session at its beginning. -/
def fresh (job : JobId) (timeout : Nat) (resolver : Resolver) : Session :=
  { job, timeout, resolver }

/-- Make a move. -/
def act (session : Session) : Move → Reply × Session
  | .command command => session.perform command
  | .start number => (.done, session.start number)
  | .pass milliseconds =>
    (.done, { session with clock := session.clock + milliseconds }.expire)
  | .await dispatches =>
    (.done, { session with clock := session.lastDeadline dispatches }.expire)

/-- The session after some moves. -/
def after (session : Session) : List Move → Session
  | [] => session
  | move :: moves => (session.act move).2.after moves

/-- A move, with the session before it and the reply to it. -/
structure Step where
  before : Session
  move : Move
  reply : Reply

/-- The steps of a schedule. -/
def trace (session : Session) : List Move → List Step
  | [] => []
  | move :: moves => ⟨session, move, (session.act move).1⟩ :: (session.act move).2.trace moves

theorem after_append (session : Session) (moves moves' : List Move) :
    session.after (moves ++ moves') = (session.after moves).after moves' := by
  induction moves generalizing session with
  | nil => rfl
  | cons move moves ih => exact ih (session.act move).2

/-- Each step of a schedule is taken from the session that the earlier moves lead to. -/
theorem trace_eq_append_cons {session : Session} {moves : List Move} {earlier later : List Step}
    {step : Step} (split : session.trace moves = earlier ++ step :: later) :
    ∃ moves₁ move moves₂, moves = moves₁ ++ move :: moves₂ ∧
      step = ⟨session.after moves₁, move, ((session.after moves₁).act move).1⟩ ∧
      later = ((session.after moves₁).act move).2.trace moves₂ := by
  induction earlier generalizing session moves with
  | nil =>
    cases moves with
    | nil => cases split
    | cons move moves =>
      cases split
      exact ⟨[], move, moves, rfl, rfl, rfl⟩
  | cons first earlier ih =>
    cases moves with
    | nil => cases split
    | cons move moves =>
      rw [trace, List.cons_append, List.cons.injEq] at split
      obtain ⟨moves₁, move', moves₂, rfl, taken, rest⟩ := ih split.2
      exact ⟨move :: moves₁, move', moves₂, rfl, taken, rest⟩

/-- Commands alone are a schedule. -/
theorem performAll_eq (session : Session) (commands : List Command) :
    session.performAll commands =
      ((session.trace (commands.map .command)).map (·.reply),
        session.after (commands.map .command)) := by
  induction commands generalizing session with
  | nil => rfl
  | cons command commands ih =>
    show ((session.perform command).1 :: ((session.perform command).2.performAll commands).1,
      ((session.perform command).2.performAll commands).2) = _
    rw [ih]
    rfl

/-! ### Standing -/

/-- What the replies of a session depend on, as far as letting go is concerned. -/
structure Standing where
  job : JobId
  resolver : Resolver
  ledger : Ledger
  unreachable : OrderedSet WorkerId
  dispatchCount : Nat

/-- The standing of a session. -/
def standing (session : Session) : Standing :=
  ⟨session.job, session.resolver, session.ledger, session.fleet.unreachable,
    session.dispatchCount⟩

/-- The standing decides which gateways are found. -/
theorem resolves_eq_of_standing_eq {session other : Session}
    (same : session.standing = other.standing) : session.resolves = other.resolves := by
  have resolver := congrArg Standing.resolver same
  have unreachable := congrArg Standing.unreachable same
  have dispatchCount := congrArg Standing.dispatchCount same
  simp only [standing] at resolver unreachable dispatchCount
  funext worker
  simp only [resolves, Fleet.resolves, resolver, unreachable, dispatchCount]

@[simp]
theorem standing_await (session : Session) (task : Task) (answer : Answer) :
    (session.await task answer).standing = session.standing := by
  cases answer <;> rfl

@[simp]
theorem standing_run (session : Session) (task : Task) :
    (session.run task).standing = session.standing := by
  rw [run]
  cases task.errand with
  | call call => exact standing_await _ _ _
  | notice descriptor => exact standing_await _ _ _

@[simp]
theorem standing_foldl_run (session : Session) (tasks : List Task) :
    (tasks.foldl run session).standing = session.standing := by
  induction tasks generalizing session with
  | nil => rfl
  | cons task tasks ih => rw [List.foldl_cons, ih, standing_run]

@[simp]
theorem standing_start (session : Session) (number : Nat) :
    (session.start number).standing = session.standing := by
  rw [start]
  split
  · rfl
  · exact standing_run _ _

@[simp]
theorem standing_startAll (session : Session) : session.startAll.standing = session.standing :=
  standing_foldl_run _ _

@[simp]
theorem standing_advance (session : Session) (milliseconds : Nat) :
    (session.advance milliseconds).standing = session.standing :=
  session.standing_startAll

@[simp]
theorem standing_settle (session : Session) (dispatches : List Nat) :
    (session.settle dispatches).standing = session.standing :=
  session.standing_startAll

@[simp]
theorem standing_settleHeld (session : Session) :
    session.settleHeld.standing = session.standing :=
  session.standing_settle session.held

@[simp]
theorem standing_followUp (session : Session) (follow : Follow) :
    (session.followUp follow).standing = session.standing := by
  cases follow with
  | settle => exact session.standing_settle _
  | hold => rfl
  | drop => rfl

theorem job_eq_of_standing_eq {session other : Session}
    (same : session.standing = other.standing) : session.job = other.job :=
  congrArg Standing.job same

theorem ledger_eq_of_standing_eq {session other : Session}
    (same : session.standing = other.standing) : session.ledger = other.ledger :=
  congrArg Standing.ledger same

/-! ### The ledger along a schedule -/

/-- What a track command gives back. -/
theorem track_fst (session : Session) (producer : WorkerId) (deployment : Deployment) :
    (session.track producer deployment).1 = deployment.kind.requiresTracking := by
  rw [track]
  cases tracked : deployment.kind.requiresTracking with
  | false => rfl
  | true => exact (Ledger.register_fst _ _).trans tracked

/-- A track command registers the deployment, if its kind requires it. -/
theorem track_ledger (session : Session) (producer : WorkerId) (deployment : Deployment) :
    (session.track producer deployment).2.ledger =
      (session.ledger.register (.ofDeployment producer deployment)).2 := by
  rw [track]
  cases tracked : deployment.kind.requiresTracking with
  | false =>
    exact (Ledger.register_of_not_tracked session.ledger (.ofDeployment producer deployment)
      tracked).symm
  | true => rfl

/-- A dispatch is issued from what leaves the ledger. -/
theorem letGo_fst (session : Session) (disposition : Disposition) (notify : Bool)
    (ids : List PartitionId) :
    (session.letGo disposition notify ids).1 =
      Dispatch.issue session.job session.resolves disposition notify
        (session.ledger.removeAll (OrderedSet.toList (OrderedSet.ofList ids))).1 := rfl

/-- A release or promotion leaves the ledger that its removal leaves, whatever is done with
the dispatch. -/
theorem letGo_followUp_ledger (session : Session) (disposition : Disposition) (notify : Bool)
    (ids : List PartitionId) (follow : Follow) :
    ((session.letGo disposition notify ids).2.followUp follow).ledger =
      (session.ledger.removeAll (OrderedSet.toList (OrderedSet.ofList ids))).2 :=
  ledger_eq_of_standing_eq (standing_followUp _ follow)

/-- A dispatch comes from letting go of the partitions requested, and is followed up. -/
theorem exists_followUp_of_dispatched {session : Session} {move : Move} {dispatch : Dispatch}
    (reply : (session.act move).1 = .dispatched dispatch) :
    ∃ disposition notify follow, dispatch = (session.letGo disposition notify move.requested).1 ∧
      (session.act move).2 =
        (session.letGo disposition notify move.requested).2.followUp follow := by
  cases move with
  | start | pass | await => cases reply
  | command command =>
    cases command with
    | release ids notify follow =>
      cases reply
      exact ⟨.release, notify, follow, rfl, rfl⟩
    | promote ids follow =>
      cases reply
      exact ⟨.promote, false, follow, rfl, rfl⟩
    | track | forgetWorker | forget | settleHeld | advance | markUnreachable | makeTrouble
    | stallNotices | failNotices | connect | provide | failManager | lookup => cases reply

/-- Every dispatch comes from letting go of partitions, whatever is done with it. -/
theorem letGo_of_dispatched {session : Session} {move : Move} {dispatch : Dispatch}
    (reply : (session.act move).1 = .dispatched dispatch) :
    ∃ disposition notify ids, dispatch = (session.letGo disposition notify ids).1 ∧
      (session.act move).2.ledger =
        (session.ledger.removeAll (OrderedSet.toList (OrderedSet.ofList ids))).2 := by
  obtain ⟨disposition, notify, follow, made, next⟩ := exists_followUp_of_dispatched reply
  refine ⟨disposition, notify, move.requested, made, ?_⟩
  rw [next]
  exact session.letGo_followUp_ledger disposition notify move.requested follow

/-- A session is about one job. -/
theorem act_job (session : Session) (move : Move) : (session.act move).2.job = session.job := by
  cases move with
  | start number => exact job_eq_of_standing_eq (standing_start session number)
  | pass milliseconds => rfl
  | await dispatches => rfl
  | command command =>
    cases command with
    | track producer deployment =>
      show (session.track producer deployment).2.job = session.job
      rw [track]
      cases deployment.kind.requiresTracking <;> rfl
    | release ids notify follow =>
      exact (job_eq_of_standing_eq (standing_followUp (session.release ids notify).2 follow)).trans
        rfl
    | promote ids follow =>
      exact (job_eq_of_standing_eq (standing_followUp (session.promote ids).2 follow)).trans rfl
    | settleHeld => exact job_eq_of_standing_eq (standing_settleHeld session)
    | advance milliseconds => exact job_eq_of_standing_eq (standing_advance session milliseconds)
    | forgetWorker | forget | markUnreachable | makeTrouble | stallNotices | failNotices | connect
    | provide | failManager | lookup => rfl

theorem after_job (session : Session) (moves : List Move) :
    (session.after moves).job = session.job := by
  induction moves generalizing session with
  | nil => rfl
  | cons move moves ih => rw [after, ih, act_job]

/-- A move changes the ledger in one way at most. -/
theorem act_ledger (session : Session) (move : Move) :
    (session.act move).2.ledger = session.ledger ∨
      ∃ change, (session.act move).2.ledger = (session.ledger.change change).2 := by
  cases move with
  | start number => exact Or.inl (ledger_eq_of_standing_eq (standing_start session number))
  | pass milliseconds => exact Or.inl rfl
  | await dispatches => exact Or.inl rfl
  | command command =>
    cases command with
    | track producer deployment =>
      exact Or.inr ⟨.register producer deployment, session.track_ledger producer deployment⟩
    | forgetWorker worker => exact Or.inr ⟨.removeWorker worker, rfl⟩
    | forget ids => exact Or.inr ⟨.removeAll (OrderedSet.toList (OrderedSet.ofList ids)), rfl⟩
    | release ids notify follow =>
      exact Or.inr ⟨.removeAll (OrderedSet.toList (OrderedSet.ofList ids)),
        session.letGo_followUp_ledger .release notify ids follow⟩
    | promote ids follow =>
      exact Or.inr ⟨.removeAll (OrderedSet.toList (OrderedSet.ofList ids)),
        session.letGo_followUp_ledger .promote false ids follow⟩
    | settleHeld => exact Or.inl (ledger_eq_of_standing_eq (standing_settleHeld session))
    | advance milliseconds =>
      exact Or.inl (ledger_eq_of_standing_eq (standing_advance session milliseconds))
    | markUnreachable | makeTrouble | stallNotices | failNotices | connect | provide
    | failManager | lookup => exact Or.inl rfl

theorem coherent_act {session : Session} (coherent : session.ledger.Coherent) (move : Move) :
    (session.act move).2.ledger.Coherent := by
  rcases session.act_ledger move with same | ⟨change, changed⟩
  · rw [same]
    exact coherent
  · rw [changed]
    exact coherent.change change

theorem coherent_after {session : Session} (coherent : session.ledger.Coherent)
    (moves : List Move) : (session.after moves).ledger.Coherent := by
  induction moves generalizing session with
  | nil => exact coherent
  | cons move moves ih => exact ih (coherent_act coherent move)

/-- The indexes of a session's ledger agree at every moment. -/
theorem coherent_of_schedule (job : JobId) (timeout : Nat) (resolver : Resolver)
    (moves : List Move) : ((fresh job timeout resolver).after moves).ledger.Coherent :=
  coherent_after Ledger.Coherent.empty moves

end Session

end PartitionLedger
