/-
# What faults can reach

A worker or the shuffle master that fails or stalls costs time and leaves its mark in the
journal of the tasks. Nothing else depends on it. Two runs that differ only in faults and
in the timeout give the same replies and agree, after every step, on everything but the
clock, the answers that are missing, and what tasks have written.

If other workers are in reach as well, other calls are issued, so that the tasks of the two
runs are no longer the same and their schedules cannot be compared. The runs still agree on
the ledger, on what leaves it, on the notices, and on the calls to workers that both of them
find; and whenever nothing waits, the shuffle master has been told the same.
-/

import PartitionLedger.Proofs.Session.Outlook

namespace PartitionLedger

open Collection

namespace Move

/-- The move tells a worker or the shuffle master to fail or to stall. -/
def isFault : Move → Bool
  | .command (.makeTrouble _ _) | .command (.stallNotices _) | .command (.failNotices _ _) => true
  | _ => false

/-- The move is a circumstance of the owner's work and no part of it: a fault, a worker that
gets out of reach, a task that starts by itself, or time that passes by itself. -/
def isCircumstance (move : Move) : Bool :=
  match move with
  | .start _ | .pass _ | .await _ | .command (.markUnreachable _) => true
  | _ => move.isFault

/-- Every waiting task starts in the course of the move. -/
def isRunning : Move → Bool
  | .command (.release _ _ .settle) | .command (.promote _ .settle) | .command .settleHeld
  | .command (.advance _) => true
  | _ => false

end Move

namespace Session

/-! ### Two runs -/

/-- The session after a step. -/
def Step.after (step : Step) : Session := (step.before.act step.move).2

/-- The steps of a run, without those whose moves are silent. -/
def stepsExcept (silent : Move → Bool) (session : Session) (moves : List Move) : List Step :=
  (session.trace moves).filter fun step => !silent step.move

section TwoRuns

variable {silent : Move → Bool}

theorem stepsExcept_cons_of_silent {move : Move} (quiet : silent move = true) (session : Session)
    (moves : List Move) :
    stepsExcept silent session (move :: moves) =
      stepsExcept silent (session.act move).2 moves := by
  rw [stepsExcept, trace, List.filter_cons_of_neg (by simp [quiet]), stepsExcept]

theorem stepsExcept_cons {move : Move} (quiet : silent move = false) (session : Session)
    (moves : List Move) :
    stepsExcept silent session (move :: moves) =
      ⟨session, move, (session.act move).1⟩ :: stepsExcept silent (session.act move).2 moves := by
  rw [stepsExcept, trace, List.filter_cons_of_pos (by simp [quiet]), stepsExcept]

/-- Runs that share all moves but silent ones match step by step, if silent moves of either
run leave the sessions related, and shared moves match and lead to related sessions. -/
theorem forall₂_stepsExcept {Related : Session → Session → Prop} {Matched : Step → Step → Prop}
    (left : ∀ {session other move}, silent move = true → Related session other →
      Related (session.act move).2 other)
    (right : ∀ {session other move}, silent move = true → Related session other →
      Related session (other.act move).2)
    (both : ∀ {session other move}, silent move = false → Related session other →
      Matched ⟨session, move, (session.act move).1⟩ ⟨other, move, (other.act move).1⟩ ∧
        Related (session.act move).2 (other.act move).2)
    {session other : Session} (related : Related session other) {moves moves' : List Move}
    (same : (moves.filter fun move => !silent move) = moves'.filter fun move => !silent move) :
    List.Forall₂ Matched (stepsExcept silent session moves) (stepsExcept silent other moves') := by
  induction moves generalizing session other moves' with
  | nil =>
    -- The other run has only silent moves left.
    induction moves' generalizing other with
    | nil => exact .nil
    | cons move moves' ih =>
      cases quiet : silent move with
      | true =>
        rw [stepsExcept_cons_of_silent quiet]
        exact ih (right quiet related) (by simpa [quiet] using same)
      | false => simp [quiet] at same
  | cons move moves ih =>
    cases quiet : silent move with
    | true =>
      rw [stepsExcept_cons_of_silent quiet]
      exact ih (left quiet related) (by simpa [quiet] using same)
    | false =>
      -- The shared move comes up in the other run too, after some silent ones.
      induction moves' generalizing other with
      | nil => simp [quiet] at same
      | cons move' moves' ih' =>
        cases quiet' : silent move' with
        | true =>
          rw [stepsExcept_cons_of_silent quiet']
          exact ih' (right quiet' related) (by simpa [quiet'] using same)
        | false =>
          simp only [List.filter_cons, quiet, quiet', Bool.not_false, if_true,
            List.cons.injEq] at same
          obtain ⟨rfl, rest⟩ := same
          obtain ⟨matched, next⟩ := both quiet related
          rw [stepsExcept_cons quiet, stepsExcept_cons quiet]
          exact .cons matched (ih next rest)

end TwoRuns

/-! ### Faults -/

/-- A fault is not in the outlook. -/
theorem outlook_act_of_isFault (session : Session) {move : Move} (fault : move.isFault = true) :
    (session.act move).2.outlook = session.outlook := by
  cases move with
  | start | pass | await => cases fault
  | command command =>
    cases command with
    | makeTrouble | stallNotices | failNotices => rfl
    | track | forgetWorker | forget | release | promote | settleHeld | advance | markUnreachable
    | connect | provide | failManager | lookup => cases fault

/-- A step in two runs, alike in all that faults leave alone. -/
structure Step.Alike (step other : Step) : Prop where
  move : step.move = other.move
  reply : step.reply = other.reply
  outlook : step.after.outlook = other.after.outlook

/-! ### What outages leave alone -/

/-- What a session has to show whichever workers are in reach. -/
structure Account where
  job : JobId
  ledger : Ledger
  directory : Directory
  held : List Nat
  dispatchCount : Nat

/-- The account in an outlook. -/
def Outlook.account (outlook : Outlook) : Account :=
  ⟨outlook.standing.job, outlook.standing.ledger, outlook.directory, outlook.held,
    outlook.standing.dispatchCount⟩

/-- The account of a session. -/
def account (session : Session) : Account := session.outlook.account

theorem account_run (session : Session) (task : Task) :
    (session.run task).account = session.account := by
  rw [account, outlook_run]
  rfl

theorem account_startAll (session : Session) : session.startAll.account = session.account := by
  have all : ∀ (tasks : List Task) (other : Session),
      (tasks.foldl run other).account = other.account := by
    intro tasks
    induction tasks with
    | nil => exact fun _ => rfl
    | cons task tasks ih => exact fun other => (ih _).trans (account_run other task)
  exact all _ _

theorem account_settle (session : Session) (dispatches : List Nat) :
    (session.settle dispatches).account = session.account :=
  (congrArg Outlook.account (outlook_passed session.startAll _)).trans session.account_startAll

theorem account_advance (session : Session) (milliseconds : Nat) :
    (session.advance milliseconds).account = session.account :=
  (congrArg Outlook.account (outlook_passed session.startAll _)).trans session.account_startAll

/-- Circumstances do not show in the account. -/
theorem account_act_of_isCircumstance (session : Session) {move : Move}
    (circumstance : move.isCircumstance = true) :
    (session.act move).2.account = session.account := by
  cases move with
  | start number =>
    show (session.start number).account = session.account
    rw [start]
    split
    · rfl
    · exact account_run _ _
  | pass milliseconds => exact congrArg Outlook.account (outlook_passed session _)
  | await dispatches => exact congrArg Outlook.account (outlook_passed session _)
  | command command =>
    cases command with
    | markUnreachable | makeTrouble | stallNotices | failNotices => rfl
    | track | forgetWorker | forget | release | promote | settleHeld | advance | connect | provide
    | failManager | lookup => cases circumstance

end Session

/-- Two dispatches of the same removal, given who was found for each: they differ in the calls
to workers that only one of them has found. -/
structure Dispatch.Matches (finds finds' : WorkerId → Bool) (dispatch dispatch' : Dispatch) :
    Prop where
  disposition : dispatch.disposition = dispatch'.disposition
  untracked : dispatch.untracked = dispatch'.untracked
  notices : dispatch.notices = dispatch'.notices
  workers : (dispatch.workersCalled ++ dispatch.unreachableWorkers).Perm
    (dispatch'.workersCalled ++ dispatch'.unreachableWorkers)
  calls : (dispatch.calls.filter fun call => finds call.worker && finds' call.worker) =
    dispatch'.calls.filter fun call => finds call.worker && finds' call.worker

/-- Replies are the same, but for dispatches, which match. -/
def Reply.Matches (finds finds' : WorkerId → Bool) : Reply → Reply → Prop
  | .dispatched dispatch, .dispatched dispatch' => dispatch.Matches finds finds' dispatch'
  | reply, reply' => reply = reply'

/-- The workers of a dispatch, found or not, are those of its batches. -/
theorem Dispatch.issue_workers (job : JobId) (resolves : WorkerId → Bool)
    (disposition : Disposition) (notify : Bool) (removed : List Holding) :
    ((issue job resolves disposition notify removed).workersCalled ++
      (issue job resolves disposition notify removed).unreachableWorkers).Perm
        (batches removed).keys := by
  rw [issue_workersCalled, issue_unreachableWorkers]
  exact List.filter_append_perm _ _

theorem Dispatch.matches_issue (job : JobId) (finds finds' : WorkerId → Bool)
    (disposition : Disposition) (notify : Bool) (removed : List Holding) :
    (issue job finds disposition notify removed).Matches finds finds'
      (issue job finds' disposition notify removed) where
  disposition := rfl
  untracked := rfl
  notices := rfl
  workers := (issue_workers _ _ _ _ _).trans (issue_workers _ _ _ _ _).symm
  calls := by
    simp only [issue, List.filter_filter]
    apply List.filter_congr
    intro call _
    cases finds call.worker <;> cases finds' call.worker <;> rfl

namespace Session

section Akin

variable {session other : Session}

theorem letGo_matches (same : session.account = other.account) (disposition : Disposition)
    (notify : Bool) (ids : List PartitionId) :
    (session.letGo disposition notify ids).1.Matches session.resolves other.resolves
        (other.letGo disposition notify ids).1 ∧
      (session.letGo disposition notify ids).2.account =
        (other.letGo disposition notify ids).2.account := by
  have job : session.job = other.job := congrArg Account.job same
  have ledger : session.ledger = other.ledger := congrArg Account.ledger same
  constructor
  · rw [letGo_fst, letGo_fst, job, ledger]
    exact Dispatch.matches_issue _ _ _ _ _ _
  · show { session.account with
        ledger := (session.ledger.removeAll (OrderedSet.toList (OrderedSet.ofList ids))).2
        dispatchCount := session.account.dispatchCount + 1 } = { other.account with
        ledger := (other.ledger.removeAll (OrderedSet.toList (OrderedSet.ofList ids))).2
        dispatchCount := other.account.dispatchCount + 1 }
    rw [ledger, same]

theorem account_followUp (same : session.account = other.account) (follow : Follow) :
    (session.followUp follow).account = (other.followUp follow).account := by
  cases follow with
  | settle =>
    rw [followUp, followUp, account_settle, account_settle]
    exact same
  | hold =>
    show { session.account with
        held := session.account.held ++ [session.account.dispatchCount - 1] } =
      { other.account with held := other.account.held ++ [other.account.dispatchCount - 1] }
    rw [same]
  | drop => exact same

theorem account_ledger (same : session.account = other.account) (ledger : Ledger) :
    { session with ledger }.account = { other with ledger }.account := by
  show { session.account with ledger } = { other.account with ledger }
  rw [same]

theorem account_directory (same : session.account = other.account) (directory : Directory) :
    { session with directory }.account = { other with directory }.account := by
  show { session.account with directory } = { other.account with directory }
  rw [same]

theorem account_track (session : Session) (producer : WorkerId) (deployment : Deployment) :
    (session.track producer deployment).2.account =
      { session with
        ledger := (session.ledger.register (.ofDeployment producer deployment)).2 }.account := by
  rw [account, outlook_track, standing_track]
  rfl

/-- Shared moves have matching replies, and lead from one account to one account. -/
theorem account_act (same : session.account = other.account) {move : Move}
    (shared : move.isCircumstance = false) :
    Reply.Matches session.resolves other.resolves (session.act move).1 (other.act move).1 ∧
      (session.act move).2.account = (other.act move).2.account := by
  have ledger : session.ledger = other.ledger := congrArg Account.ledger same
  have directory : session.directory = other.directory := congrArg Account.directory same
  cases move with
  | start | pass | await => cases shared
  | command command =>
    cases command with
    | markUnreachable | makeTrouble | stallNotices | failNotices => cases shared
    | track producer deployment =>
      have reply : (session.track producer deployment).1 = (other.track producer deployment).1 := by
        rw [track_fst, track_fst]
      refine ⟨congrArg Reply.tracked reply, (account_track session producer deployment).trans ?_⟩
      rw [ledger]
      exact (account_ledger same _).trans (account_track other producer deployment).symm
    | forgetWorker worker =>
      simp only [act, perform, forgetWorker, ledger]
      exact ⟨rfl, account_ledger same _⟩
    | forget ids =>
      simp only [act, perform, forget, ledger]
      exact ⟨rfl, account_ledger same _⟩
    | release ids notify follow =>
      obtain ⟨dispatch, next⟩ := letGo_matches same .release notify ids
      exact ⟨dispatch, account_followUp next follow⟩
    | promote ids follow =>
      obtain ⟨dispatch, next⟩ := letGo_matches same .promote false ids
      exact ⟨dispatch, account_followUp next follow⟩
    | settleHeld =>
      refine ⟨rfl, ?_⟩
      show { (session.settle session.held).account with held := [] } =
        { (other.settle other.held).account with held := [] }
      rw [account_settle, account_settle, same]
    | advance milliseconds =>
      exact ⟨rfl, (account_advance session _).trans (same.trans (account_advance other _).symm)⟩
    | connect through manager =>
      simp only [act, perform, connect, directory]
      exact ⟨rfl, account_directory same _⟩
    | provide manager dataset descriptors =>
      simp only [act, perform, directory]
      exact ⟨rfl, account_directory same _⟩
    | failManager manager cause =>
      simp only [act, perform, directory]
      exact ⟨rfl, account_directory same _⟩
    | lookup through dataset =>
      simp only [act, perform, lookup, directory]
      exact ⟨rfl, account_directory same _⟩

end Akin

/-- A step in two runs, alike in all that outages leave alone. -/
structure Step.Akin (step other : Step) : Prop where
  move : step.move = other.move
  reply : Reply.Matches step.before.resolves other.before.resolves step.reply other.reply
  account : step.after.account = other.after.account
  /-- Once every waiting task has started, the shuffle master has been told the same. -/
  released : step.move.isRunning = true →
    step.after.master.released.Perm other.after.master.released

/-! ### Notices of two runs -/

theorem waiting_act_of_isRunning (session : Session) {move : Move}
    (running : move.isRunning = true) : (session.act move).2.waiting = [] := by
  cases move with
  | start | pass | await => cases running
  | command command =>
    cases command with
    | release ids notify follow =>
      cases follow with
      | settle => exact waiting_startAll _
      | hold | drop => cases running
    | promote ids follow =>
      cases follow with
      | settle => exact waiting_startAll _
      | hold | drop => cases running
    | settleHeld | advance => exact waiting_startAll session
    | track | forgetWorker | forget | markUnreachable | makeTrouble | stallNotices | failNotices
    | connect | provide | failManager | lookup => cases running

theorem dispatch?_act_of_isCircumstance (session : Session) {move : Move}
    (circumstance : move.isCircumstance = true) : (session.act move).1.dispatch? = none := by
  cases move with
  | start | pass | await => rfl
  | command command =>
    cases command with
    | markUnreachable | makeTrouble | stallNotices | failNotices => rfl
    | track | forgetWorker | forget | release | promote | settleHeld | advance | connect | provide
    | failManager | lookup => cases circumstance

/-- Sessions to which two runs have come that share all but their circumstances. -/
structure Paired (session other : Session) : Prop where
  account : session.account = other.account
  notices : ∃ issued issued', session.traffic.Balanced issued ∧ other.traffic.Balanced issued' ∧
    issued.flatMap (·.notices) = issued'.flatMap (·.notices)

namespace Paired

variable {session other : Session} (paired : Paired session other)

include paired

theorem symm : Paired other session := by
  obtain ⟨issued, issued', balanced, balanced', same⟩ := paired.notices
  exact ⟨paired.account.symm, issued', issued, balanced', balanced, same.symm⟩

theorem left {move : Move} (circumstance : move.isCircumstance = true) :
    Paired (session.act move).2 other := by
  obtain ⟨issued, issued', balanced, balanced', same⟩ := paired.notices
  have next := balanced_act balanced move
  rw [dispatch?_act_of_isCircumstance session circumstance, Option.toList_none,
    List.append_nil] at next
  exact ⟨(account_act_of_isCircumstance session circumstance).trans paired.account,
    issued, issued', next, balanced', same⟩

/-- Matching replies issue the same notices. -/
theorem both {move : Move} (shared : move.isCircumstance = false) :
    Paired (session.act move).2 (other.act move).2 := by
  obtain ⟨reply, account⟩ := account_act paired.account shared
  obtain ⟨issued, issued', balanced, balanced', same⟩ := paired.notices
  refine ⟨account, _, _, balanced_act balanced move, balanced_act balanced' move, ?_⟩
  rw [List.flatMap_append, List.flatMap_append, same]
  congr 1
  generalize (session.act move).1 = first, (other.act move).1 = second at reply
  cases first with
  | dispatched dispatch =>
    cases second with
    | dispatched dispatch' =>
      simp only [Reply.dispatch?, Option.toList_some, List.flatMap_singleton]
      exact reply.notices
    | done | tracked | removed | descriptors => cases reply
  | done | tracked | removed | descriptors => rw [show _ = second from reply]

/-- When nothing waits, the shuffle master has been told the same. -/
theorem released (idle : session.waiting = []) (idle' : other.waiting = []) :
    session.master.released.Perm other.master.released := by
  obtain ⟨issued, issued', balanced, balanced', same⟩ := paired.notices
  have told := balanced.notices
  have told' := balanced'.notices
  rw [show session.traffic.pending = [] by rw [Traffic.pending, traffic, idle, List.map_nil],
    List.filterMap_nil, List.append_nil, ← List.map_flatMap, same] at told
  rw [show other.traffic.pending = [] by rw [Traffic.pending, traffic, idle', List.map_nil],
    List.filterMap_nil, List.append_nil, ← List.map_flatMap] at told'
  exact told.trans told'.symm

end Paired

theorem paired_fresh (job : JobId) (timeout timeout' : Nat) (resolver resolver' : Resolver) :
    Paired (fresh job timeout resolver) (fresh job timeout' resolver') := by
  have balanced := balanced_of_schedule job timeout resolver []
  have balanced' := balanced_of_schedule job timeout' resolver' []
  exact ⟨rfl, _, _, balanced, balanced', rfl⟩

/-- Two runs of one owner that differ in faults and in the timeout are alike at every step.
If they differ in outages too, and in when tasks start, they are akin. -/
theorem faults_contained (job : JobId) (timeout timeout' : Nat) (resolver resolver' : Resolver)
    (moves moves' : List Move) :
    ((moves.filter fun move => !move.isFault) = (moves'.filter fun move => !move.isFault) →
      List.Forall₂ Step.Alike (stepsExcept Move.isFault (fresh job timeout resolver) moves)
        (stepsExcept Move.isFault (fresh job timeout' resolver) moves')) ∧
    ((moves.filter fun move => !move.isCircumstance) =
        (moves'.filter fun move => !move.isCircumstance) →
      List.Forall₂ Step.Akin
        (stepsExcept Move.isCircumstance (fresh job timeout resolver) moves)
        (stepsExcept Move.isCircumstance (fresh job timeout' resolver') moves')) := by
  refine ⟨fun same => ?_, fun same => ?_⟩
  · have left : ∀ {session other : Session} {move}, move.isFault = true →
        session.outlook = other.outlook → (session.act move).2.outlook = other.outlook :=
      fun fault same => (outlook_act_of_isFault _ fault).trans same
    have both : ∀ {session other : Session} {move}, move.isFault = false →
        session.outlook = other.outlook →
          Step.Alike ⟨session, move, (session.act move).1⟩ ⟨other, move, (other.act move).1⟩ ∧
            (session.act move).2.outlook = (other.act move).2.outlook := by
      intro session other move _ same
      obtain ⟨reply, next⟩ := outlook_act same move
      exact ⟨⟨rfl, reply, next⟩, next⟩
    have start : (fresh job timeout resolver).outlook = (fresh job timeout' resolver).outlook := rfl
    exact forall₂_stepsExcept left (fun fault same => (left fault same.symm).symm) both start same
  · have both : ∀ {session other : Session} {move}, move.isCircumstance = false →
        Paired session other →
          Step.Akin ⟨session, move, (session.act move).1⟩ ⟨other, move, (other.act move).1⟩ ∧
            Paired (session.act move).2 (other.act move).2 := by
      intro session other move shared paired
      have reply := (account_act paired.account shared).1
      have next := paired.both shared
      exact ⟨⟨rfl, reply, next.account, fun running => next.released
        (waiting_act_of_isRunning session running) (waiting_act_of_isRunning other running)⟩, next⟩
    exact forall₂_stepsExcept (fun circumstance paired => paired.left circumstance)
      (fun circumstance paired => (paired.symm.left circumstance).symm) both
      (paired_fresh job timeout timeout' resolver resolver') same

/-- A worker stalls between the issue of its call and the call itself, or is out of reach. -/
theorem faults_contained_stalled :
    let track : Move := .command (.track ⟨2⟩ ⟨⟨9⟩, .blocking, .onWorker ⟨4⟩ ⟨2⟩⟩)
    let release : Move := .command (.release [⟨4⟩, ⟨5⟩] true .hold)
    let settle : Move := .command .settleHeld
    let moves : List Move := [track, release, .command (.makeTrouble ⟨2⟩ .stall), settle]
    let moves' : List Move := [.command (.stallNotices ⟨4⟩), track, release, settle]
    let outage : List Move := [track, .command (.markUnreachable ⟨2⟩), release, .start 0, settle]
    ((moves.filter fun move => !move.isFault) = (moves'.filter fun move => !move.isFault) ∧
      List.Forall₂ Step.Alike (stepsExcept Move.isFault (fresh ⟨1⟩ 20 .fleet) moves)
        (stepsExcept Move.isFault (fresh ⟨1⟩ 0 .fleet) moves')) ∧
    ((moves.filter fun move => !move.isCircumstance) =
        (outage.filter fun move => !move.isCircumstance) ∧
      List.Forall₂ Step.Akin (stepsExcept Move.isCircumstance (fresh ⟨1⟩ 20 .fleet) moves)
        (stepsExcept Move.isCircumstance (fresh ⟨1⟩ 0 .fleet) outage)) :=
  ⟨⟨rfl, (faults_contained ⟨1⟩ 20 0 .fleet .fleet _ _).1 rfl⟩,
    ⟨rfl, (faults_contained ⟨1⟩ 20 0 .fleet .fleet _ _).2 rfl⟩⟩

end Session

end PartitionLedger
