/-
# Look-ups follow the latest binding

A directory knows nothing but what the moves so far have said: which resource manager was
bound last, through whatever handle, and what each of them was last told to answer. So every
look-up is answered as the moves before it require, by the manager bound last, which alone
records the request. A failure counts from the moment it is set, even if descriptors are
prepared later. Nothing that happens afterwards undoes a binding, and a look-up changes
nothing but the record of requests, whether or not it fails.
-/

import PartitionLedger.Proofs.Session.Outlook

namespace PartitionLedger

open Collection

namespace Move

/-- The resource manager that the move binds, through whatever handle. -/
def binds? : Move → Option String
  | .command (.connect _ manager) => some manager
  | _ => none

/-- The failure that the move sets on a resource manager. -/
def fails? (name : String) : Move → Option RemoteError
  | .command (.failManager manager cause) => if manager = name then some cause else none
  | _ => none

/-- The descriptors that the move prepares at a resource manager for a dataset. -/
def provides? (name : String) (dataset : DatasetId) : Move → Option (List ShuffleDescriptor)
  | .command (.provide manager provided descriptors) =>
    if manager = name ∧ provided = dataset then some descriptors else none
  | _ => none

/-- The dataset that the move looks up, through whatever handle. -/
def looksUp? : Move → Option DatasetId
  | .command (.lookup _ dataset) => some dataset
  | _ => none

end Move

section Latest

variable {α : Type} (told : Move → Option α)

/-- The latest that some moves tell of a matter. -/
def latest (moves : List Move) : Option α := (moves.filterMap told).getLast?

theorem latest_cons (move : Move) (moves : List Move) :
    latest told (move :: moves) = (latest told moves).or (told move) := by
  rw [latest, latest]
  cases what : told move with
  | none => rw [List.filterMap_cons_none what, Option.or_none]
  | some first => rw [List.filterMap_cons_some what, List.getLast?_cons, Option.or_some]

theorem latest_append_singleton (moves : List Move) (move : Move) :
    latest told (moves ++ [move]) = (told move).or (latest told moves) := by
  induction moves with
  | nil => rw [List.nil_append, latest_cons]; cases told move <;> rfl
  | cons first moves ih => rw [List.cons_append, latest_cons, ih, latest_cons, Option.or_assoc]

theorem latest_eq_none_iff {moves : List Move} :
    latest told moves = none ↔ ∀ move ∈ moves, told move = none := by
  rw [latest, List.getLast?_eq_none_iff, List.filterMap_eq_nil_iff]

end Latest

/-- The datasets that a resource manager is asked for in the course of some moves: those that
are looked up while it is the one bound last. -/
def asked (name : String) (bound : Option String) : List Move → List DatasetId
  | [] => []
  | move :: moves =>
    (if bound = some name then move.looksUp?.toList else []) ++
      asked name (move.binds?.or bound) moves

theorem asked_append_singleton (name : String) (bound : Option String) (moves : List Move)
    (move : Move) :
    asked name bound (moves ++ [move]) = asked name bound moves ++
      if (latest Move.binds? moves).or bound = some name then move.looksUp?.toList else [] := by
  induction moves generalizing bound with
  | nil => rw [List.nil_append, asked, asked, asked, List.append_nil]; rfl
  | cons first moves ih =>
    rw [List.cons_append, asked, asked, ih, latest_cons, Option.or_assoc, List.append_assoc]

namespace Directory

theorem manager_change (directory : Directory) (name other : String)
    (change : ResourceManager → ResourceManager) :
    (directory.change name change).manager other =
      if name = other then change (directory.manager name) else directory.manager other := by
  rw [manager, Directory.change, OrderedMap.get?_insert]
  split <;> rfl

/-- What a change leaves alone stays the same at every resource manager. -/
theorem manager_change_of_kept {β : Type} (part : ResourceManager → β)
    (change : ResourceManager → ResourceManager)
    (kept : ∀ manager, part (change manager) = part manager) (directory : Directory)
    (name other : String) :
    part ((directory.change name change).manager other) = part (directory.manager other) := by
  rw [manager_change]
  split
  · rename_i same
    rw [kept, same]
  · rfl

/-- What a move does to the directory. -/
def act (directory : Directory) : Move → Directory
  | .command (.connect _ manager) => directory.connect manager
  | .command (.provide manager dataset descriptors) =>
    directory.change manager (·.provide dataset descriptors)
  | .command (.failManager manager cause) => directory.change manager (·.failWith cause)
  | .command (.lookup _ dataset) => (directory.lookup dataset).2
  | _ => directory

section Act

variable (directory : Directory) (move : Move) (name : String)

theorem bound_act : (directory.act move).bound = move.binds?.or directory.bound := by
  cases move with
  | start | pass | await => rfl
  | command command =>
    cases command with
    | connect through manager => rfl
    | lookup through dataset =>
      rw [act, lookup]
      cases bound : directory.bound with
      | none => exact bound
      | some manager => exact bound
    | track | forgetWorker | forget | release | promote | settleHeld | advance | markUnreachable
    | makeTrouble | stallNotices | failNotices | provide | failManager => rfl

/-- What a look-up does to a resource manager: the one that is bound records the request. -/
theorem manager_lookup (dataset : DatasetId) :
    (directory.lookup dataset).2.manager name =
      if directory.bound = some name then (directory.manager name).record dataset
      else directory.manager name := by
  rw [lookup]
  cases directory.bound with
  | none => rfl
  | some manager =>
    rw [manager_change]
    by_cases same : manager = name <;> simp [same]

theorem failure_act : ((directory.act move).manager name).failure =
    (move.fails? name).or (directory.manager name).failure := by
  cases move with
  | start | pass | await => rfl
  | command command =>
    cases command with
    | provide manager dataset descriptors =>
      exact manager_change_of_kept ResourceManager.failure (·.provide dataset descriptors)
        (fun _ => rfl) directory manager name
    | failManager manager cause =>
      rw [act, manager_change, Move.fails?]
      split <;> rfl
    | lookup through dataset =>
      rw [act, manager_lookup]
      split <;> rfl
    | track | forgetWorker | forget | release | promote | settleHeld | advance | markUnreachable
    | makeTrouble | stallNotices | failNotices | connect => rfl

theorem descriptors_act (dataset : DatasetId) :
    ((directory.act move).manager name).descriptors.get? dataset =
      (move.provides? name dataset).or ((directory.manager name).descriptors.get? dataset) := by
  cases move with
  | start | pass | await => rfl
  | command command =>
    cases command with
    | provide manager provided descriptors =>
      rw [act, manager_change, Move.provides?]
      by_cases same : manager = name
      · simp only [same, if_true, true_and, ResourceManager.provide, OrderedMap.get?_insert]
        split <;> rfl
      · simp [same]
    | failManager manager cause =>
      have kept := manager_change_of_kept ResourceManager.descriptors (·.failWith cause)
        (fun _ => rfl) directory manager name
      rw [act, kept]
      rfl
    | lookup through dataset =>
      rw [act, manager_lookup]
      split <;> rfl
    | track | forgetWorker | forget | release | promote | settleHeld | advance | markUnreachable
    | makeTrouble | stallNotices | failNotices | connect => rfl

/-- Only a look-up adds to the requests, and only at the resource manager that is bound. -/
theorem requested_act : ((directory.act move).manager name).requested =
    (directory.manager name).requested ++
      if directory.bound = some name then move.looksUp?.toList else [] := by
  have quiet : ∀ {other : List DatasetId}, other = (directory.manager name).requested →
      other = (directory.manager name).requested ++
        if directory.bound = some name then (none : Option DatasetId).toList else [] := by
    intro other same
    rw [same, Option.toList_none, ite_self, List.append_nil]
  cases move with
  | start | pass | await => exact quiet rfl
  | command command =>
    cases command with
    | provide manager dataset descriptors =>
      exact quiet (manager_change_of_kept ResourceManager.requested
        (·.provide dataset descriptors) (fun _ => rfl) directory manager name)
    | failManager manager cause =>
      exact quiet (manager_change_of_kept ResourceManager.requested (·.failWith cause)
        (fun _ => rfl) directory manager name)
    | lookup through dataset =>
      rw [act, manager_lookup]
      split
      · rfl
      · exact (List.append_nil _).symm
    | track | forgetWorker | forget | release | promote | settleHeld | advance | markUnreachable
    | makeTrouble | stallNotices | failNotices | connect => exact quiet rfl

end Act

/-- The directory is what the moves so far have made of it. -/
structure Follows (directory : Directory) (moves : List Move) : Prop where
  bound : directory.bound = latest Move.binds? moves
  failure : ∀ name, (directory.manager name).failure = latest (Move.fails? name) moves
  descriptors : ∀ name dataset, (directory.manager name).descriptors.get? dataset =
    latest (Move.provides? name dataset) moves
  requested : ∀ name, (directory.manager name).requested = asked name none moves

theorem Follows.act {directory : Directory} {moves : List Move} (follows : directory.Follows moves)
    (move : Move) : (directory.act move).Follows (moves ++ [move]) where
  bound := by rw [bound_act, follows.bound, latest_append_singleton]
  failure name := by rw [failure_act, follows.failure, latest_append_singleton]
  descriptors name dataset := by
    rw [descriptors_act, follows.descriptors, latest_append_singleton]
  requested name := by
    rw [requested_act, follows.requested, follows.bound, asked_append_singleton, Option.or_none]

theorem Follows.isConnected_iff {directory : Directory} {moves : List Move}
    (follows : directory.Follows moves) :
    directory.isConnected = true ↔ ∃ move ∈ moves, move.binds?.isSome = true := by
  rw [isConnected, follows.bound, ← not_iff_not, Bool.not_eq_true,
    Option.isSome_eq_false_iff, Option.isNone_iff_eq_none, latest_eq_none_iff]
  simp only [not_exists, not_and, Bool.not_eq_true, Option.isSome_eq_false_iff,
    Option.isNone_iff_eq_none]

end Directory

namespace Session

theorem directory_startAll (session : Session) :
    session.startAll.directory = session.directory := by
  have ran : ∀ (tasks : List Task) (session : Session),
      (tasks.foldl run session).directory = session.directory := by
    intro tasks
    induction tasks with
    | nil => exact fun _ => rfl
    | cons task tasks ih =>
      intro session
      rw [List.foldl_cons, ih]
      exact congrArg Outlook.directory (outlook_run session task)
  exact ran session.waiting _

theorem directory_followUp (session : Session) (follow : Follow) :
    (session.followUp follow).directory = session.directory := by
  cases follow with
  | settle => exact session.directory_startAll
  | hold => rfl
  | drop => rfl

/-- Tasks, time and partitions leave the directory alone. -/
theorem directory_act (session : Session) (move : Move) :
    (session.act move).2.directory = session.directory.act move := by
  cases move with
  | start number =>
    show (session.start number).directory = session.directory
    rw [start]
    split
    · rfl
    · exact congrArg Outlook.directory (outlook_run _ _)
  | pass | await => rfl
  | command command =>
    cases command with
    | track producer deployment =>
      exact congrArg Outlook.directory (outlook_track session producer deployment)
    | release ids notify follow => exact directory_followUp (session.release ids notify).2 follow
    | promote ids follow => exact directory_followUp (session.promote ids).2 follow
    | settleHeld | advance => exact session.directory_startAll
    | forgetWorker | forget | markUnreachable | makeTrouble | stallNotices | failNotices | connect
    | provide | failManager | lookup => rfl

theorem follows_after {session : Session} {earlier : List Move}
    (follows : session.directory.Follows earlier) (moves : List Move) :
    (session.after moves).directory.Follows (earlier ++ moves) := by
  induction moves generalizing session earlier with
  | nil =>
    rw [List.append_nil]
    exact follows
  | cons move moves ih =>
    have next : (session.act move).2.directory.Follows (earlier ++ [move]) := by
      rw [directory_act]
      exact follows.act move
    have all := ih next
    rw [List.append_assoc] at all
    exact all

/-- At every moment of every schedule, the directory follows the moves made. -/
theorem follows_of_schedule (job : JobId) (timeout : Nat) (resolver : Resolver)
    (moves : List Move) : ((fresh job timeout resolver).after moves).directory.Follows moves := by
  have start : (fresh job timeout resolver).directory.Follows [] :=
    ⟨rfl, fun _ => rfl, fun _ _ => rfl, fun _ => rfl⟩
  exact follows_after start moves

/-- What a look-up must answer after some moves. -/
def answerAfter (moves : List Move) (dataset : DatasetId) :
    Except LookupError (List ShuffleDescriptor) :=
  match latest Move.binds? moves with
  | none => .error .notConnected
  | some name =>
    match latest (Move.fails? name) moves with
    | some cause => .error (.resourceManager cause)
    | none => .ok ((latest (Move.provides? name dataset) moves).getD [])

theorem answerAfter_eq_notConnected_iff (moves : List Move) (dataset : DatasetId) :
    answerAfter moves dataset = .error .notConnected ↔ ∀ move ∈ moves, move.binds? = none := by
  rw [← latest_eq_none_iff, answerAfter]
  cases latest Move.binds? moves with
  | none => simp
  | some name =>
    simp only [reduceCtorEq, iff_false]
    split <;> simp

/-- A look-up is answered as the moves before it require, and does nothing else but add its
request to those of the resource manager that was bound last. -/
structure AnswersLatest (moves : List Move) (dataset : DatasetId) (before : Session)
    (reply : Reply) (after : Session) : Prop where
  answer : reply = .descriptors (answerAfter moves dataset)
  unconnected : reply = .descriptors (.error .notConnected) ↔
    ∀ move ∈ moves, move.binds? = none
  requested : ∀ name, (after.directory.manager name).requested =
    (before.directory.manager name).requested ++
      if latest Move.binds? moves = some name then [dataset] else []
  bound : after.directory.bound = before.directory.bound
  failure : ∀ name, (after.directory.manager name).failure =
    (before.directory.manager name).failure
  descriptors : ∀ name, (after.directory.manager name).descriptors =
    (before.directory.manager name).descriptors

theorem answersLatest {session : Session} {moves : List Move}
    (follows : session.directory.Follows moves) (through : Handle) (dataset : DatasetId) :
    AnswersLatest moves dataset session (session.perform (.lookup through dataset)).1
      (session.perform (.lookup through dataset)).2 := by
  have answered : (session.directory.lookup dataset).1 = answerAfter moves dataset := by
    rw [Directory.lookup, answerAfter, ← follows.bound]
    cases session.directory.bound with
    | none => rfl
    | some name =>
      simp only [ResourceManager.answer, follows.failure, follows.descriptors]
      cases latest (Move.fails? name) moves <;> rfl
  have manager := session.directory.manager_lookup
  constructor
  case answer => exact congrArg Reply.descriptors answered
  case unconnected =>
    rw [← answerAfter_eq_notConnected_iff moves dataset, ← answered]
    exact ⟨fun same => Reply.descriptors.inj same, congrArg Reply.descriptors⟩
  case requested =>
    intro name
    rw [← follows.bound]
    exact session.directory.requested_act (.command (.lookup through dataset)) name
  case bound => exact session.directory.bound_act (.command (.lookup through dataset))
  case failure =>
    exact session.directory.failure_act (.command (.lookup through dataset))
  case descriptors =>
    intro name
    show ((session.directory.lookup dataset).2.manager name).descriptors = _
    rw [manager]
    split <;> rfl

/-- At every moment of every schedule, a look-up through any handle is answered as the latest
moves require, and by nobody unless some handle was used to bind a resource manager before.
The requests recorded are those look-ups. Once a resource manager is bound, no handle is
without one again. -/
theorem lookups_follow_latest (job : JobId) (timeout : Nat) (resolver : Resolver)
    (moves : List Move) :
    let session := (fresh job timeout resolver).after moves
    (∀ through dataset, AnswersLatest moves dataset session
      (session.perform (.lookup through dataset)).1
      (session.perform (.lookup through dataset)).2) ∧
    (∀ name, (session.directory.manager name).requested = asked name none moves) ∧
    (session.directory.isConnected = true ↔ ∃ move ∈ moves, move.binds?.isSome = true) ∧
    (session.directory.isConnected = true → ∀ moves',
      (session.after moves').directory.isConnected = true ∧ ∀ through dataset,
        ((session.after moves').perform (.lookup through dataset)).1 ≠
          .descriptors (.error .notConnected)) := by
  intro session
  have follows : session.directory.Follows moves := follows_of_schedule job timeout resolver moves
  refine ⟨answersLatest follows, follows.requested, follows.isConnected_iff, fun bound moves' => ?_⟩
  obtain ⟨move, made, binds⟩ := follows.isConnected_iff.mp bound
  have follows' := follows_after follows moves'
  have made' : ∃ move ∈ moves ++ moves', move.binds?.isSome = true :=
    ⟨move, List.mem_append_left _ made, binds⟩
  refine ⟨follows'.isConnected_iff.mpr made', fun through dataset none => ?_⟩
  have never := (answersLatest follows' through dataset).unconnected.mp none
  rw [never move (List.mem_append_left _ made)] at binds
  cases binds

end Session

end PartitionLedger
