/-
# Every registration meets one fate

A registration that was accepted ends in one way: a later one of the same partition takes
its place, a forget returns its holding, or a release or promotion lists it; or else it
is still tracked. The steps up to the next registration of the partition form its
chapter. Within it, the partition is tracked until its fate, nothing names it before or
after, and the fate decides what the shuffle master and the workers are told about it.

The proof follows one partition along the schedule. A single step registers it, leaves it
alone, or removes it; from then on the partition stays untracked until it is registered
again.
-/

import PartitionLedger.Proofs.Dispatch.Issue
import PartitionLedger.Proofs.Session.Schedule

namespace PartitionLedger

open Collection

/-- The holdings that a reply returns. -/
def Reply.returned : Reply → List Holding
  | .removed holdings => holdings
  | _ => []

/-- The dispatch that a reply reports. -/
def Reply.dispatch? : Reply → Option Dispatch
  | .dispatched dispatch => some dispatch
  | _ => none

namespace Session

/-- How a registration ends. -/
inductive Fate where
  /-- A later registration of the partition took its place. -/
  | replaced
  /-- A forget returned it as this holding. -/
  | returned (holding : Holding)
  /-- A release listed it, with or without notifying the shuffle master. -/
  | released (notify : Bool) (finds : WorkerId → Bool) (dispatch : Dispatch)
  /-- A promotion listed it. -/
  | promoted (finds : WorkerId → Bool) (dispatch : Dispatch)

namespace Step

/-- The step is an accepted registration of the partition. -/
def registers (step : Step) (id : PartitionId) : Bool :=
  match step.move, step.reply with
  | .command (.track _ deployment), .tracked true => deployment.partitionId = id
  | _, _ => false

/-- The fates of the partition that the reply of the step shows, repeated as often as the
reply lists the partition. -/
def removals (step : Step) (id : PartitionId) : List Fate :=
  match step.move, step.reply with
  | .command (.release _ notify _), .dispatched dispatch =>
    List.replicate (dispatch.untracked.count id) (.released notify step.before.resolves dispatch)
  | .command (.promote _ _), .dispatched dispatch =>
    List.replicate (dispatch.untracked.count id) (.promoted step.before.resolves dispatch)
  | _, reply => (reply.returned.filter fun holding => holding.partitionId = id).map .returned

/-- The notices about the partition that the step issues. -/
def noticesOf (step : Step) (id : PartitionId) : List ShuffleDescriptor :=
  step.reply.dispatch?.toList.flatMap (·.noticesOf id)

/-- The calls naming the partition that the step issues. -/
def callsNaming (step : Step) (id : PartitionId) : List WorkerCall :=
  step.reply.dispatch?.toList.flatMap (·.callsNaming id)

end Step

/-- The fates of a partition up to its next registration. It replaces what is tracked at
that moment. -/
def fates (id : PartitionId) : List Step → List Fate
  | [] => []
  | step :: steps =>
    if step.registers id then if step.before.ledger.isTracked id then [.replaced] else []
    else step.removals id ++ fates id steps

/-- The steps up to the next registration of a partition. -/
def chapter (id : PartitionId) (steps : List Step) : List Step :=
  steps.takeWhile fun step => !step.registers id

/-- The notices about a partition that are issued before it is registered again. -/
def noticesOf (id : PartitionId) (steps : List Step) : List ShuffleDescriptor :=
  (chapter id steps).flatMap (·.noticesOf id)

/-- The calls naming a partition that are issued before it is registered again. -/
def callsNaming (id : PartitionId) (steps : List Step) : List WorkerCall :=
  (chapter id steps).flatMap (·.callsNaming id)

/-- The calls that the holding of a partition asks for: one to its producer, if that one is
found and keeps resources for the partition, and no other. -/
def CallsFor (job : JobId) (disposition : Disposition) (finds : WorkerId → Bool)
    (holding : Holding) (calls : List WorkerCall) : Prop :=
  if holding.occupiesLocalResource && finds holding.producer then
    ∃ partitions, calls = [⟨holding.producer, job, disposition, partitions⟩]
  else calls = []

/-- What goes with the fate of a holding: what is returned is unaltered, a release with
notification notifies the shuffle master once, with the registered descriptor, nothing
else does, and only releases and promotions make calls. -/
def Fate.Entails (job : JobId) (holding : Holding) (notices : List ShuffleDescriptor)
    (calls : List WorkerCall) : Fate → Prop
  | replaced => notices = [] ∧ calls = []
  | returned other => other = holding ∧ notices = [] ∧ calls = []
  | released notify finds _ =>
    notices = (if notify then [holding.shuffle] else []) ∧
      CallsFor job .release finds holding calls
  | promoted finds _ => notices = [] ∧ CallsFor job .promote finds holding calls

/-! ### One step and one partition -/

/-- What a step means for a partition. -/
inductive Touches (id : PartitionId) (step : Step) (next : Session) : Prop where
  /-- The step registers the partition. -/
  | registers (holding : Holding) (registered : step.registers id = true)
      (stored : next.ledger.get? id = some holding)
  /-- The step does not concern the partition. -/
  | passes (registered : step.registers id = false)
      (same : next.ledger.get? id = step.before.ledger.get? id)
      (removals : step.removals id = []) (notices : step.noticesOf id = [])
      (calls : step.callsNaming id = [])
  /-- The step removes the partition. -/
  | removes (holding : Holding) (fate : Fate) (registered : step.registers id = false)
      (stored : step.before.ledger.get? id = some holding) (gone : next.ledger.get? id = none)
      (removals : step.removals id = [fate])
      (entails : fate.Entails step.before.job holding (step.noticesOf id) (step.callsNaming id))

section Touches

variable {id : PartitionId} {step : Step} {next : Session}

/-- Without a dispatch, only what is returned counts. -/
theorem Step.removals_of_dispatch?_none (none : step.reply.dispatch? = none) :
    step.removals id =
      (step.reply.returned.filter fun holding => holding.partitionId = id).map .returned := by
  rw [removals]
  split
  · rename_i replied
    rw [replied] at none
    cases none
  · rename_i replied
    rw [replied] at none
    cases none
  · rfl

theorem Step.registers_eq_false (reply : step.reply ≠ .tracked true) :
    step.registers id = false := by
  obtain ⟨before, move, reply'⟩ := step
  rw [registers]
  split
  · rename_i tracked
    exact absurd tracked reply
  · rfl

/-- A step that neither registers nor removes anything concerns no partition. -/
theorem touches_of_silent (registered : step.registers id = false)
    (returned : step.reply.returned = []) (dispatch : step.reply.dispatch? = none)
    (same : next.ledger = step.before.ledger) : Touches id step next := by
  have removals : step.removals id = [] := by
    rw [Step.removals_of_dispatch?_none dispatch, returned]
    rfl
  refine .passes registered (by rw [same]) removals ?_ ?_
  · rw [Step.noticesOf, dispatch]
    rfl
  · rw [Step.callsNaming, dispatch]
    rfl

/-- A forget returns the holding that was stored. -/
theorem touches_of_removed {chosen : Holding → Bool} {removed : List Holding}
    (coherent : step.before.ledger.Coherent)
    (removes : Ledger.Removes step.before.ledger chosen removed next.ledger)
    (reply : step.reply = .removed removed) : Touches id step next := by
  have registered : step.registers id = false := Step.registers_eq_false (by rw [reply]; nofun)
  have notices : step.noticesOf id = [] := by rw [Step.noticesOf, reply]; rfl
  have calls : step.callsNaming id = [] := by rw [Step.callsNaming, reply]; rfl
  have removals : step.removals id =
      (removed.filter fun holding => holding.partitionId = id).map .returned := by
    rw [Step.removals_of_dispatch?_none (by rw [reply]; rfl), reply]
    rfl
  rcases removes.one coherent id with ⟨own, same⟩ | ⟨holding, stored, gone, own⟩
  · refine .passes registered same ?_ notices calls
    rw [removals, own]
    rfl
  · refine .removes holding (.returned holding) registered stored gone ?_ ⟨rfl, notices, calls⟩
    rw [removals, own]
    rfl

/-- A dispatch makes the calls that the removed holding of a partition asks for. -/
theorem callsFor_issue (job : JobId) (resolves : WorkerId → Bool) (disposition : Disposition)
    (notify : Bool) {removed : List Holding} {holding : Holding}
    (own : (removed.filter fun holding => holding.partitionId = id) = [holding]) :
    CallsFor job disposition resolves holding
      ((Dispatch.issue job resolves disposition notify removed).callsNaming id) := by
  rw [← Option.toList_some] at own
  rw [CallsFor]
  cases occupies : holding.occupiesLocalResource with
  | false =>
    rw [Bool.false_and, if_neg Bool.false_ne_true]
    apply Dispatch.issue_callsNaming_eq_nil job resolves disposition notify own
    intro other same
    cases same
    exact occupies
  | true =>
    obtain ⟨partitions, issued⟩ := Dispatch.issue_callsNaming_of_occupies job resolves disposition
      notify own rfl occupies
    rw [Bool.true_and, issued]
    split
    · exact ⟨partitions, rfl⟩
    · rfl

/-- A dispatch lists the partition if it was stored, and issues what its holding asks for. -/
theorem touches_of_dispatched {chosen : Holding → Bool} {removed : List Holding}
    {disposition : Disposition} {notify : Bool} {fate : Fate}
    (coherent : step.before.ledger.Coherent)
    (removes : Ledger.Removes step.before.ledger chosen removed next.ledger)
    (reply : step.reply = .dispatched
      (Dispatch.issue step.before.job step.before.resolves disposition notify removed))
    (removals : step.removals id = List.replicate
      ((Dispatch.issue step.before.job step.before.resolves disposition notify
        removed).untracked.count id) fate)
    (entails : ∀ holding calls,
      CallsFor step.before.job disposition step.before.resolves holding calls →
        fate.Entails step.before.job holding (if notify then [holding.shuffle] else []) calls) :
    Touches id step next := by
  have registered : step.registers id = false := Step.registers_eq_false (by rw [reply]; nofun)
  have notices : step.noticesOf id = (Dispatch.issue step.before.job step.before.resolves
      disposition notify removed).noticesOf id := by
    rw [Step.noticesOf, reply]
    exact List.append_nil _
  have calls : step.callsNaming id = (Dispatch.issue step.before.job step.before.resolves
      disposition notify removed).callsNaming id := by
    rw [Step.callsNaming, reply]
    exact List.append_nil _
  rcases removes.one coherent id with ⟨own, same⟩ | ⟨holding, stored, gone, own⟩
  · refine .passes registered same ?_ ?_ ?_
    · rw [removals, Dispatch.count_issue_untracked _ _ _ _ own]
      rfl
    · rw [notices, Dispatch.issue_noticesOf _ _ _ _ own]
      cases notify <;> rfl
    · rw [calls]
      exact Dispatch.issue_callsNaming_eq_nil _ _ _ _ own nofun
  · refine .removes holding fate registered stored gone ?_ ?_
    · rw [removals, Dispatch.count_issue_untracked _ _ _ _ own]
      rfl
    · have asked : CallsFor step.before.job disposition step.before.resolves holding
          (step.callsNaming id) := by
        rw [calls]
        exact callsFor_issue _ _ _ _ own
      have told : step.noticesOf id = if notify then [holding.shuffle] else [] := by
        rw [notices, Dispatch.issue_noticesOf _ _ _ _ own]
        rfl
      rw [told]
      exact entails holding _ asked

end Touches

/-- A track command registers the deployed partition, if its kind requires it. -/
theorem touches_track (session : Session) (producer : WorkerId) (deployment : Deployment)
    (id : PartitionId) :
    Touches id ⟨session, .command (.track producer deployment),
        .tracked (session.track producer deployment).1⟩
      (session.track producer deployment).2 := by
  have ledger := session.track_ledger producer deployment
  rw [track_fst]
  cases tracked : deployment.kind.requiresTracking with
  | false =>
    rw [Ledger.register_of_not_tracked session.ledger (.ofDeployment producer deployment)
      tracked] at ledger
    exact touches_of_silent rfl rfl rfl ledger
  | true =>
    have stored : (session.track producer deployment).2.ledger.get? id =
        if deployment.partitionId = id then some (.ofDeployment producer deployment)
        else session.ledger.get? id := by
      rw [ledger]
      exact Ledger.get?_register session.ledger (.ofDeployment producer deployment) tracked id
    by_cases same : deployment.partitionId = id
    · rw [if_pos same] at stored
      exact .registers _ (decide_eq_true same) stored
    · rw [if_neg same] at stored
      exact .passes (decide_eq_false same) stored rfl rfl rfl

/-- Every move registers a partition, leaves it alone, or removes it. -/
theorem touches_act {session : Session} (coherent : session.ledger.Coherent) (move : Move)
    (id : PartitionId) :
    Touches id ⟨session, move, (session.act move).1⟩ (session.act move).2 := by
  cases move with
  | start number =>
    exact touches_of_silent rfl rfl rfl (ledger_eq_of_standing_eq (standing_start session number))
  | pass milliseconds => exact touches_of_silent rfl rfl rfl rfl
  | await dispatches => exact touches_of_silent rfl rfl rfl rfl
  | command command =>
    cases command with
    | track producer deployment => exact touches_track session producer deployment id
    | forgetWorker worker =>
      exact touches_of_removed coherent (coherent.removes_removeWorker worker) rfl
    | forget ids => exact touches_of_removed coherent (coherent.removes_removeAll _) rfl
    | release ids notify follow =>
      have removes := coherent.removes_removeAll (OrderedSet.toList (OrderedSet.ofList ids))
      rw [← session.letGo_followUp_ledger .release notify ids follow] at removes
      exact touches_of_dispatched coherent removes rfl rfl fun _ _ asked => ⟨rfl, asked⟩
    | promote ids follow =>
      have removes := coherent.removes_removeAll (OrderedSet.toList (OrderedSet.ofList ids))
      rw [← session.letGo_followUp_ledger .promote false ids follow] at removes
      exact touches_of_dispatched coherent removes rfl rfl fun _ _ asked => ⟨rfl, asked⟩
    | settleHeld =>
      exact touches_of_silent rfl rfl rfl (ledger_eq_of_standing_eq (standing_settleHeld session))
    | advance milliseconds =>
      exact touches_of_silent rfl rfl rfl
        (ledger_eq_of_standing_eq (standing_advance session milliseconds))
    | markUnreachable | makeTrouble | stallNotices | failNotices | connect | provide
    | failManager | lookup => exact touches_of_silent rfl rfl rfl rfl

/-! ### The steps after a registration -/

section Chapter

variable {id : PartitionId} {step : Step}

theorem not_registers_cons (registered : step.registers id = true) (steps : List Step) :
    ¬ ∀ other ∈ step :: steps, other.registers id = false := by
  intro none
  have := none step List.mem_cons_self
  rw [registered] at this
  cases this

theorem fates_cons (registered : step.registers id = false) (steps : List Step) :
    fates id (step :: steps) = step.removals id ++ fates id steps := by
  rw [fates, registered, if_neg Bool.false_ne_true]

theorem noticesOf_cons (registered : step.registers id = false) (steps : List Step) :
    noticesOf id (step :: steps) = step.noticesOf id ++ noticesOf id steps := by
  rw [noticesOf, chapter, List.takeWhile_cons, registered]
  rfl

theorem callsNaming_cons (registered : step.registers id = false) (steps : List Step) :
    callsNaming id (step :: steps) = step.callsNaming id ++ callsNaming id steps := by
  rw [callsNaming, chapter, List.takeWhile_cons, registered]
  rfl

theorem noticesOf_cons_of_registers (registered : step.registers id = true)
    (steps : List Step) : noticesOf id (step :: steps) = [] := by
  rw [noticesOf, chapter, List.takeWhile_cons, registered]
  rfl

theorem callsNaming_cons_of_registers (registered : step.registers id = true)
    (steps : List Step) : callsNaming id (step :: steps) = [] := by
  rw [callsNaming, chapter, List.takeWhile_cons, registered]
  rfl

end Chapter

/-- Nothing happens to a partition in some steps until it is registered again; without a
registration it is not tracked after them. -/
structure Dormant (id : PartitionId) (steps : List Step) (final : Session) : Prop where
  noFates : fates id steps = []
  noNotices : noticesOf id steps = []
  noCalls : callsNaming id steps = []
  stays : (∀ step ∈ steps, step.registers id = false) → final.ledger.get? id = none

/-- A partition that is not tracked is dormant. -/
theorem dormant_of_untracked {session : Session} (coherent : session.ledger.Coherent)
    {id : PartitionId} (gone : session.ledger.get? id = none) (moves : List Move) :
    Dormant id (session.trace moves) (session.after moves) := by
  induction moves generalizing session with
  | nil => exact ⟨rfl, rfl, rfl, fun _ => gone⟩
  | cons move moves ih =>
    rw [trace, after]
    cases touches_act coherent move id with
    | registers holding registered stored =>
      refine ⟨?_, noticesOf_cons_of_registers registered _,
        callsNaming_cons_of_registers registered _, ?_⟩
      · have untracked : session.ledger.isTracked id = false := Option.isSome_eq_false_iff.mpr
          (Option.isNone_iff_eq_none.mpr gone)
        rw [fates, registered, if_pos rfl, untracked, if_neg Bool.false_ne_true]
      · intro none
        exact absurd none (not_registers_cons registered _)
    | passes registered same removals notices calls =>
      have rest := ih (coherent_act coherent move) (same.trans gone)
      constructor
      case noFates =>
        rw [fates_cons registered, removals, rest.noFates, List.append_nil]
      case noNotices =>
        rw [noticesOf_cons registered, notices, rest.noNotices, List.append_nil]
      case noCalls =>
        rw [callsNaming_cons registered, calls, rest.noCalls, List.append_nil]
      case stays =>
        intro none
        exact rest.stays fun step inside => none step (List.mem_cons_of_mem _ inside)
    | removes holding fate registered stored =>
      rw [gone] at stored
      cases stored

/-- What is to be said about a registration, given the steps after it: it meets at most
one fate, and none exactly if its holding is the one still tracked; and its fate decides
what is issued about the partition until it is registered again. -/
structure Accounted (job : JobId) (id : PartitionId) (holding : Holding) (steps : List Step)
    (final : Session) : Prop where
  atMostOne : (fates id steps).length ≤ 1
  none_iff : fates id steps = [] ↔
    (∀ step ∈ steps, step.registers id = false) ∧ final.ledger.get? id = some holding
  entails : ∀ fate ∈ fates id steps,
    fate.Entails job holding (noticesOf id steps) (callsNaming id steps)
  silent : fates id steps = [] → noticesOf id steps = [] ∧ callsNaming id steps = []

namespace Accounted

variable {job : JobId} {id : PartitionId} {holding : Holding} {step : Step} {steps : List Step}
  {final : Session}

/-- The next registration of a tracked partition replaces it. -/
theorem of_registers (registered : step.registers id = true)
    (tracked : step.before.ledger.isTracked id = true) :
    Accounted job id holding (step :: steps) final := by
  have fate : fates id (step :: steps) = [.replaced] := by
    rw [fates, registered, if_pos rfl, tracked, if_pos rfl]
  constructor
  case atMostOne =>
    rw [fate]
    exact Nat.le_refl 1
  case none_iff =>
    rw [fate]
    constructor
    · exact fun none => absurd none (List.cons_ne_nil _ _)
    · intro kept
      exact absurd kept.1 (not_registers_cons registered steps)
  case entails =>
    intro other met
    rw [fate, List.mem_singleton] at met
    subst met
    exact ⟨noticesOf_cons_of_registers registered steps,
      callsNaming_cons_of_registers registered steps⟩
  case silent =>
    rw [fate]
    exact fun none => absurd none (List.cons_ne_nil _ _)

/-- A step that does not concern the partition leaves the account as it is. -/
theorem of_passes (accounted : Accounted job id holding steps final)
    (registered : step.registers id = false) (removals : step.removals id = [])
    (notices : step.noticesOf id = []) (calls : step.callsNaming id = []) :
    Accounted job id holding (step :: steps) final := by
  have same : fates id (step :: steps) = fates id steps := by
    rw [fates_cons registered, removals, List.nil_append]
  have told : noticesOf id (step :: steps) = noticesOf id steps := by
    rw [noticesOf_cons registered, notices, List.nil_append]
  have called : callsNaming id (step :: steps) = callsNaming id steps := by
    rw [callsNaming_cons registered, calls, List.nil_append]
  constructor
  case atMostOne =>
    rw [same]
    exact accounted.atMostOne
  case none_iff =>
    rw [same, accounted.none_iff, List.forall_mem_cons]
    simp only [registered, true_and]
  case entails =>
    rw [same, told, called]
    exact accounted.entails
  case silent =>
    rw [same, told, called]
    exact accounted.silent

/-- A removal is the only fate, since the partition is not tracked afterwards. -/
theorem of_removes {fate : Fate} (registered : step.registers id = false)
    (removals : step.removals id = [fate])
    (entails : fate.Entails job holding (step.noticesOf id) (step.callsNaming id))
    (dormant : Dormant id steps final) :
    Accounted job id holding (step :: steps) final := by
  have only : fates id (step :: steps) = [fate] := by
    rw [fates_cons registered, removals, dormant.noFates, List.append_nil]
  constructor
  case atMostOne =>
    rw [only]
    exact Nat.le_refl 1
  case none_iff =>
    rw [only]
    constructor
    · exact fun none => absurd none (List.cons_ne_nil _ _)
    · rintro ⟨none, kept⟩
      rw [dormant.stays fun other inside => none other (List.mem_cons_of_mem _ inside)] at kept
      cases kept
  case entails =>
    intro other met
    rw [only, List.mem_singleton] at met
    subst met
    rw [noticesOf_cons registered, callsNaming_cons registered, dormant.noNotices,
      dormant.noCalls, List.append_nil, List.append_nil]
    exact entails
  case silent =>
    rw [only]
    exact fun none => absurd none (List.cons_ne_nil _ _)

end Accounted

/-- A tracked partition meets at most one fate. -/
theorem accounted_of_tracked {session : Session} (coherent : session.ledger.Coherent)
    {id : PartitionId} {holding : Holding} (stored : session.ledger.get? id = some holding)
    (moves : List Move) :
    Accounted session.job id holding (session.trace moves) (session.after moves) := by
  induction moves generalizing session with
  | nil =>
    refine ⟨Nat.zero_le 1, ⟨fun _ => ⟨fun _ inside => ?_, stored⟩, fun _ => rfl⟩,
      fun _ met => ?_, fun _ => ⟨rfl, rfl⟩⟩
    · exact absurd inside List.not_mem_nil
    · exact absurd met List.not_mem_nil
  | cons move moves ih =>
    rw [trace, after]
    cases touches_act coherent move id with
    | registers other registered _ =>
      exact .of_registers registered (Option.isSome_iff_exists.mpr ⟨holding, stored⟩)
    | passes registered same removals notices calls =>
      have rest := ih (coherent_act coherent move) (same.trans stored)
      rw [act_job] at rest
      exact rest.of_passes registered removals notices calls
    | removes other fate registered found gone removals entails =>
      rw [stored] at found
      cases found
      exact .of_removes registered removals entails
        (dormant_of_untracked (coherent_act coherent move) gone moves)

/-- Along every schedule of a new session, every accepted registration is accounted for. -/
theorem registration_accounted (job : JobId) (timeout : Nat) (resolver : Resolver)
    (earlier later : List Move) (producer : WorkerId) (deployment : Deployment)
    (accepted : (((fresh job timeout resolver).after earlier).act
      (.command (.track producer deployment))).1 = .tracked true) :
    let session := (((fresh job timeout resolver).after earlier).act
      (.command (.track producer deployment))).2
    Accounted job deployment.partitionId (.ofDeployment producer deployment)
      (session.trace later) (session.after later) := by
  intro session
  have before := coherent_of_schedule job timeout resolver earlier
  have tracked : deployment.kind.requiresTracking = true := by
    have reply := congrArg Reply.tracked
      (track_fst ((fresh job timeout resolver).after earlier) producer deployment)
    rw [← Reply.tracked.injEq, ← accepted]
    exact reply.symm
  have stored : session.ledger.get? deployment.partitionId =
      some (.ofDeployment producer deployment) := by
    rw [show session.ledger = _ from track_ledger _ producer deployment]
    rw [Ledger.get?_register _ (.ofDeployment producer deployment) tracked]
    exact if_pos rfl
  have about : session.job = job := by
    rw [show session.job = _ from act_job _ _, after_job]
    rfl
  rw [← about]
  exact accounted_of_tracked (coherent_act before _) stored later

/-- A partition moves to another worker and is then released with notification. -/
theorem registration_accounted_moved :
    let earlier : List Move :=
      [.command (.track ⟨2⟩ ⟨⟨9⟩, .blocking, .onWorker ⟨4⟩ ⟨2⟩⟩)]
    let later : List Move := [.command (.release [⟨4⟩, ⟨5⟩, ⟨4⟩] true .drop)]
    let moved : Deployment := ⟨⟨9⟩, .blocking, .onWorker ⟨4⟩ ⟨3⟩⟩
    let step := ((fresh ⟨1⟩ 20 .fleet).after earlier).act (.command (.track ⟨3⟩ moved))
    step.1 = .tracked true ∧
      Accounted ⟨1⟩ ⟨4⟩ (.ofDeployment ⟨3⟩ moved) (step.2.trace later) (step.2.after later) :=
  ⟨rfl, registration_accounted ⟨1⟩ 20 .fleet _ _ ⟨3⟩ ⟨⟨9⟩, .blocking, .onWorker ⟨4⟩ ⟨3⟩⟩ rfl⟩

end Session

end PartitionLedger
