/-
# Letting go in parts

What an invocation lets go of is decided by the set of the partitions listed, not by their
order or by repetitions. Two invocations in a row, about overlapping lists, come to one that
is about both: the second finds what the first has left. Together they report the same
partitions, issue the same notices, and carry the same partitions to the same workers, none
of them twice; only a worker that has a share in both is called a second time. A repeated
invocation finds nothing and issues nothing.

The gateways have to be the same in both invocations, which a resolver is free not to grant.
-/

import PartitionLedger.Proofs.Dispatch.Batches
import PartitionLedger.Proofs.Ledger.Commutation
import PartitionLedger.Proofs.Session.Exactness

namespace PartitionLedger

open Collection

/-- The answers of the resolver do not depend on when it is asked. -/
def Resolver.Steady : Resolver → Prop
  | .fleet => True
  | .closure finds => ∀ count count', finds count = finds count'

namespace Dispatch

theorem length_callsTo (dispatch : Dispatch) (worker : WorkerId) :
    (dispatch.callsTo worker).length = dispatch.workersCalled.count worker := by
  rw [callsTo, workersCalled, List.count_eq_countP, List.countP_map,
    ← List.countP_eq_length_filter]
  exact List.countP_congr fun call _ => by simp

/-- Two dispatches do between them what one does as a whole. -/
structure Divides (whole first second : Dispatch) : Prop where
  untracked : (first.untracked ++ second.untracked).Perm whole.untracked
  notices : (first.notices ++ second.notices).Perm whole.notices
  sends : ∀ worker id, whole.Sends worker id ↔ first.Sends worker id ∨ second.Sends worker id
  skips : ∀ worker id, whole.Skips worker id ↔ first.Skips worker id ∨ second.Skips worker id
  carried : (first.carried ++ second.carried).Perm whole.carried
  /-- No partition is carried twice, to a worker in reach or out of it. -/
  once : (first.carried ++ second.carried).Nodup

section Issue

variable (job : JobId) (resolves : WorkerId → Bool) (disposition : Disposition) (notify : Bool)

/-- No worker is called twice by one dispatch. -/
theorem length_callsTo_issue_le (removed : List Holding) (worker : WorkerId) :
    ((issue job resolves disposition notify removed).callsTo worker).length ≤ 1 := by
  rw [length_callsTo]
  exact List.nodup_iff_count_le_one.mp
    (nodup_issue_workersCalled job resolves disposition notify removed) worker

variable {removed removed' whole : List Holding}

/-- A worker that is called produced something that was removed. -/
theorem exists_of_called {worker : WorkerId}
    (called : 0 < ((issue job resolves disposition notify removed).callsTo worker).length) :
    ∃ holding ∈ removed, holding.occupiesLocalResource = true ∧ holding.producer = worker := by
  rw [length_callsTo, List.count_pos_iff, mem_issue_workersCalled_iff] at called
  exact called.2

/-- A worker that is called by two dispatches has a share in what was removed for each. -/
theorem exists_of_called_twice {worker : WorkerId}
    (twice : 1 < ((issue job resolves disposition notify removed).callsTo worker ++
      (issue job resolves disposition notify removed').callsTo worker).length) :
    (∃ holding ∈ removed, holding.occupiesLocalResource = true ∧ holding.producer = worker) ∧
      ∃ holding ∈ removed', holding.occupiesLocalResource = true ∧ holding.producer = worker := by
  have first := length_callsTo_issue_le job resolves disposition notify removed worker
  have second := length_callsTo_issue_le job resolves disposition notify removed' worker
  rw [List.length_append] at twice
  exact ⟨exists_of_called job resolves disposition notify (by omega),
    exists_of_called job resolves disposition notify (by omega)⟩

/-- A dispatch of holdings of different partitions is divided by dispatches of its parts. -/
theorem divides_issue (perm : (removed ++ removed').Perm whole)
    (distinct : (whole.map (·.partitionId)).Nodup) :
    Divides (issue job resolves disposition notify whole)
      (issue job resolves disposition notify removed)
      (issue job resolves disposition notify removed') := by
  have distinct' : ((removed ++ removed').map (·.partitionId)).Nodup :=
    (perm.map _).nodup_iff.mpr distinct
  rw [List.map_append] at distinct'
  have parts := List.nodup_append'.mp distinct'
  have carried := (issue_carried_perm job resolves disposition notify parts.1).append
    (issue_carried_perm job resolves disposition notify parts.2.1)
  rw [← List.map_append, ← List.filter_append] at carried
  have asked : ∀ test : Holding → Prop, (∃ holding ∈ whole, test holding) ↔
      (∃ holding ∈ removed, test holding) ∨ ∃ holding ∈ removed', test holding := by
    intro test
    simp only [← perm.mem_iff, List.mem_append, or_and_right, exists_or]
  constructor
  case untracked =>
    have listed := perm.map (·.partitionId)
    rwa [List.map_append] at listed
  case notices =>
    cases notify with
    | false => exact List.Perm.refl _
    | true =>
      have told := perm.map (·.shuffle)
      rwa [List.map_append] at told
  case sends =>
    intro worker id
    rw [issue_sends_iff, issue_sends_iff, issue_sends_iff, asked, and_or_left]
  case skips =>
    intro worker id
    rw [issue_skips_iff, issue_skips_iff, issue_skips_iff, asked, and_or_left]
  case carried =>
    refine carried.trans (((perm.filter _).map _).trans ?_)
    exact (issue_carried_perm job resolves disposition notify distinct).symm
  case once =>
    rw [carried.nodup_iff]
    exact (((perm.filter _).map _).nodup_iff).mpr (distinct.sublist (List.filter_sublist.map _))

end Issue

end Dispatch

namespace Session

/-! ### The resolver along a schedule -/

/-- A session asks one resolver. -/
theorem act_resolver (session : Session) (move : Move) :
    (session.act move).2.resolver = session.resolver := by
  have kept : ∀ {next : Session}, next.standing = session.standing →
      next.resolver = session.resolver := fun same => congrArg Standing.resolver same
  cases move with
  | start number => exact kept (standing_start session number)
  | pass milliseconds => rfl
  | await dispatches => rfl
  | command command =>
    cases command with
    | track producer deployment =>
      show (session.track producer deployment).2.resolver = session.resolver
      rw [track]
      cases deployment.kind.requiresTracking <;> rfl
    | release ids notify follow =>
      exact (congrArg Standing.resolver (standing_followUp (session.release ids notify).2 follow))
    | promote ids follow =>
      exact (congrArg Standing.resolver (standing_followUp (session.promote ids).2 follow))
    | settleHeld => exact kept (standing_settleHeld session)
    | advance milliseconds => exact kept (standing_advance session milliseconds)
    | forgetWorker | forget | markUnreachable | makeTrouble | stallNotices | failNotices | connect
    | provide | failManager | lookup => rfl

theorem after_resolver (session : Session) (moves : List Move) :
    (session.after moves).resolver = session.resolver := by
  induction moves generalizing session with
  | nil => rfl
  | cons move moves ih => rw [after, ih, act_resolver]

/-- Letting go of partitions does not change which gateways are found, if the resolver's
answers do not depend on when it is asked. -/
theorem resolves_letGo_followUp {session : Session} (steady : session.resolver.Steady)
    (disposition : Disposition) (notify : Bool) (ids : List PartitionId) (follow : Follow) :
    ((session.letGo disposition notify ids).2.followUp follow).resolves = session.resolves := by
  rw [resolves_eq_of_standing_eq (standing_followUp _ follow)]
  funext worker
  show (match session.resolver with
    | .fleet => session.fleet.resolves worker
    | .closure finds => finds (session.dispatchCount + 1) worker) = session.resolves worker
  rw [resolves]
  cases resolver : session.resolver with
  | fleet => rfl
  | closure finds =>
    rw [resolver] at steady
    exact congrFun (steady _ _) worker

/-! ### Invocations in a row -/

/-- What letting go of listed partitions does is a matter of their set: another list of the
same partitions does the same, and so does removing them in any other order, except for the
order of what is reported. -/
structure ActsOnSet (session : Session) (disposition : Disposition) (notify : Bool)
    (ids : List PartitionId) : Prop where
  same : ∀ other : List PartitionId, (∀ id, id ∈ other ↔ id ∈ ids) →
    session.letGo disposition notify other = session.letGo disposition notify ids
  anyOrder : ∀ order : List PartitionId, (∀ id, id ∈ order ↔ id ∈ ids) →
    (session.ledger.removeAll order).2 = (session.letGo disposition notify ids).2.ledger ∧
      (Dispatch.issue session.job session.resolves disposition notify
        (session.ledger.removeAll order).1).Alike (session.letGo disposition notify ids).1

theorem actsOnSet {session : Session} (coherent : session.ledger.Coherent)
    (disposition : Disposition) (notify : Bool) (ids : List PartitionId) :
    ActsOnSet session disposition notify ids := by
  constructor
  case same =>
    intro other same
    have requested : OrderedSet.ofList other = OrderedSet.ofList ids := by
      apply OrderedSet.ext_contains
      intro id
      rw [OrderedSet.contains_ofList, OrderedSet.contains_ofList, same]
    rw [letGo, letGo, requested]
  case anyOrder =>
    intro order same
    have listed : ∀ holding ∈ session.ledger.holdings,
        order.contains holding.partitionId = ids.contains holding.partitionId := by
      intro holding _
      rw [Bool.eq_iff_iff, List.contains_iff_mem, List.contains_iff_mem, same]
    have removes := coherent.removes_distinct ids
    have removes' := (coherent.removes_removeAll order).congr listed
    refine ⟨removes'.left_unique removes (coherent.removeAll order) (coherent.removeAll _), ?_⟩
    exact Dispatch.issue_alike _ _ _ _ (removes'.returned_unique removes)

/-- The second of two invocations works on what the first has left, and finds the same
gateways. -/
theorem letGo_followUp_letGo {session : Session} (steady : session.resolver.Steady)
    (disposition disposition' : Disposition) (notify notify' : Bool) (follow : Follow)
    (ids ids' : List PartitionId) :
    let first := session.letGo disposition notify ids
    let removal := first.2.ledger.removeAll (OrderedSet.toList (OrderedSet.ofList ids'))
    let second := (first.2.followUp follow).letGo disposition' notify' ids'
    second.1 = Dispatch.issue session.job session.resolves disposition' notify' removal.1 ∧
      second.2.ledger = removal.2 := by
  intro first removal second
  have job : (first.2.followUp follow).job = session.job :=
    (job_eq_of_standing_eq (standing_followUp first.2 follow)).trans rfl
  have ledger : (first.2.followUp follow).ledger = first.2.ledger :=
    ledger_eq_of_standing_eq (standing_followUp first.2 follow)
  have resolves : (first.2.followUp follow).resolves = session.resolves :=
    resolves_letGo_followUp steady disposition notify ids follow
  constructor
  · rw [show second.1 = _ from letGo_fst _ disposition' notify' ids', job, ledger, resolves]
  · show ((first.2.followUp follow).ledger.removeAll _).2 = removal.2
    rw [ledger]

/-- What two invocations in a row come to, compared with a single one about all of the
partitions. -/
structure InParts (session : Session) (ids ids' : List PartitionId)
    (whole first second : Dispatch × Session) : Prop where
  ledger : second.2.ledger = whole.2.ledger
  divides : whole.1.Divides first.1 second.1
  /-- A worker that is called twice has a share both times. -/
  twice : ∀ worker, 1 < (first.1.callsTo worker ++ second.1.callsTo worker).length →
    (∃ id, Dispatch.InShare (session.ledger.listedHoldings ids) worker id) ∧
      ∃ id, Dispatch.InShare (first.2.ledger.listedHoldings ids') worker id

theorem inParts {session : Session} (coherent : session.ledger.Coherent)
    (steady : session.resolver.Steady) (disposition : Disposition) (notify : Bool)
    (follow : Follow) (ids ids' : List PartitionId) :
    let first := session.letGo disposition notify ids
    InParts session ids ids' (session.letGo disposition notify (ids ++ ids')) first
      ((first.2.followUp follow).letGo disposition notify ids') := by
  intro first
  obtain ⟨dispatch, ledger⟩ :=
    letGo_followUp_letGo steady disposition disposition notify notify follow ids ids'
  have coherent' : first.2.ledger.Coherent := coherent.removeAll _
  have removes := coherent.removes_distinct ids
  have removes' := coherent'.removes_distinct ids'
  have listed : ∀ holding ∈ session.ledger.holdings, (ids ++ ids').contains holding.partitionId =
      (ids.contains holding.partitionId || ids'.contains holding.partitionId) := by
    intro holding _
    rw [Bool.eq_iff_iff, Bool.or_eq_true]
    simp only [List.contains_iff_mem, List.mem_append]
  have whole := (coherent.removes_distinct (ids ++ ids')).congr listed
  have both := removes.append removes'
  constructor
  case ledger =>
    rw [ledger]
    exact both.left_unique whole (coherent'.removeAll _) (coherent.removeAll _)
  case divides =>
    rw [dispatch]
    exact Dispatch.divides_issue _ _ _ _ (both.returned_unique whole)
      (whole.nodup_partitionIds coherent)
  case twice =>
    intro worker twice
    rw [dispatch] at twice
    rw [Dispatch.exists_inShare_iff, Dispatch.exists_inShare_iff]
    have perm : (session.ledger.removeAll (OrderedSet.toList (OrderedSet.ofList ids))).1.Perm
        (session.ledger.listedHoldings ids) := removes.perm coherent
    have perm' : (first.2.ledger.removeAll (OrderedSet.toList (OrderedSet.ofList ids'))).1.Perm
        (first.2.ledger.listedHoldings ids') := removes'.perm coherent'
    simp only [← perm.mem_iff, ← perm'.mem_iff]
    exact Dispatch.exists_of_called_twice _ _ _ _ twice

/-- Partitions that have been let go of are not found again. -/
theorem letGo_again {session : Session} (coherent : session.ledger.Coherent)
    (disposition disposition' : Disposition) (notify notify' : Bool) (follow : Follow)
    (ids : List PartitionId) :
    let first := session.letGo disposition notify ids
    let again := (first.2.followUp follow).letGo disposition' notify' ids
    again.1 = ⟨disposition', [], [], [], []⟩ ∧ again.2.ledger = first.2.ledger := by
  intro first again
  have ledger : (first.2.followUp follow).ledger = first.2.ledger :=
    ledger_eq_of_standing_eq (standing_followUp first.2 follow)
  have coherent' : first.2.ledger.Coherent := coherent.removeAll _
  have removes := coherent.removes_distinct ids
  have removes' := coherent'.removes_distinct ids
  have none : (first.2.ledger.removeAll (OrderedSet.toList (OrderedSet.ofList ids))).1 = [] := by
    rw [List.eq_nil_iff_forall_not_mem]
    intro holding inside
    obtain ⟨stored, listed⟩ := (removes'.mem_iff holding).mp inside
    have left := OrderedMap.mem_values_iff.mpr stored
    rw [← Ledger.holdings, show first.2.ledger.holdings = _ from removes.holdings,
      List.mem_filter, Bool.not_eq_true'] at left
    rw [left.2] at listed
    cases listed
  constructor
  · rw [show again.1 = _ from letGo_fst _ disposition' notify' ids, ledger, none]
    cases notify' <;> rfl
  · show ((first.2.followUp follow).ledger.removeAll _).2 = first.2.ledger
    rw [ledger]
    refine (coherent'.removeAll _).ext coherent' (OrderedMap.ext_get? fun id => ?_)
    ext holding
    have kept := removes'.get?_eq_some_iff id holding
    rw [none] at kept
    exact kept.trans (and_iff_left List.not_mem_nil)

/-- At every moment of every schedule, letting go of partitions acts on their set, can be done
in parts, and does nothing when it is repeated. -/
theorem letGo_in_parts (job : JobId) (timeout : Nat) (resolver : Resolver)
    (steady : resolver.Steady) (moves : List Move) (disposition : Disposition) (notify : Bool)
    (follow : Follow) (ids ids' : List PartitionId) :
    let session := (fresh job timeout resolver).after moves
    let first := session.letGo disposition notify ids
    let again := (first.2.followUp follow).letGo disposition notify ids
    ActsOnSet session disposition notify ids ∧
      InParts session ids ids' (session.letGo disposition notify (ids ++ ids')) first
        ((first.2.followUp follow).letGo disposition notify ids') ∧
      again.1 = ⟨disposition, [], [], [], []⟩ ∧ again.2.ledger = first.2.ledger := by
  intro session first again
  have coherent : session.ledger.Coherent := coherent_of_schedule job timeout resolver moves
  have steady' : session.resolver.Steady := by
    rw [show session.resolver = _ from after_resolver _ moves]
    exact steady
  exact ⟨actsOnSet coherent disposition notify ids,
    inParts coherent steady' disposition notify follow ids ids',
    letGo_again coherent disposition disposition notify notify follow ids⟩

/-- Two lists with a partition in common are released one after the other, from two workers
of which one is out of reach. -/
theorem letGo_in_parts_overlapping :
    let moves : List Move :=
      [.command (.track ⟨2⟩ ⟨⟨9⟩, .blocking, .onWorker ⟨4⟩ ⟨2⟩⟩),
        .command (.track ⟨2⟩ ⟨⟨9⟩, .blocking, .onWorker ⟨5⟩ ⟨2⟩⟩),
        .command (.track ⟨3⟩ ⟨⟨9⟩, .blockingPersistent, .onWorker ⟨6⟩ ⟨3⟩⟩),
        .command (.markUnreachable ⟨3⟩)]
    let session := (fresh ⟨1⟩ 20 .fleet).after moves
    let first := session.letGo .release true [⟨4⟩, ⟨7⟩, ⟨4⟩]
    let again := (first.2.followUp .settle).letGo .release true [⟨4⟩, ⟨7⟩, ⟨4⟩]
    Resolver.fleet.Steady ∧ ActsOnSet session .release true [⟨4⟩, ⟨7⟩, ⟨4⟩] ∧
      InParts session [⟨4⟩, ⟨7⟩, ⟨4⟩] [⟨6⟩, ⟨4⟩, ⟨5⟩]
        (session.letGo .release true ([⟨4⟩, ⟨7⟩, ⟨4⟩] ++ [⟨6⟩, ⟨4⟩, ⟨5⟩])) first
        ((first.2.followUp .settle).letGo .release true [⟨6⟩, ⟨4⟩, ⟨5⟩]) ∧
      again.1 = ⟨.release, [], [], [], []⟩ ∧ again.2.ledger = first.2.ledger :=
  ⟨trivial, letGo_in_parts ⟨1⟩ 20 .fleet trivial _ .release true .settle _ _⟩

end Session

end PartitionLedger
