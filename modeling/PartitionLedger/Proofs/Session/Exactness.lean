/-
# What one dispatch does

An invocation may list partitions repeatedly, or ones that are not tracked. It is about the
holdings that are tracked under the listed partitions, and about nothing else: these leave
both indexes of the ledger, each is reported once, those that occupy local resources are
divided among their producers, and the shuffle master is told about all of them or about
none. Every worker with a share either gets one call with the whole of it or is reported
out of reach.
-/

import PartitionLedger.Proofs.Session.Conservation

namespace PartitionLedger

open Collection

namespace Dispatch

/-- A worker's share of some holdings: what it produced and keeps resources for. -/
def InShare (holdings : List Holding) (worker : WorkerId) (id : PartitionId) : Prop :=
  ∃ holding ∈ holdings, holding.occupiesLocalResource = true ∧ holding.producer = worker ∧
    holding.partitionId = id

theorem exists_inShare_iff {holdings : List Holding} {worker : WorkerId} :
    (∃ id, InShare holdings worker id) ↔
      ∃ holding ∈ holdings, holding.occupiesLocalResource = true ∧ holding.producer = worker := by
  constructor
  · rintro ⟨_, holding, inside, occupies, produced, _⟩
    exact ⟨holding, inside, occupies, produced⟩
  · rintro ⟨holding, inside, occupies, produced⟩
    exact ⟨_, holding, inside, occupies, produced, rfl⟩

/-- The calls to a worker. -/
def callsTo (dispatch : Dispatch) (worker : WorkerId) : List WorkerCall :=
  dispatch.calls.filter fun call => call.worker = worker

/-- The dispatch does and reports what an invocation about some holdings has to. -/
structure Covers (job : JobId) (resolves : WorkerId → Bool) (disposition : Disposition)
    (notify : Bool) (holdings : List Holding) (dispatch : Dispatch) : Prop where
  disposed : dispatch.disposition = disposition
  /-- Every partition is reported, and reported once. -/
  untracked : dispatch.untracked.Perm (holdings.map (·.partitionId)) ∧ dispatch.untracked.Nodup
  /-- Workers are reported in strictly ascending order. -/
  ascending : dispatch.workersCalled.Pairwise (· < ·) ∧
    dispatch.unreachableWorkers.Pairwise (· < ·)
  /-- The workers called are those with a share for which a gateway is found. -/
  called : ∀ worker, worker ∈ dispatch.workersCalled ↔
    resolves worker = true ∧ ∃ id, InShare holdings worker id
  /-- The others with a share are out of reach. -/
  unreachable : ∀ worker, worker ∈ dispatch.unreachableWorkers ↔
    resolves worker = false ∧ ∃ id, InShare holdings worker id
  disjoint : dispatch.workersCalled.Disjoint dispatch.unreachableWorkers
  /-- A worker that is called gets one call, with its whole share. -/
  one : ∀ worker ∈ dispatch.workersCalled, ∃ partitions,
    dispatch.callsTo worker = [⟨worker, job, disposition, partitions⟩] ∧
      partitions.isEmpty = false ∧
      ∀ id, partitions.contains id = true ↔ InShare holdings worker id
  /-- No partition is sent to two workers. -/
  apart : ∀ worker worker' id, dispatch.Sends worker id → dispatch.Sends worker' id →
    worker = worker'
  /-- A partition without local resources is sent to nobody. -/
  spared : ∀ holding ∈ holdings, holding.occupiesLocalResource = false →
    ∀ worker, ¬ dispatch.Sends worker holding.partitionId
  /-- The shuffle master is told about each holding once, or about none. -/
  notices : dispatch.notices.Perm (if notify then holdings.map (·.shuffle) else [])
  counted : dispatch.remoteCalls = dispatch.calls.length ∧
    dispatch.remoteCalls = dispatch.workersCalled.length ∧
    dispatch.externalReleases = if notify then holdings.length else 0

section Issue

variable (job : JobId) (resolves : WorkerId → Bool) (disposition : Disposition) (notify : Bool)
  {removed : List Holding}

/-- A worker that is called gets one call, which carries its whole share. -/
theorem issue_callsTo {worker : WorkerId}
    (called : worker ∈ (issue job resolves disposition notify removed).workersCalled) :
    ∃ partitions, (issue job resolves disposition notify removed).callsTo worker =
        [⟨worker, job, disposition, partitions⟩] ∧
      partitions.isEmpty = false ∧
      ∀ id, partitions.contains id = true ↔ InShare removed worker id := by
  obtain ⟨call, issued, rfl⟩ := List.mem_map.mp called
  obtain ⟨batch, asked, disposed, _⟩ :=
    (mem_issue_calls_iff job resolves disposition notify removed call).mp issued
  have workers := nodup_issue_workersCalled job resolves disposition notify removed
  have whole : (⟨call.worker, job, disposition, call.partitions⟩ : WorkerCall) = call := by
    rw [← asked, ← disposed]
  refine ⟨call.partitions, ?_, batches_populated removed _ _ batch,
    contains_of_mem_calls job resolves disposition notify removed issued⟩
  rw [whole, ← Option.toList_some]
  apply eq_toList_of_mem_iff ((List.Nodup.of_map _ workers).filter _)
  intro other
  rw [List.mem_filter, decide_eq_true_iff, Option.some.injEq]
  constructor
  · rintro ⟨issued', same⟩
    exact (List.inj_on_of_nodup_map workers issued' issued same).symm
  · rintro rfl
    exact ⟨issued, rfl⟩

/-- Holdings of different partitions are covered by the dispatch that is issued for them, in
whatever order they are removed. -/
theorem covers_issue {holdings : List Holding} (perm : removed.Perm holdings)
    (distinct : (removed.map (·.partitionId)).Nodup) :
    Covers job resolves disposition notify holdings
      (issue job resolves disposition notify removed) := by
  have share : ∀ worker id, InShare removed worker id ↔ InShare holdings worker id := by
    intro worker id
    simp only [InShare, perm.mem_iff]
  have called := mem_issue_workersCalled_iff job resolves disposition notify removed
  have unreachable := mem_issue_unreachableWorkers_iff job resolves disposition notify removed
  have sends := issue_sends_iff job resolves disposition notify removed
  constructor
  case disposed => rfl
  case untracked => exact ⟨perm.map _, distinct⟩
  case ascending =>
    rw [issue_workersCalled, issue_unreachableWorkers]
    exact ⟨(batches removed).pairwise_keys.filter _, (batches removed).pairwise_keys.filter _⟩
  case called =>
    intro worker
    rw [called, ← exists_inShare_iff]
    simp only [share]
  case unreachable =>
    intro worker
    rw [unreachable, ← exists_inShare_iff]
    simp only [share]
  case disjoint =>
    intro worker inside outside
    have found := ((called worker).mp inside).1
    rw [((unreachable worker).mp outside).1] at found
    cases found
  case one =>
    intro worker inside
    simp only [← share]
    exact issue_callsTo job resolves disposition notify inside
  case apart =>
    intro worker worker' id sent sent'
    obtain ⟨_, holding, inside, _, rfl, same⟩ := (sends worker id).mp sent
    obtain ⟨_, other, inside', _, rfl, same'⟩ := (sends worker' id).mp sent'
    rw [List.inj_on_of_nodup_map distinct inside inside' (same.trans same'.symm)]
  case spared =>
    intro holding inside external worker sent
    obtain ⟨_, other, inside', occupies, _, same⟩ := (sends worker _).mp sent
    rw [List.inj_on_of_nodup_map distinct inside' (perm.mem_iff.mpr inside) same,
      external] at occupies
    cases occupies
  case notices =>
    cases notify with
    | false => exact List.Perm.refl _
    | true => exact perm.map _
  case counted =>
    refine ⟨rfl, (List.length_map _).symm, ?_⟩
    cases notify with
    | false => rfl
    | true => exact (List.length_map _).trans perm.length_eq

end Issue

end Dispatch

/-- The holdings tracked under the listed partitions, each once. -/
def Ledger.listedHoldings (ledger : Ledger) (ids : List PartitionId) : List Holding :=
  ledger.holdings.filter fun holding => ids.contains holding.partitionId

/-- The stored holding of a partition is among some stored holdings if the partition is. -/
theorem Ledger.Coherent.mem_iff_partitionId_mem {ledger : Ledger} (coherent : ledger.Coherent)
    {holdings : List Holding} (stored : ∀ holding ∈ holdings, holding ∈ ledger.holdings)
    {id : PartitionId} {holding : Holding} (found : ledger.get? id = some holding) :
    holding ∈ holdings ↔ id ∈ holdings.map (·.partitionId) := by
  have own : holding.partitionId = id := coherent.keyed id holding found
  rw [List.mem_map]
  constructor
  · intro inside
    exact ⟨holding, inside, own⟩
  · rintro ⟨other, inside, same⟩
    have found' := coherent.get?_of_mem_holdings (stored other inside)
    rw [same, found] at found'
    cases found'
    exact inside

namespace Session

/-- What an invocation about some holdings does to a session, given its dispatch. -/
structure LetsGo (before : Session) (holdings : List Holding) (dispatch : Dispatch)
    (after : Session) : Prop where
  /-- The ledger loses these holdings and nothing else. -/
  kept : ∀ id holding, after.ledger.get? id = some holding ↔
    before.ledger.get? id = some holding ∧ holding ∉ holdings
  /-- So does its index by worker, in which no empty set is left. -/
  indexed : ∀ worker id, Ledger.Lists after.ledger.byWorker worker id ↔
    Ledger.Lists before.ledger.byWorker worker id ∧ id ∉ holdings.map (·.partitionId)
  populated : Ledger.Populated after.ledger.byWorker
  /-- The calls and notices become tasks. -/
  issued : ∃ tasks, after.waiting = before.waiting ++ tasks ∧
    tasks.map (·.errand) = dispatch.calls.map .call ++ dispatch.notices.map .notice

/-- At every moment of every schedule, letting go of listed partitions does exactly what has
to be done about the holdings that are tracked under them. -/
theorem letGo_exact (job : JobId) (timeout : Nat) (resolver : Resolver) (moves : List Move)
    (disposition : Disposition) (notify : Bool) (ids : List PartitionId) :
    let session := (fresh job timeout resolver).after moves
    let holdings := session.ledger.listedHoldings ids
    let result := session.letGo disposition notify ids
    session.LetsGo holdings result.1 result.2 ∧
      result.1.Covers job session.resolves disposition notify holdings := by
  intro session holdings result
  have coherent : session.ledger.Coherent := coherent_of_schedule job timeout resolver moves
  have coherent' : result.2.ledger.Coherent := coherent.removeAll _
  have removes := coherent.removes_distinct ids
  have perm : (session.ledger.removeAll (OrderedSet.toList (OrderedSet.ofList ids))).1.Perm
      holdings := removes.perm coherent
  have stored : ∀ holding ∈ holdings, holding ∈ session.ledger.holdings := fun _ inside =>
    List.mem_of_mem_filter inside
  have kept : ∀ id holding, result.2.ledger.get? id = some holding ↔
      session.ledger.get? id = some holding ∧ holding ∉ holdings := by
    intro id holding
    rw [← perm.mem_iff]
    exact removes.get?_eq_some_iff id holding
  constructor
  · constructor
    case kept => exact kept
    case indexed =>
      intro worker id
      rw [coherent'.listed, coherent.listed, ← exists_and_right]
      apply exists_congr
      intro holding
      rw [and_right_comm]
      apply and_congr_left
      intro _
      rw [← Ledger.get?, kept, ← Ledger.get?]
      apply and_congr_right
      intro found
      rw [coherent.mem_iff_partitionId_mem stored found]
    case populated => exact coherent'.populated
    case issued =>
      exact ⟨_, rfl, errand_tasksFrom session.taskCount session.dispatchCount (errands result.1)⟩
  · have same : session.job = job := after_job _ moves
    have covers := Dispatch.covers_issue job session.resolves disposition notify perm
      (removes.nodup_partitionIds coherent)
    rw [← same] at covers ⊢
    exact covers

end Session

end PartitionLedger
