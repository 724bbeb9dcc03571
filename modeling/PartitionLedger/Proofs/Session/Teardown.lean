/-
# The end of a job

At the end of a job its own partitions are released and those of the cluster are promoted.
Both lists are read off the ledger, and every holding is in exactly one of them, so that
the two dispatches empty the ledger, name no partition twice, and tell the shuffle master
about the job's own partitions only. It does not matter whether the second list is read
before or after the release, which leaves the cluster's holdings as they are.
-/

import PartitionLedger.Proofs.Ledger.Refinement
import PartitionLedger.Proofs.Session.Conservation

namespace PartitionLedger

open Collection

namespace Ledger

/-- The partitions of the holdings that pass a test. -/
def idsWhere (ledger : Ledger) (test : Holding → Bool) : List PartitionId :=
  (ledger.holdings.filter test).map (·.partitionId)

/-- A stored holding is listed exactly if it passes the test. -/
theorem Coherent.contains_idsWhere {ledger : Ledger} (coherent : Coherent ledger)
    {holding : Holding} (stored : holding ∈ ledger.holdings) (test : Holding → Bool) :
    (ledger.idsWhere test).contains holding.partitionId = test holding := by
  rw [Bool.eq_iff_iff, List.contains_iff_mem, idsWhere, List.mem_map]
  constructor
  · rintro ⟨other, inside, same⟩
    obtain ⟨stored', passes⟩ := List.mem_filter.mp inside
    rwa [← coherent.eq_of_partitionId_eq stored' stored same]
  · intro passes
    exact ⟨holding, List.mem_filter.mpr ⟨stored, passes⟩, rfl⟩

/-- Removing the partitions listed by a test removes the holdings that pass it. -/
theorem Coherent.removes_idsWhere {ledger : Ledger} (coherent : Coherent ledger)
    (test : Holding → Bool) :
    let ids := OrderedSet.toList (OrderedSet.ofList (ledger.idsWhere test))
    Removes ledger test (ledger.removeAll ids).1 (ledger.removeAll ids).2 := by
  apply (coherent.removes_distinct (ledger.idsWhere test)).congr
  intro holding stored
  exact coherent.contains_idsWhere stored test

/-- No partition is both the job's own and the cluster's. -/
theorem Coherent.partitionId_ne {ledger : Ledger} (coherent : Coherent ledger)
    {own kept : Holding} (inside : own ∈ ledger.jobHoldings)
    (inside' : kept ∈ ledger.clusterHoldings) : own.partitionId ≠ kept.partitionId := by
  obtain ⟨stored, job⟩ := List.mem_filter.mp inside
  obtain ⟨stored', cluster⟩ := List.mem_filter.mp inside'
  intro same
  rw [coherent.eq_of_partitionId_eq stored stored' same, cluster] at job
  cases job

/-- No two of the job's own holdings are of one partition. -/
theorem Coherent.nodup_jobHoldings_ids {ledger : Ledger} (coherent : Coherent ledger) :
    (ledger.jobHoldings.map (·.partitionId)).Nodup :=
  coherent.nodup_partitionIds.sublist (List.filter_sublist.map _)

/-- A ledger that was left with the cluster's holdings has those of the cluster and none
of the job's own. -/
theorem clusterHoldings_of_holdings_eq {ledger left : Ledger}
    (same : left.holdings = ledger.clusterHoldings) :
    left.clusterHoldings = ledger.clusterHoldings ∧ left.jobHoldings = [] := by
  rw [Ledger.clusterHoldings, Ledger.jobHoldings, same, Ledger.clusterHoldings]
  constructor
  · rw [List.filter_filter]
    simp only [Bool.and_self]
  · rw [List.filter_filter, List.filter_eq_nil_iff]
    intro holding _
    simp

/-- A coherent ledger without holdings is empty in both indexes. -/
theorem Coherent.eq_empty {ledger : Ledger} (coherent : Coherent ledger)
    (none : ledger.holdings = []) : ledger = ∅ := by
  refine coherent.ext Coherent.empty (OrderedMap.eq_of_entries_eq ?_)
  rw [Ledger.holdings, OrderedMap.values, List.map_eq_nil_iff] at none
  exact none

end Ledger

namespace Session

/-- Letting go of the partitions listed by a test, whatever is done with the dispatch, is a
dispatch of the holdings that pass it and leaves the others. -/
theorem letGo_idsWhere {session : Session} (coherent : session.ledger.Coherent)
    (test : Holding → Bool) (disposition : Disposition) (notify : Bool) (follow : Follow) :
    let result := session.letGo disposition notify (session.ledger.idsWhere test)
    (∃ removed, removed.Perm (session.ledger.holdings.filter test) ∧
      result.1 = Dispatch.issue session.job session.resolves disposition notify removed) ∧
    (result.2.followUp follow).ledger.holdings =
      session.ledger.holdings.filter fun holding => !test holding := by
  intro result
  have removes := coherent.removes_idsWhere test
  refine ⟨⟨_, removes.perm coherent, letGo_fst _ _ _ _⟩, ?_⟩
  rw [letGo_followUp_ledger]
  exact removes.holdings

/-- Release all partitions that end with the job. -/
def releaseOwn (session : Session) (follow : Follow) : Command :=
  .release (session.ledger.jobHoldings.map (·.partitionId)) true follow

/-- Promote all partitions of the cluster. -/
def promoteCluster (session : Session) (follow : Follow) : Command :=
  .promote (session.ledger.clusterHoldings.map (·.partitionId)) follow

theorem perform_releaseOwn {session : Session} (coherent : session.ledger.Coherent)
    (follow : Follow) :
    (∃ removed, removed.Perm session.ledger.jobHoldings ∧
      (session.perform (session.releaseOwn follow)).1 =
        .dispatched (.issue session.job session.resolves .release true removed)) ∧
    (session.perform (session.releaseOwn follow)).2.ledger.holdings =
      session.ledger.clusterHoldings := by
  obtain ⟨⟨removed, perm, dispatch⟩, left⟩ :=
    letGo_idsWhere coherent (fun holding => !holding.isCluster) .release true follow
  refine ⟨⟨removed, perm, congrArg Reply.dispatched dispatch⟩, ?_⟩
  simp only [Bool.not_not] at left
  exact left

theorem perform_promoteCluster {session : Session} (coherent : session.ledger.Coherent)
    (follow : Follow) :
    (∃ removed, removed.Perm session.ledger.clusterHoldings ∧
      (session.perform (session.promoteCluster follow)).1 =
        .dispatched (.issue session.job session.resolves .promote false removed)) ∧
    (session.perform (session.promoteCluster follow)).2.ledger.holdings =
      session.ledger.jobHoldings := by
  obtain ⟨⟨removed, perm, dispatch⟩, left⟩ :=
    letGo_idsWhere coherent Holding.isCluster .promote false follow
  exact ⟨⟨removed, perm, congrArg Reply.dispatched dispatch⟩, left⟩

/-- Two dispatches in a row add their requests to what is recorded or waits. -/
theorem requests_of_balanced {session : Session} {issued : List Dispatch}
    (balanced : session.traffic.Balanced issued) {first second : Command}
    {release promote : Dispatch} (reply : (session.perform first).1 = .dispatched release)
    (reply' : ((session.perform first).2.perform second).1 = .dispatched promote) :
    let final := ((session.perform first).2.perform second).2
    (final.traffic.recorded ++ final.traffic.pending).Perm
      (session.traffic.recorded ++ session.traffic.pending ++ release.requests ++
        promote.requests) := by
  intro final
  have after := (balanced_act (balanced_act balanced (.command first)) (.command second)).requests
  rw [act, act, reply, reply', List.flatMap_append, List.flatMap_append] at after
  simp only [Reply.dispatch?, Option.toList_some, List.flatMap_singleton] at after
  exact after.trans ((balanced.requests.symm.append_right _).append_right _)

/-- What becomes of a session whose own partitions are released and whose cluster partitions
are promoted afterwards. -/
structure TornDown (session released promoted : Session) (release promote : Dispatch) : Prop where
  emptied : promoted.ledger = ∅
  untracked : ∀ worker, promoted.ledger.isTracking worker = false
  idle : promoted.ledger.workers = []
  /-- Release calls carry the job's own partitions that occupy resources of a worker in reach. -/
  releaseCalls : ∀ worker id, release.Sends worker id ↔
    session.resolves worker = true ∧ ∃ holding ∈ session.ledger.jobHoldings,
      holding.occupiesLocalResource = true ∧ holding.producer = worker ∧ holding.partitionId = id
  /-- Promote calls carry the cluster's. -/
  promoteCalls : ∀ worker id, promote.Sends worker id ↔
    released.resolves worker = true ∧ ∃ holding ∈ session.ledger.clusterHoldings,
      holding.occupiesLocalResource = true ∧ holding.producer = worker ∧ holding.partitionId = id
  dispositions : (∀ call ∈ release.calls, call.disposition = .release) ∧
    ∀ call ∈ promote.calls, call.disposition = .promote
  oneEach : release.workersCalled.Nodup ∧ promote.workersCalled.Nodup
  apart : ∀ id worker worker', ¬ (release.Sends worker id ∧ promote.Sends worker' id)
  /-- The shuffle master is told about each of the job's own partitions once. -/
  notices : release.notices.Perm (session.ledger.jobHoldings.map (·.shuffle)) ∧
    (release.notices.map (·.partitionId)).Nodup
  /-- It is told about none of the cluster's. -/
  spared : promote.notices = [] ∧ ∀ holding ∈ session.ledger.clusterHoldings,
    holding.partitionId ∉ release.notices.map (·.partitionId)
  /-- Nothing else is asked of anyone. -/
  requests : (promoted.traffic.recorded ++ promoted.traffic.pending).Perm
    (session.traffic.recorded ++ session.traffic.pending ++ release.requests ++ promote.requests)

/-- Releasing a job's own partitions and then promoting those of the cluster lets go of
everything that was tracked, at any moment of any schedule. It does not matter whether the
cluster's partitions are listed before or after the release. -/
theorem teardown (job : JobId) (timeout : Nat) (resolver : Resolver) (moves : List Move)
    (follow follow' : Follow) :
    let session := (fresh job timeout resolver).after moves
    let released := (session.perform (session.releaseOwn follow)).2
    let promoted := (released.perform (session.promoteCluster follow')).2
    released.promoteCluster follow' = session.promoteCluster follow' ∧
      ∃ release promote,
        (session.perform (session.releaseOwn follow)).1 = .dispatched release ∧
        (released.perform (session.promoteCluster follow')).1 = .dispatched promote ∧
        TornDown session released promoted release promote := by
  intro session released promoted
  have coherent : session.ledger.Coherent := coherent_of_schedule job timeout resolver moves
  have balanced : session.traffic.Balanced _ := balanced_of_schedule job timeout resolver moves
  obtain ⟨⟨own, ownPerm, release⟩, left⟩ := perform_releaseOwn coherent follow
  obtain ⟨cluster, none⟩ := Ledger.clusterHoldings_of_holdings_eq left
  have listedAlike : released.promoteCluster follow' = session.promoteCluster follow' := by
    rw [promoteCluster, cluster, promoteCluster]
  have coherent' : released.ledger.Coherent := coherent_act coherent (.command _)
  obtain ⟨⟨kept, keptPerm, promote⟩, left'⟩ := perform_promoteCluster coherent' follow'
  rw [listedAlike] at promote left'
  rw [cluster] at keptPerm
  rw [none] at left'
  have emptied : promoted.ledger = ∅ := (coherent_act coherent' (.command _)).eq_empty left'
  have noticed : (Dispatch.issue session.job session.resolves .release true own).notices.map
      (·.partitionId) = own.map (·.partitionId) := List.map_map
  refine ⟨listedAlike, _, _, release, promote, ?_⟩
  constructor
  case emptied => exact emptied
  case untracked =>
    intro worker
    rw [emptied]
    rfl
  case idle =>
    rw [emptied]
    rfl
  case releaseCalls =>
    intro worker id
    simp only [Dispatch.issue_sends_iff, ownPerm.mem_iff]
  case promoteCalls =>
    intro worker id
    simp only [Dispatch.issue_sends_iff, keptPerm.mem_iff]
  case dispositions =>
    exact ⟨fun call issued => ((Dispatch.mem_issue_calls_iff _ _ _ _ _ call).mp issued).2.2.1,
      fun call issued => ((Dispatch.mem_issue_calls_iff _ _ _ _ _ call).mp issued).2.2.1⟩
  case oneEach =>
    exact ⟨Dispatch.nodup_issue_workersCalled _ _ _ _ _,
      Dispatch.nodup_issue_workersCalled _ _ _ _ _⟩
  case apart =>
    rintro id worker worker' ⟨sent, sent'⟩
    obtain ⟨_, holding, inside, _, _, same⟩ := (Dispatch.issue_sends_iff _ _ _ _ _ _ _).mp sent
    obtain ⟨_, other, inside', _, _, same'⟩ := (Dispatch.issue_sends_iff _ _ _ _ _ _ _).mp sent'
    exact coherent.partitionId_ne (ownPerm.mem_iff.mp inside) (keptPerm.mem_iff.mp inside')
      (same.trans same'.symm)
  case notices =>
    refine ⟨ownPerm.map _, ?_⟩
    rw [noticed, (ownPerm.map _).nodup_iff]
    exact coherent.nodup_jobHoldings_ids
  case spared =>
    refine ⟨rfl, fun holding inside told => ?_⟩
    rw [noticed, (ownPerm.map _).mem_iff, List.mem_map] at told
    obtain ⟨other, inside', same⟩ := told
    exact coherent.partitionId_ne inside' inside same
  case requests => exact requests_of_balanced balanced release promote

end Session

end PartitionLedger
