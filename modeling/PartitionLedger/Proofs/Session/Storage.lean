/-
# Where storage is freed

A descriptor may name the worker that keeps the storage of a partition. A dispatch only
looks at whether one is named, and sends the partition to its producer. That is the worker
named as long as partitions are registered where their storage is kept. If a partition is
registered with a producer that does not keep its storage, the call goes to the producer all
the same, and the worker that keeps the storage is neither called nor reported.
-/

import PartitionLedger.Proofs.Dispatch.Issue
import PartitionLedger.Proofs.Session.Schedule

namespace PartitionLedger

open Collection

namespace Dispatch

/-- The worker that keeps the storage of the holding is asked about it or reported out of
reach, and no worker is asked that does not keep it. -/
def ReachesStorage (dispatch : Dispatch) (holding : Holding) : Prop :=
  (∀ worker, holding.shuffle.storage = some worker →
    dispatch.Sends worker holding.partitionId ∨ worker ∈ dispatch.unreachableWorkers) ∧
  ∀ worker, dispatch.Sends worker holding.partitionId → holding.shuffle.storage = some worker

/-- If some worker keeps the storage of the holding, its producer is asked about it or
reported out of reach; and only then is anyone asked, and nobody but the producer. -/
def ReachesProducer (dispatch : Dispatch) (holding : Holding) : Prop :=
  (holding.shuffle.storage.isSome = true → dispatch.Sends holding.producer holding.partitionId ∨
    holding.producer ∈ dispatch.unreachableWorkers) ∧
  ∀ worker, dispatch.Sends worker holding.partitionId →
    worker = holding.producer ∧ holding.shuffle.storage.isSome = true

/-- Storage that is kept by the producer is reached with the producer. -/
theorem ReachesProducer.reachesStorage {dispatch : Dispatch} {holding : Holding}
    (reaches : dispatch.ReachesProducer holding)
    (keeper : holding.shuffle.storage = none ∨ holding.shuffle.storage = some holding.producer) :
    dispatch.ReachesStorage holding := by
  obtain ⟨asked, only⟩ := reaches
  rcases keeper with nobody | producer
  · refine ⟨fun worker keeps => ?_, fun worker sent => ?_⟩
    · rw [nobody] at keeps
      cases keeps
    · have some := (only worker sent).2
      rw [nobody] at some
      cases some
  · refine ⟨fun worker keeps => ?_, fun worker sent => ?_⟩
    · rw [producer] at keeps
      cases keeps
      exact asked (by rw [producer]; rfl)
    · rw [(only worker sent).1]
      exact producer

/-- A dispatch reaches the producers of all that was removed for it. -/
theorem issue_reachesProducer {before after : Ledger} {chosen : Holding → Bool}
    {removed : List Holding} (removes : before.Removes chosen removed after)
    (coherent : before.Coherent) {holding : Holding} (inside : holding ∈ removed) (job : JobId)
    (resolves : WorkerId → Bool) (disposition : Disposition) (notify : Bool) :
    (issue job resolves disposition notify removed).ReachesProducer holding := by
  have found := removes.get?_of_mem coherent inside
  have located := coherent.located holding.partitionId holding found
  constructor
  · intro kept
    rw [← located] at kept
    rw [issue_sends_iff, mem_issue_unreachableWorkers_iff]
    cases resolves holding.producer with
    | true => exact Or.inl ⟨rfl, holding, inside, kept, rfl, rfl⟩
    | false => exact Or.inr ⟨rfl, holding, inside, kept, rfl⟩
  · intro worker sent
    rw [issue_sends_iff] at sent
    obtain ⟨_, other, inside', occupies, produced, same⟩ := sent
    have found' := removes.get?_of_mem coherent inside'
    rw [same, found] at found'
    cases found'
    exact ⟨produced.symm, located ▸ occupies⟩

end Dispatch

namespace Session

/-- Every dispatch along some steps has the storage of what it lets go of reached. -/
def StorageReached (steps : List Step) : Prop :=
  ∀ step ∈ steps, ∀ dispatch, step.reply = .dispatched dispatch → ∀ id ∈ dispatch.untracked,
    ∀ holding, step.before.ledger.get? id = some holding → dispatch.ReachesStorage holding

/-- Along every schedule, every dispatch reaches the producers of what it lets go of, and
thereby the workers that keep the storage, where these are the producers. No partition is
sent to anyone unless it was let go of. -/
theorem producers_reached (job : JobId) (timeout : Nat) (resolver : Resolver) (moves : List Move)
    {step : Step} (taken : step ∈ (fresh job timeout resolver).trace moves) {dispatch : Dispatch}
    (reply : step.reply = .dispatched dispatch) :
    (∀ id ∈ dispatch.untracked, ∃ holding, step.before.ledger.get? id = some holding ∧
      holding.partitionId = id ∧ dispatch.ReachesProducer holding ∧
      (holding.shuffle.storage = none ∨ holding.shuffle.storage = some holding.producer →
        dispatch.ReachesStorage holding)) ∧
    ∀ worker id, dispatch.Sends worker id → id ∈ dispatch.untracked := by
  obtain ⟨earlier, later, split⟩ := List.append_of_mem taken
  obtain ⟨moves₁, move, moves₂, rfl, rfl, rfl⟩ := trace_eq_append_cons split
  obtain ⟨disposition, notify, ids, rfl, _⟩ := letGo_of_dispatched reply
  have coherent := coherent_of_schedule job timeout resolver moves₁
  have removes := coherent.removes_removeAll (OrderedSet.toList (OrderedSet.ofList ids))
  refine ⟨fun id untracked => ?_, fun _ _ => Dispatch.mem_issue_untracked_of_sends _ _ _ _ _⟩
  obtain ⟨holding, inside, rfl⟩ := List.mem_map.mp untracked
  have reaches := Dispatch.issue_reachesProducer removes coherent inside
  exact ⟨holding, removes.get?_of_mem coherent inside, rfl, reaches _ _ _ _,
    (reaches _ _ _ _).reachesStorage⟩

/-- The partition ⟨4⟩ is registered with the producer ⟨2⟩ while ⟨3⟩ keeps its storage, then it
is released. -/
def keptElsewhere : List Move :=
  [.command (.track ⟨2⟩ ⟨⟨9⟩, .blocking, .onWorker ⟨4⟩ ⟨3⟩⟩),
    .command (.release [⟨4⟩] true .settle)]

/-- Even then the producer is reached. -/
theorem producers_reached_keptElsewhere :
    ∃ step ∈ (fresh ⟨1⟩ 20 .fleet).trace keptElsewhere, ∃ dispatch,
      step.reply = .dispatched dispatch ∧
      (∀ id ∈ dispatch.untracked, ∃ holding, step.before.ledger.get? id = some holding ∧
        holding.partitionId = id ∧ dispatch.ReachesProducer holding ∧
        (holding.shuffle.storage = none ∨ holding.shuffle.storage = some holding.producer →
          dispatch.ReachesStorage holding)) ∧
      ∀ worker id, dispatch.Sends worker id → id ∈ dispatch.untracked :=
  have released : _ ∈ (fresh ⟨1⟩ 20 .fleet).trace keptElsewhere :=
    List.mem_cons_of_mem _ (List.mem_singleton_self _)
  ⟨_, released, _, rfl, producers_reached ⟨1⟩ 20 .fleet keptElsewhere released rfl⟩

/-- But the worker that keeps the storage is neither called nor reported out of reach. -/
theorem not_storageReached_keptElsewhere :
    ¬ StorageReached ((fresh ⟨1⟩ 20 .fleet).trace keptElsewhere) := by
  intro reached
  have released : _ ∈ (fresh ⟨1⟩ 20 .fleet).trace keptElsewhere :=
    List.mem_cons_of_mem _ (List.mem_singleton_self _)
  have asked := (reached _ released _ rfl ⟨4⟩ (by decide) _ rfl).1 ⟨3⟩ rfl
  revert asked
  unfold Dispatch.Sends
  decide

end Session

end PartitionLedger
