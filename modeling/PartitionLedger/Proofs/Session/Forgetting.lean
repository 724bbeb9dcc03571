/-
# Two ways to the same removal

A worker's holdings can be removed all at once, with its whole set of the index by worker,
or one after the other by their partitions, in which case the set loses one member at a time
and goes when it is empty. As long as the indexes agree, both return the same holdings and
leave the same ledger, which differs from the earlier one in this worker only.

What a session forgets, releases or promotes leaves its ledger in the same way. Only the
requests set the three apart: forgetting makes none.
-/

import PartitionLedger.Proofs.Ledger.Commutation
import PartitionLedger.Proofs.Session.Conservation

namespace PartitionLedger

open Collection

namespace Ledger

/-- The list names the partitions of the worker's holdings, in any order and any number of
times. -/
def Enumerates (ledger : Ledger) (worker : WorkerId) (ids : List PartitionId) : Prop :=
  ∀ id, id ∈ ids ↔ id ∈ (ledger.holdingsOf worker).map (·.partitionId)

/-- Of the stored holdings, those of the worker are listed. -/
theorem Coherent.contains_of_enumerates {ledger : Ledger} (coherent : Coherent ledger)
    {worker : WorkerId} {ids : List PartitionId} (listed : ledger.Enumerates worker ids)
    {holding : Holding} (stored : holding ∈ ledger.holdings) :
    ids.contains holding.partitionId = decide (holding.producer = worker) := by
  rw [Bool.eq_iff_iff, List.contains_iff_mem, decide_eq_true_iff, listed, coherent.holdingsOf_eq,
    List.mem_map]
  constructor
  · rintro ⟨other, inside, same⟩
    obtain ⟨stored', produced⟩ := List.mem_filter.mp inside
    rw [← coherent.eq_of_partitionId_eq stored' stored same]
    exact of_decide_eq_true produced
  · intro produced
    exact ⟨holding, List.mem_filter.mpr ⟨stored, decide_eq_true produced⟩, rfl⟩

/-- What it means to remove a worker. -/
structure GivesUp (before : Ledger) (worker : WorkerId) (removed : List Holding)
    (after : Ledger) : Prop where
  /-- What the worker produced is returned, each holding once. -/
  returned : removed.Nodup ∧ ∀ holding, holding ∈ removed ↔
    holding ∈ before.holdings ∧ holding.producer = worker
  /-- The holdings of others stay as they are, and no other is left. -/
  stored : ∀ id holding, after.get? id = some holding ↔
    before.get? id = some holding ∧ holding.producer ≠ worker
  /-- The worker has no set any more. -/
  unlisted : worker ∉ after.workers
  /-- The sets of the others stay as they are. -/
  others : ∀ other, other ≠ worker → after.byWorker.get? other = before.byWorker.get? other

theorem Coherent.givesUp {ledger : Ledger} (coherent : Coherent ledger) (worker : WorkerId) :
    GivesUp ledger worker (ledger.removeWorker worker).1 (ledger.removeWorker worker).2 := by
  have removes := coherent.removes_removeWorker worker
  constructor
  case returned =>
    refine ⟨removes.nodup, fun holding => ?_⟩
    rw [removes.mem_iff, Ledger.holdings, OrderedMap.mem_values_iff, decide_eq_true_iff]
  case stored =>
    intro id holding
    rw [removes.get?, Option.filter_eq_some_iff, Bool.not_eq_true', decide_eq_false_iff_not]
  case unlisted =>
    rw [Ledger.workers, removeWorker_byWorker, OrderedMap.mem_keys_iff, OrderedMap.get?_erase,
      if_pos rfl]
    rintro ⟨_, found⟩
    cases found
  case others =>
    intro other different
    rw [removeWorker_byWorker, OrderedMap.get?_erase, if_neg (Ne.symm different)]

/-- Removing a worker, and removing its partitions by any list of them, return the same and
leave the same. -/
structure RemovableByIds (ledger : Ledger) (worker : WorkerId) : Prop where
  givesUp : GivesUp ledger worker (ledger.removeWorker worker).1 (ledger.removeWorker worker).2
  returned : ∀ ids, ledger.Enumerates worker ids →
    (ledger.removeAll ids).1.Perm (ledger.removeWorker worker).1
  left : ∀ ids, ledger.Enumerates worker ids →
    (ledger.removeAll ids).2 = (ledger.removeWorker worker).2

theorem Coherent.removableByIds {ledger : Ledger} (coherent : Coherent ledger)
    (worker : WorkerId) : RemovableByIds ledger worker := by
  have whole := coherent.removes_removeWorker worker
  have single : ∀ ids, ledger.Enumerates worker ids →
      Removes ledger (fun holding => holding.producer = worker) (ledger.removeAll ids).1
        (ledger.removeAll ids).2 := by
    intro ids listed
    apply (coherent.removes_removeAll ids).congr
    intro holding stored
    exact coherent.contains_of_enumerates listed stored
  refine ⟨coherent.givesUp worker, fun ids listed => ?_, fun ids listed => ?_⟩
  · exact (single ids listed).returned_unique whole
  · exact (single ids listed).left_unique whole (coherent.removeAll ids)
      (coherent.removeWorker worker)

end Ledger

namespace Session

/-- Forgetting, releasing and promoting listed partitions, whatever is done with the
dispatches, report the same partitions and leave the same ledger. Forgetting asks nothing of
anyone. -/
structure LetsGoAlike (session : Session) (ids : List PartitionId) (notify : Bool)
    (follow : Follow) : Prop where
  reported : ∃ removed release promote,
    (session.perform (.forget ids)).1 = .removed removed ∧
    (session.perform (.release ids notify follow)).1 = .dispatched release ∧
    (session.perform (.promote ids follow)).1 = .dispatched promote ∧
    release.untracked = removed.map (·.partitionId) ∧
    promote.untracked = removed.map (·.partitionId)
  released : (session.perform (.release ids notify follow)).2.ledger =
    (session.perform (.forget ids)).2.ledger
  promoted : (session.perform (.promote ids follow)).2.ledger =
    (session.perform (.forget ids)).2.ledger
  quiet : (session.perform (.forget ids)).2.traffic = session.traffic

theorem letsGoAlike (session : Session) (ids : List PartitionId) (notify : Bool)
    (follow : Follow) : LetsGoAlike session ids notify follow where
  reported := ⟨_, _, _, rfl, rfl, rfl, rfl, rfl⟩
  released := session.letGo_followUp_ledger .release notify ids follow
  promoted := session.letGo_followUp_ledger .promote false ids follow
  quiet := rfl

/-- Forgetting a worker is forgetting the partitions of its holdings, in any list of them: the
same holdings are returned, and the sessions are the same but for the line that each writes
into the journal. It asks nothing of anyone. -/
structure ForgetsByIds (session : Session) (worker : WorkerId) : Prop where
  returned : ∀ ids, session.ledger.Enumerates worker ids →
    (session.forget ids).1.Perm (session.forgetWorker worker).1
  same : ∀ ids, session.ledger.Enumerates worker ids →
    { (session.forget ids).2 with journal := session.journal } =
      { (session.forgetWorker worker).2 with journal := session.journal }
  quiet : (session.forgetWorker worker).2.traffic = session.traffic

theorem forgetsByIds {session : Session} (coherent : session.ledger.Coherent)
    (worker : WorkerId) : ForgetsByIds session worker := by
  have removable := coherent.removableByIds worker
  -- A forget removes the listed partitions in their order and each once.
  have distinct : ∀ ids, session.ledger.Enumerates worker ids →
      session.ledger.Enumerates worker (OrderedSet.toList (OrderedSet.ofList ids)) := by
    intro ids listed id
    rw [OrderedSet.mem_toList, OrderedSet.contains_ofList]
    exact listed id
  constructor
  case returned => exact fun ids listed => removable.returned _ (distinct ids listed)
  case same =>
    intro ids listed
    show { session with
        ledger := (session.ledger.removeAll (OrderedSet.toList (OrderedSet.ofList ids))).2 } =
      { session with ledger := (session.ledger.removeWorker worker).2 }
    rw [removable.left _ (distinct ids listed)]
  case quiet => rfl

/-- Removing by worker and removing by partitions agree: in every ledger that grows out of the
empty one, and at every moment of every session. -/
theorem removals_agree (changes : List Ledger.Change) (job : JobId) (timeout : Nat)
    (resolver : Resolver) (moves : List Move) :
    let ledger := (Ledger.empty.changeAll changes).2
    let session := (fresh job timeout resolver).after moves
    (∀ worker, Ledger.RemovableByIds ledger worker) ∧
      (∀ ids notify follow, LetsGoAlike session ids notify follow) ∧
      ∀ worker, ForgetsByIds session worker := by
  intro ledger session
  have coherent : ledger.Coherent := Ledger.Coherent.empty.changeAll changes
  have coherent' : session.ledger.Coherent := coherent_of_schedule job timeout resolver moves
  exact ⟨coherent.removableByIds, session.letsGoAlike, forgetsByIds coherent'⟩

end Session

end PartitionLedger
