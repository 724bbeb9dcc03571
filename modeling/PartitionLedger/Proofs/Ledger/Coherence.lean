/-
# The two indexes of a ledger agree

The index by worker has to say exactly what the producers of the holdings say. Each
change brings the indexes out of step and has to bring them back: removing a partition
takes it out of its producer's set, and the set out of the index once it is empty;
removing a worker drops its whole set and relies on the set being complete;
registering again moves a partition from one set to another. None of this works unless
the indexes agreed before, so agreement is an invariant of every ledger that grows out
of the empty one.
-/

import PartitionLedger.Proofs.Ledger.Removal

namespace PartitionLedger

open Collection

namespace Ledger

/-! ### The index by worker -/

/-- The index has a set for the worker, and the partition is in it. -/
def Lists (byWorker : OrderedMap WorkerId (OrderedSet PartitionId)) (worker : WorkerId)
    (id : PartitionId) : Prop :=
  ∃ ids, byWorker.get? worker = some ids ∧ ids.contains id = true

/-- No set of the index is empty. -/
def Populated (byWorker : OrderedMap WorkerId (OrderedSet PartitionId)) : Prop :=
  ∀ worker ids, byWorker.get? worker = some ids → ids.isEmpty = false

section Index

variable {byWorker : OrderedMap WorkerId (OrderedSet PartitionId)}

theorem lists_of_get? {worker : WorkerId} {ids : OrderedSet PartitionId}
    (found : byWorker.get? worker = some ids) (id : PartitionId) :
    Lists byWorker worker id ↔ ids.contains id = true := by
  constructor
  · rintro ⟨others, same, inside⟩
    rw [found] at same
    cases same
    exact inside
  · intro inside
    exact ⟨ids, found, inside⟩

theorem not_lists_of_get?_none {worker : WorkerId} (absent : byWorker.get? worker = none)
    (id : PartitionId) : ¬ Lists byWorker worker id := by
  rintro ⟨ids, found, _⟩
  rw [absent] at found
  cases found

theorem lists_insert (worker other : WorkerId) (ids : OrderedSet PartitionId) (id : PartitionId) :
    Lists (byWorker.insert worker ids) other id ↔
      if worker = other then ids.contains id = true else Lists byWorker other id := by
  rw [Lists, OrderedMap.get?_insert]
  by_cases same : worker = other
  · simp [same]
  · simp [same, Lists]

theorem lists_erase (worker other : WorkerId) (id : PartitionId) :
    Lists (byWorker.erase worker) other id ↔ worker ≠ other ∧ Lists byWorker other id := by
  rw [Lists, OrderedMap.get?_erase]
  by_cases same : worker = other
  · simp [same]
  · simp [same, Lists]

/-- Indexing a partition adds that one entry. -/
theorem lists_index (worker other : WorkerId) (added id : PartitionId) :
    Lists (index byWorker worker added) other id ↔
      (worker = other ∧ added = id) ∨ Lists byWorker other id := by
  rw [index, lists_insert]
  by_cases same : worker = other
  · subst same
    rw [if_pos rfl, OrderedSet.contains_add]
    cases found : byWorker.get? worker with
    | none => simp [not_lists_of_get?_none found, OrderedSet.contains_empty]
    | some ids => simp [lists_of_get? found]
  · simp [same]

/-- Taking a partition out of the index drops that one entry. -/
theorem lists_unindex (worker other : WorkerId) (dropped id : PartitionId) :
    Lists (unindex byWorker worker dropped) other id ↔
      ¬ (worker = other ∧ dropped = id) ∧ Lists byWorker other id := by
  rw [unindex]
  cases found : byWorker.get? worker with
  | none =>
    by_cases same : worker = other
    · subst same
      simp [not_lists_of_get?_none found]
    · simp [same]
  | some ids =>
    cases empty : (OrderedMap.erase ids dropped).isEmpty with
    | false =>
      simp only [empty, Bool.false_eq_true, if_false, lists_insert, OrderedSet.contains_erase]
      by_cases same : worker = other
      · subst same
        simp [lists_of_get? found]
      · simp [same]
    | true =>
      -- Nothing else was in the set, so nothing is lost with it.
      have last : ∀ member, ids.contains member = true → dropped = member := by
        intro member inside
        by_contra different
        have left := OrderedSet.isEmpty_eq_false_iff.mpr
          ⟨member, OrderedSet.contains_erase.mpr ⟨different, inside⟩⟩
        rw [empty] at left
        cases left
      simp only [empty, if_true, lists_erase]
      by_cases same : worker = other
      · subst same
        rw [lists_of_get? found]
        constructor
        · rintro ⟨different, _⟩
          exact absurd rfl different
        · rintro ⟨different, inside⟩
          exact absurd ⟨rfl, last id inside⟩ different
      · simp [same]

theorem populated_index (populated : Populated byWorker) (worker : WorkerId) (id : PartitionId) :
    Populated (index byWorker worker id) := by
  intro other ids found
  rw [index, OrderedMap.get?_insert] at found
  by_cases same : worker = other
  · rw [if_pos same] at found
    cases found
    exact OrderedSet.isEmpty_eq_false_iff.mpr ⟨id, OrderedSet.contains_add.mpr (Or.inl rfl)⟩
  · rw [if_neg same] at found
    exact populated other ids found

theorem populated_erase (populated : Populated byWorker) (worker : WorkerId) :
    Populated (byWorker.erase worker) := by
  intro other ids found
  rw [OrderedMap.get?_erase] at found
  by_cases same : worker = other
  · rw [if_pos same] at found
    cases found
  · rw [if_neg same] at found
    exact populated other ids found

theorem populated_unindex (populated : Populated byWorker) (worker : WorkerId)
    (id : PartitionId) : Populated (unindex byWorker worker id) := by
  rw [unindex]
  cases found : byWorker.get? worker with
  | none => exact populated
  | some ids =>
    cases empty : (OrderedMap.erase ids id).isEmpty with
    | true =>
      simp only [empty, if_true]
      exact populated_erase populated worker
    | false =>
      simp only [empty, Bool.false_eq_true, if_false]
      intro other left kept
      rw [OrderedMap.get?_insert] at kept
      by_cases same : worker = other
      · rw [if_pos same] at kept
        cases kept
        exact empty
      · rw [if_neg same] at kept
        exact populated other left kept

/-- A worker has a set exactly when something is listed for it. -/
theorem mem_keys_iff_lists (populated : Populated byWorker) {worker : WorkerId} :
    worker ∈ byWorker.keys ↔ ∃ id, Lists byWorker worker id := by
  rw [OrderedMap.mem_keys_iff]
  constructor
  · rintro ⟨ids, found⟩
    obtain ⟨id, inside⟩ := OrderedSet.isEmpty_eq_false_iff.mp (populated worker ids found)
    exact ⟨id, ids, found, inside⟩
  · rintro ⟨_, ids, found, _⟩
    exact ⟨ids, found⟩

/-- Indexes without empty sets are equal when they list the same. -/
theorem eq_of_lists_iff {first second : OrderedMap WorkerId (OrderedSet PartitionId)}
    (firstPopulated : Populated first) (secondPopulated : Populated second)
    (same : ∀ worker id, Lists first worker id ↔ Lists second worker id) : first = second := by
  apply OrderedMap.ext_get?
  intro worker
  cases found : first.get? worker with
  | none =>
    cases found' : second.get? worker with
    | none => rfl
    | some ids =>
      obtain ⟨id, inside⟩ :=
        OrderedSet.isEmpty_eq_false_iff.mp (secondPopulated worker ids found')
      have listed := (same worker id).mpr ⟨ids, found', inside⟩
      exact absurd listed (not_lists_of_get?_none found id)
  | some ids =>
    cases found' : second.get? worker with
    | none =>
      obtain ⟨id, inside⟩ :=
        OrderedSet.isEmpty_eq_false_iff.mp (firstPopulated worker ids found)
      have listed := (same worker id).mp ⟨ids, found, inside⟩
      exact absurd listed (not_lists_of_get?_none found' id)
    | some others =>
      refine congrArg some (OrderedSet.ext_contains fun id => ?_)
      rw [← lists_of_get? found, ← lists_of_get? found']
      exact same worker id

end Index

/-! ### The invariant -/

/-- The indexes agree, and what is stored is fit to be stored. -/
structure Coherent (ledger : Ledger) : Prop where
  /-- Every holding is stored under its own partition. -/
  keyed : ∀ id holding, ledger.byPartition.get? id = some holding → holding.partitionId = id
  /-- A partition is in the set of a worker exactly when its holding has that producer. -/
  listed : ∀ worker id, Lists ledger.byWorker worker id ↔
    ∃ holding, ledger.byPartition.get? id = some holding ∧ holding.producer = worker
  /-- No worker has an empty set. -/
  populated : Populated ledger.byWorker
  /-- Only kinds that require tracking are stored. -/
  tracked : ∀ id holding, ledger.byPartition.get? id = some holding →
    holding.kind.requiresTracking = true
  /-- A holding occupies a local resource exactly when some worker keeps its storage. -/
  located : ∀ id holding, ledger.byPartition.get? id = some holding →
    holding.occupiesLocalResource = holding.shuffle.storage.isSome

namespace Coherent

variable {ledger : Ledger}

theorem empty : Coherent Ledger.empty where
  keyed _ _ found := nomatch found
  listed worker id := by
    constructor
    · rintro ⟨_, found, _⟩
      cases found
    · rintro ⟨_, found, _⟩
      cases found
  populated _ _ found := nomatch found
  tracked _ _ found := nomatch found
  located _ _ found := nomatch found

/-- Coherent ledgers are equal when they hold the same. -/
theorem ext {other : Ledger} (coherent : Coherent ledger) (coherent' : Coherent other)
    (same : ledger.byPartition = other.byPartition) : ledger = other := by
  have indexes : ledger.byWorker = other.byWorker := by
    apply eq_of_lists_iff coherent.populated coherent'.populated
    intro worker id
    rw [coherent.listed, coherent'.listed, same]
  cases ledger
  cases other
  cases same
  cases indexes
  rfl

/-- A ledger that holds some of what a coherent one holds is coherent if its index by
worker says so. -/
theorem of_subset {left : Ledger} (coherent : Coherent ledger)
    (subset : ∀ id holding, left.byPartition.get? id = some holding →
      ledger.byPartition.get? id = some holding)
    (listed : ∀ worker id, Lists left.byWorker worker id ↔
      ∃ holding, left.byPartition.get? id = some holding ∧ holding.producer = worker)
    (populated : Populated left.byWorker) : Coherent left where
  keyed id holding found := coherent.keyed id holding (subset id holding found)
  listed := listed
  populated := populated
  tracked id holding found := coherent.tracked id holding (subset id holding found)
  located id holding found := coherent.located id holding (subset id holding found)

theorem remove (coherent : Coherent ledger) (id : PartitionId) :
    Coherent (ledger.remove id).2 := by
  rw [Ledger.remove]
  cases found : ledger.byPartition.get? id with
  | none => exact coherent
  | some holding =>
    refine coherent.of_subset ?_ ?_ (populated_unindex coherent.populated holding.producer id)
    · intro other kept
      rw [OrderedMap.get?_erase]
      by_cases same : id = other <;> simp [same]
    · intro worker other
      rw [lists_unindex, coherent.listed, OrderedMap.get?_erase]
      by_cases same : id = other
      · subst same
        simp [found]
      · simp [same]

theorem register (coherent : Coherent ledger) {holding : Holding}
    (located : holding.occupiesLocalResource = holding.shuffle.storage.isSome) :
    Coherent (ledger.register holding).2 := by
  cases tracked : holding.kind.requiresTracking with
  | false => rwa [register_of_not_tracked ledger holding tracked]
  | true =>
    have cleared := coherent.remove holding.partitionId
    -- Everything stored is the new holding, or was there before under another partition.
    have stored : ∀ id other, (ledger.register holding).2.byPartition.get? id = some other ↔
        (holding.partitionId = id ∧ holding = other) ∨
          (ledger.remove holding.partitionId).2.byPartition.get? id = some other := by
      intro id other
      rw [register_byPartition ledger holding tracked, OrderedMap.get?_insert, remove_byPartition,
        OrderedMap.get?_erase]
      by_cases same : holding.partitionId = id <;> simp [same]
    have indexed : (ledger.register holding).2.byWorker =
        index (ledger.remove holding.partitionId).2.byWorker holding.producer
          holding.partitionId := by
      rw [Ledger.register, if_pos tracked]
    constructor
    case keyed =>
      intro id other found
      rcases (stored id other).mp found with ⟨same, rfl⟩ | old
      · exact same
      · exact cleared.keyed id other old
    case listed =>
      intro worker id
      rw [indexed, lists_index, cleared.listed]
      constructor
      · rintro (⟨produced, same⟩ | ⟨other, old, produced⟩)
        · exact ⟨holding, (stored id holding).mpr (Or.inl ⟨same, rfl⟩), produced⟩
        · exact ⟨other, (stored id other).mpr (Or.inr old), produced⟩
      · rintro ⟨other, found, produced⟩
        rcases (stored id other).mp found with ⟨same, rfl⟩ | old
        · exact Or.inl ⟨produced, same⟩
        · exact Or.inr ⟨other, old, produced⟩
    case populated =>
      rw [indexed]
      exact populated_index cleared.populated holding.producer holding.partitionId
    case tracked =>
      intro id other found
      rcases (stored id other).mp found with ⟨_, rfl⟩ | old
      · exact tracked
      · exact cleared.tracked id other old
    case located =>
      intro id other found
      rcases (stored id other).mp found with ⟨_, rfl⟩ | old
      · exact located
      · exact cleared.located id other old

theorem removeAll (coherent : Coherent ledger) (ids : List PartitionId) :
    Coherent (ledger.removeAll ids).2 := by
  induction ids generalizing ledger with
  | nil => exact coherent
  | cons id ids ih =>
    rw [removeAll_cons]
    exact ih (coherent.remove id)

theorem nodup_holdings (coherent : Coherent ledger) : ledger.holdings.Nodup :=
  OrderedMap.nodup_values Holding.partitionId coherent.keyed

theorem get?_of_mem_holdings (coherent : Coherent ledger) {holding : Holding}
    (stored : holding ∈ ledger.holdings) : ledger.get? holding.partitionId = some holding := by
  obtain ⟨id, found⟩ := OrderedMap.mem_values_iff.mp stored
  rw [coherent.keyed id holding found]
  exact found

/-- The holdings are of different partitions. -/
theorem nodup_partitionIds (coherent : Coherent ledger) :
    (ledger.holdings.map (·.partitionId)).Nodup := by
  rw [Ledger.holdings, OrderedMap.map_values_eq_keys Holding.partitionId coherent.keyed]
  exact OrderedMap.nodup_keys _

/-- A partition has one holding. -/
theorem eq_of_partitionId_eq (coherent : Coherent ledger) {holding other : Holding}
    (stored : holding ∈ ledger.holdings) (stored' : other ∈ ledger.holdings)
    (same : holding.partitionId = other.partitionId) : holding = other := by
  have found := coherent.get?_of_mem_holdings stored
  rw [same, coherent.get?_of_mem_holdings stored'] at found
  cases found
  rfl

/-- The set of a worker holds the partitions of its holdings, in their order. -/
theorem toList_listed (coherent : Coherent ledger) {worker : WorkerId}
    {ids : OrderedSet PartitionId} (found : ledger.byWorker.get? worker = some ids) :
    OrderedSet.toList ids =
      (ledger.byPartition.filter fun _ holding => holding.producer = worker).keys := by
  apply OrderedMap.keys_eq_of_mem_iff
  intro id
  rw [OrderedMap.mem_keys_iff, OrderedMap.mem_keys_iff]
  have listed := coherent.listed worker id
  rw [lists_of_get? found, OrderedMap.contains_eq_true_iff] at listed
  rw [listed]
  apply exists_congr
  intro holding
  rw [OrderedMap.get?_filter, Option.filter_eq_some_iff, decide_eq_true_iff]

/-- A worker without a set has no holdings. -/
theorem producer_ne (coherent : Coherent ledger) {worker : WorkerId}
    (absent : ledger.byWorker.get? worker = none) {id : PartitionId} {holding : Holding}
    (found : ledger.byPartition.get? id = some holding) : holding.producer ≠ worker := by
  intro produced
  have lists := (coherent.listed worker id).mpr ⟨holding, found, produced⟩
  exact not_lists_of_get?_none absent id lists

/-- The holdings of a worker are all that it produced. -/
theorem holdingsOf_eq (coherent : Coherent ledger) (worker : WorkerId) :
    ledger.holdingsOf worker =
      ledger.byPartition.values.filter fun holding => holding.producer = worker := by
  rw [← OrderedMap.values_filter, ← OrderedMap.filterMap_get?_keys, Ledger.holdingsOf]
  cases found : ledger.byWorker.get? worker with
  | none =>
    symm
    rw [List.filterMap_eq_nil_iff]
    intro id _
    rw [OrderedMap.get?_filter, Option.filter_eq_none_iff]
    intro holding stored
    simpa using coherent.producer_ne found stored
  | some ids =>
    simp only [coherent.toList_listed found]
    apply List.filterMap_congr
    intro id inside
    obtain ⟨holding, kept⟩ := OrderedMap.mem_keys_iff.mp inside
    rw [kept]
    rw [OrderedMap.get?_filter, Option.filter_eq_some_iff] at kept
    exact kept.1

/-- Removing a worker returns all that it produced. -/
theorem removeWorker_fst (coherent : Coherent ledger) (worker : WorkerId) :
    (ledger.removeWorker worker).1 =
      ledger.byPartition.values.filter fun holding => holding.producer = worker := by
  rw [← coherent.holdingsOf_eq, Ledger.removeWorker, Ledger.holdingsOf]
  cases ledger.byWorker.get? worker with
  | none => rfl
  | some ids =>
    show (takeHoldings ledger.byPartition (OrderedSet.toList ids)).1 = _
    rw [takeHoldings_fst, eraseDups_of_nodup (OrderedSet.nodup_toList ids)]

/-- Removing a worker keeps all that others produced. -/
theorem removeWorker_byPartition (coherent : Coherent ledger) (worker : WorkerId) :
    (ledger.removeWorker worker).2.byPartition =
      ledger.byPartition.filter fun _ holding => holding.producer ≠ worker := by
  apply OrderedMap.ext_get?
  intro id
  rw [OrderedMap.get?_filter, Ledger.removeWorker]
  cases found : ledger.byWorker.get? worker with
  | none =>
    show ledger.byPartition.get? id = _
    cases stored : ledger.byPartition.get? id with
    | none => rfl
    | some holding => simp [Option.filter, coherent.producer_ne found stored]
  | some ids =>
    show (takeHoldings ledger.byPartition (OrderedSet.toList ids)).2.get? id = _
    rw [takeHoldings_snd, OrderedMap.get?_filter_key]
    cases stored : ledger.byPartition.get? id with
    | none => simp
    | some holding =>
      have inside : id ∈ OrderedSet.toList ids ↔ holding.producer = worker := by
        rw [OrderedSet.mem_toList, ← lists_of_get? found, coherent.listed, stored]
        simp
      by_cases produced : holding.producer = worker <;> simp [Option.filter, inside, produced]

theorem removeWorker (coherent : Coherent ledger) (worker : WorkerId) :
    Coherent (ledger.removeWorker worker).2 := by
  have kept : ∀ id holding, (ledger.removeWorker worker).2.byPartition.get? id = some holding ↔
      ledger.byPartition.get? id = some holding ∧ holding.producer ≠ worker := by
    intro id holding
    rw [coherent.removeWorker_byPartition, OrderedMap.get?_filter, Option.filter_eq_some_iff,
      decide_eq_true_iff]
  refine coherent.of_subset (fun id holding found => ((kept id holding).mp found).1) ?_ ?_
  · intro other id
    rw [removeWorker_byWorker, lists_erase, coherent.listed]
    constructor
    · rintro ⟨different, holding, found, rfl⟩
      exact ⟨holding, (kept id holding).mpr ⟨found, Ne.symm different⟩, rfl⟩
    · rintro ⟨holding, found, rfl⟩
      obtain ⟨stored, different⟩ := (kept id holding).mp found
      exact ⟨Ne.symm different, holding, stored, rfl⟩
  · rw [removeWorker_byWorker]
    exact populated_erase coherent.populated worker

end Coherent

/-! ### What removals have in common -/

/-- A removal by a test: the holdings that pass are returned, each once, and are no
longer stored; the others stay. -/
structure Removes (before : Ledger) (chosen : Holding → Bool) (removed : List Holding)
    (after : Ledger) : Prop where
  nodup : removed.Nodup
  mem_iff : ∀ holding, holding ∈ removed ↔
    (∃ id, before.byPartition.get? id = some holding) ∧ chosen holding = true
  left : after.byPartition = before.byPartition.filter fun _ holding => !chosen holding

namespace Removes

variable {before after : Ledger} {chosen : Holding → Bool} {removed : List Holding}

theorem get? (removes : Removes before chosen removed after) (id : PartitionId) :
    after.get? id = (before.get? id).filter fun holding => !chosen holding := by
  rw [Ledger.get?, removes.left, OrderedMap.get?_filter, Ledger.get?]

/-- Only what the test says about stored holdings matters. -/
theorem congr (removes : Removes before chosen removed after) {chosen' : Holding → Bool}
    (same : ∀ holding ∈ before.holdings, chosen holding = chosen' holding) :
    Removes before chosen' removed after where
  nodup := removes.nodup
  mem_iff holding := by
    rw [removes.mem_iff]
    apply and_congr_right
    intro stored
    rw [same holding (OrderedMap.mem_values_iff.mpr stored)]
  left := by
    rw [removes.left]
    apply OrderedMap.ext_get?
    intro id
    rw [OrderedMap.get?_filter, OrderedMap.get?_filter]
    cases found : before.byPartition.get? id with
    | none => rfl
    | some holding =>
      simp only [Option.filter, same holding (OrderedMap.mem_values_iff.mpr ⟨id, found⟩)]

/-- What is returned are the chosen holdings. -/
theorem perm (removes : Removes before chosen removed after) (coherent : Coherent before) :
    removed.Perm (before.holdings.filter chosen) := by
  rw [List.perm_ext_iff_of_nodup removes.nodup (coherent.nodup_holdings.filter _)]
  intro holding
  rw [removes.mem_iff, List.mem_filter, Ledger.holdings, OrderedMap.mem_values_iff]

/-- What stays are the others. -/
theorem holdings (removes : Removes before chosen removed after) :
    after.holdings = before.holdings.filter fun holding => !chosen holding := by
  rw [Ledger.holdings, removes.left, OrderedMap.values_filter, Ledger.holdings]

/-- What is returned was stored for its own partition. -/
theorem get?_of_mem (removes : Removes before chosen removed after) (coherent : Coherent before)
    {holding : Holding} (inside : holding ∈ removed) :
    before.get? holding.partitionId = some holding := by
  obtain ⟨stored, _⟩ := (removes.mem_iff holding).mp inside
  exact coherent.get?_of_mem_holdings (OrderedMap.mem_values_iff.mpr stored)

/-- What is stored afterwards was stored before and has not been returned. -/
theorem get?_eq_some_iff (removes : Removes before chosen removed after) (id : PartitionId)
    (holding : Holding) :
    after.get? id = some holding ↔ before.get? id = some holding ∧ holding ∉ removed := by
  rw [removes.get?, Option.filter_eq_some_iff, removes.mem_iff, Bool.not_eq_true']
  apply and_congr_right
  intro found
  rw [not_and, Bool.not_eq_true, imp_iff_right ⟨id, found⟩]

/-- The partitions returned are different from each other. -/
theorem nodup_partitionIds (removes : Removes before chosen removed after)
    (coherent : Coherent before) : (removed.map (·.partitionId)).Nodup := by
  rw [((removes.perm coherent).map _).nodup_iff]
  exact coherent.nodup_partitionIds.sublist (List.filter_sublist.map _)

/-- Of one partition, at most the holding that was stored for it is returned. -/
theorem filter_partitionId (removes : Removes before chosen removed after)
    (coherent : Coherent before) (id : PartitionId) :
    (removed.filter fun holding => holding.partitionId = id) =
      ((before.get? id).filter chosen).toList := by
  apply eq_toList_of_mem_iff (removes.nodup.filter _)
  intro holding
  rw [List.mem_filter, removes.mem_iff, decide_eq_true_iff, Option.filter_eq_some_iff]
  constructor
  · rintro ⟨⟨⟨other, found⟩, passes⟩, same⟩
    rw [coherent.keyed other holding found] at same
    exact ⟨same ▸ found, passes⟩
  · rintro ⟨found, passes⟩
    exact ⟨⟨⟨id, found⟩, passes⟩, coherent.keyed id holding found⟩

/-- For one partition, a removal returns nothing and changes nothing, or returns the stored
holding and leaves nothing. -/
theorem one (removes : Removes before chosen removed after) (coherent : Coherent before)
    (id : PartitionId) :
    ((removed.filter fun holding => holding.partitionId = id) = (none : Option Holding).toList ∧
        after.get? id = before.get? id) ∨
      ∃ holding, before.get? id = some holding ∧ after.get? id = none ∧
        (removed.filter fun holding => holding.partitionId = id) = (some holding).toList := by
  rw [removes.filter_partitionId coherent, removes.get?]
  cases before.get? id with
  | none => exact Or.inl ⟨rfl, rfl⟩
  | some holding =>
    cases passes : chosen holding with
    | false => exact Or.inl (by simp [Option.filter, passes])
    | true => exact Or.inr ⟨holding, rfl, by simp [Option.filter, passes]⟩

end Removes

namespace Coherent

variable {ledger : Ledger}

theorem removes_removeWorker (coherent : Coherent ledger) (worker : WorkerId) :
    Removes ledger (fun holding => holding.producer = worker) (ledger.removeWorker worker).1
      (ledger.removeWorker worker).2 where
  nodup := by
    rw [coherent.removeWorker_fst]
    exact coherent.nodup_holdings.filter _
  mem_iff holding := by
    rw [coherent.removeWorker_fst, List.mem_filter, OrderedMap.mem_values_iff]
  left := by
    rw [coherent.removeWorker_byPartition]
    simp only [ne_eq, decide_not]

theorem removes_removeAll (coherent : Coherent ledger) (ids : List PartitionId) :
    Removes ledger (fun holding => ids.contains holding.partitionId) (ledger.removeAll ids).1
      (ledger.removeAll ids).2 where
  nodup := by
    rw [removeAll_fst]
    refine (nodup_eraseDups ids).filterMap ?_
    intro id other holding found found'
    rw [Option.mem_def] at found found'
    rw [← coherent.keyed id holding found, ← coherent.keyed other holding found']
  mem_iff holding := by
    rw [removeAll_fst, List.mem_filterMap, List.contains_iff_mem]
    constructor
    · rintro ⟨id, listed, found⟩
      rw [List.mem_eraseDups] at listed
      exact ⟨⟨id, found⟩, coherent.keyed id holding found ▸ listed⟩
    · rintro ⟨⟨id, found⟩, listed⟩
      rw [coherent.keyed id holding found] at listed
      exact ⟨id, List.mem_eraseDups.mpr listed, found⟩
  left := by
    rw [removeAll_byPartition]
    apply OrderedMap.ext_get?
    intro id
    rw [OrderedMap.get?_filter, OrderedMap.get?_filter]
    cases found : ledger.byPartition.get? id with
    | none => rfl
    | some holding => simp only [Option.filter, coherent.keyed id holding found]

/-- Removing listed partitions, each once, removes their holdings. -/
theorem removes_distinct (coherent : Coherent ledger) (ids : List PartitionId) :
    let distinct := OrderedSet.toList (OrderedSet.ofList ids)
    Removes ledger (fun holding => ids.contains holding.partitionId) (ledger.removeAll distinct).1
      (ledger.removeAll distinct).2 := by
  intro distinct
  apply (coherent.removes_removeAll distinct).congr
  intro holding _
  rw [Bool.eq_iff_iff, List.contains_iff_mem, List.contains_iff_mem, OrderedSet.mem_toList,
    OrderedSet.contains_ofList]

end Coherent

/-! ### Runs of changes -/

/-- A change of a ledger. Holdings are only ever made from a deployment. -/
inductive Change where
  | register (producer : WorkerId) (deployment : Deployment)
  | removeWorker (worker : WorkerId)
  | removeAll (ids : List PartitionId)

/-- What a change gives back. -/
inductive Returned where
  | registered (flag : Bool)
  | removed (holdings : List Holding)
  deriving DecidableEq

/-- Carry out a change. -/
def change (ledger : Ledger) : Change → Returned × Ledger
  | .register producer deployment =>
    let (flag, ledger) := ledger.register (.ofDeployment producer deployment)
    (.registered flag, ledger)
  | .removeWorker worker =>
    let (holdings, ledger) := ledger.removeWorker worker
    (.removed holdings, ledger)
  | .removeAll ids =>
    let (holdings, ledger) := ledger.removeAll ids
    (.removed holdings, ledger)

/-- Carry out changes in order. -/
def changeAll (ledger : Ledger) : List Change → List Returned × Ledger
  | [] => ([], ledger)
  | change :: changes =>
    let (returned, ledger) := ledger.change change
    let (later, ledger) := ledger.changeAll changes
    (returned :: later, ledger)

theorem Coherent.change {ledger : Ledger} (coherent : Coherent ledger) (change : Change) :
    Coherent (ledger.change change).2 := by
  cases change with
  | register producer deployment => exact coherent.register rfl
  | removeWorker worker => exact coherent.removeWorker worker
  | removeAll ids => exact coherent.removeAll ids

theorem Coherent.changeAll {ledger : Ledger} (coherent : Coherent ledger)
    (changes : List Change) : Coherent (ledger.changeAll changes).2 := by
  induction changes generalizing ledger with
  | nil => exact coherent
  | cons change changes ih => exact ih (coherent.change change)

/-- Whatever has been done to a ledger since it was empty, its indexes agree: each
tracked partition is in the set of exactly one worker, its producer, and no set holds a
partition that is not tracked. -/
theorem coherent_of_changes (changes : List Change) :
    let ledger := (Ledger.empty.changeAll changes).2
    Coherent ledger ∧
      (∀ id, ledger.isTracked id = true → ∃! worker, Lists ledger.byWorker worker id) ∧
      ∀ worker id, Lists ledger.byWorker worker id → ledger.isTracked id = true := by
  intro ledger
  have coherent : Coherent ledger := Coherent.empty.changeAll changes
  refine ⟨coherent, ?_, ?_⟩
  · intro id tracked
    obtain ⟨holding, found⟩ := OrderedMap.contains_eq_true_iff.mp tracked
    refine ⟨holding.producer, (coherent.listed _ id).mpr ⟨holding, found, rfl⟩, ?_⟩
    intro worker lists
    obtain ⟨other, found', produced⟩ := (coherent.listed worker id).mp lists
    rw [found] at found'
    cases found'
    exact produced.symm
  · intro worker id lists
    obtain ⟨holding, found, _⟩ := (coherent.listed worker id).mp lists
    exact OrderedMap.contains_eq_true_iff.mpr ⟨holding, found⟩

end Ledger

end PartitionLedger
