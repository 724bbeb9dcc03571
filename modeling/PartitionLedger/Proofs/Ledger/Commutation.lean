/-
# Changes that do not concern each other

Two removals made one after the other are one removal of what either of them chooses, so
the order in which they are made decides only which of them returns a holding that both
choose. A registration is out of reach of a removal that would leave its holding alone,
even if the removal takes the holding that it replaces: a partition that is deployed anew
stays with its new producer, whether the loss of the old one is noticed before or after.

All of this is seen one partition at a time. A change decides about the holding of a
partition from nothing but the holding that is stored for it, and a ledger is determined by
its holdings as long as its indexes agree.
-/

import PartitionLedger.Proofs.Ledger.Coherence

namespace PartitionLedger

open Collection

namespace Ledger

/-! ### Removals in succession -/

namespace Removes

variable {before middle after after' : Ledger} {chosen chosen' : Holding → Bool}
  {removed removed' : List Holding}

/-- What one removal returns, the next one no longer finds. -/
theorem disjoint (first : Removes before chosen removed middle)
    (second : Removes middle chosen' removed' after) : removed.Disjoint removed' := by
  intro holding inside inside'
  obtain ⟨⟨id, found⟩, _⟩ := (second.mem_iff holding).mp inside'
  exact ((first.get?_eq_some_iff id holding).mp found).2 inside

/-- Two removals in succession are one removal of what either of them chooses. -/
theorem append (first : Removes before chosen removed middle)
    (second : Removes middle chosen' removed' after) :
    Removes before (fun holding => chosen holding || chosen' holding) (removed ++ removed')
      after where
  nodup := List.nodup_append'.mpr ⟨first.nodup, second.nodup, first.disjoint second⟩
  mem_iff holding := by
    have stored : (∃ id, middle.byPartition.get? id = some holding) ↔
        (∃ id, before.byPartition.get? id = some holding) ∧ chosen holding = false := by
      rw [← exists_and_right]
      apply exists_congr
      intro id
      rw [first.left, OrderedMap.get?_filter, Option.filter_eq_some_iff, Bool.not_eq_true']
    rw [List.mem_append, first.mem_iff, second.mem_iff, stored, Bool.or_eq_true, and_assoc,
      ← and_or_left]
    apply and_congr_right
    intro _
    cases chosen holding <;> simp
  left := by
    apply OrderedMap.ext_get?
    intro id
    rw [second.left, OrderedMap.get?_filter, first.left, OrderedMap.get?_filter,
      OrderedMap.get?_filter, Option.filter_filter]
    simp only [Bool.not_or]

/-- What a removal leaves is decided by what it chooses. -/
theorem left_unique (first : Removes before chosen removed after)
    (second : Removes before chosen removed' after') (coherent : Coherent after)
    (coherent' : Coherent after') : after = after' :=
  coherent.ext coherent' (first.left.trans second.left.symm)

/-- So is what it returns. -/
theorem returned_unique (first : Removes before chosen removed after)
    (second : Removes before chosen removed' after') : removed.Perm removed' := by
  rw [List.perm_ext_iff_of_nodup first.nodup second.nodup]
  intro holding
  rw [first.mem_iff, second.mem_iff]

/-- What is returned are the holdings that are stored before and not afterwards. -/
theorem mem_iff_not_mem (removes : Removes before chosen removed after) (holding : Holding) :
    holding ∈ removed ↔ holding ∈ before.holdings ∧ holding ∉ after.holdings := by
  rw [removes.mem_iff, removes.holdings, List.mem_filter, Ledger.holdings,
    OrderedMap.mem_values_iff]
  apply and_congr_right
  intro stored
  simp [stored]

end Removes

/-! ### One partition -/

/-- The holdings that a change gives back. -/
def Returned.holdings : Returned → List Holding
  | .registered _ => []
  | .removed holdings => holdings

namespace Change

/-- The holding that a change registers, if any. -/
def registered? : Change → Option Holding
  | .register producer deployment =>
    if deployment.kind.requiresTracking then some (.ofDeployment producer deployment) else none
  | .removeWorker _ => none
  | .removeAll _ => none

/-- The change removes the holding if it finds it. -/
def reaches : Change → Holding → Bool
  | .register _ _, _ => false
  | .removeWorker worker, holding => holding.producer = worker
  | .removeAll ids, holding => ids.contains holding.partitionId

/-- The change only removes. -/
def isRemoval : Change → Bool
  | .register _ _ => false
  | .removeWorker _ => true
  | .removeAll _ => true

/-- The holding that a change puts in place for a partition. -/
def placed? (change : Change) (id : PartitionId) : Option Holding :=
  change.registered?.filter fun holding => holding.partitionId = id

/-- What a change makes of the holding that is stored for a partition. -/
def effect (change : Change) (id : PartitionId) (stored : Option Holding) : Option Holding :=
  (change.placed? id).or (stored.filter fun holding => !change.reaches holding)

/-- Changes that do not concern each other: registrations of different partitions, a removal
and a registration that is out of its reach, and any two removals. -/
def Independent : Change → Change → Prop
  | .register _ deployment, .register _ other => deployment.partitionId ≠ other.partitionId
  | .register producer deployment, removal =>
    removal.reaches (.ofDeployment producer deployment) = false
  | removal, .register producer deployment =>
    removal.reaches (.ofDeployment producer deployment) = false
  | _, _ => True

theorem Independent.symm {first second : Change} (independent : Independent first second) :
    Independent second first := by
  cases first with
  | register producer deployment =>
    cases second with
    | register => exact Ne.symm independent
    | removeWorker | removeAll => exact independent
  | removeWorker | removeAll =>
    cases second with
    | register => exact independent
    | removeWorker | removeAll => trivial

section Placed

variable {change first second : Change} {id : PartitionId} {holding : Holding}

theorem placed?_eq_some_iff : change.placed? id = some holding ↔
    ∃ producer deployment, change = .register producer deployment ∧
      deployment.kind.requiresTracking = true ∧ deployment.partitionId = id ∧
      holding = .ofDeployment producer deployment := by
  rw [placed?, Option.filter_eq_some_iff, decide_eq_true_iff]
  cases change with
  | register producer deployment =>
    simp only [registered?, Option.ite_none_right_eq_some, Option.some.injEq]
    constructor
    · rintro ⟨⟨tracked, rfl⟩, same⟩
      exact ⟨producer, deployment, rfl, tracked, same, rfl⟩
    · rintro ⟨_, _, same, tracked, own, rfl⟩
      cases same
      exact ⟨⟨tracked, rfl⟩, own⟩
  | removeWorker worker => simp [registered?]
  | removeAll ids => simp [registered?]

/-- What one of two independent changes puts in place is out of the reach of the other. -/
theorem Independent.reaches_placed (independent : Independent first second)
    (placed : first.placed? id = some holding) : second.reaches holding = false := by
  obtain ⟨producer, deployment, rfl, _, _, rfl⟩ := placed?_eq_some_iff.mp placed
  cases second with
  | register => rfl
  | removeWorker | removeAll => exact independent

/-- Only one of two independent changes puts something in place for a partition. -/
theorem Independent.placed?_eq_none (independent : Independent first second)
    (placed : first.placed? id = some holding) : second.placed? id = none := by
  obtain ⟨producer, deployment, rfl, _, same, rfl⟩ := placed?_eq_some_iff.mp placed
  rw [Option.eq_none_iff_forall_ne_some]
  intro other placed'
  obtain ⟨producer', deployment', rfl, _, same', rfl⟩ := placed?_eq_some_iff.mp placed'
  exact independent (same.trans same'.symm)

/-- What a change puts in place survives an independent one. -/
theorem Independent.effect_effect (independent : Independent first second)
    (placed : first.placed? id = some holding) (stored : Option Holding) :
    second.effect id (first.effect id stored) = some holding := by
  have unreached := independent.reaches_placed placed
  simp [effect, placed, independent.placed?_eq_none placed, unreached, Option.filter]

theorem effect_of_placed (placed : change.placed? id = some holding) (stored : Option Holding) :
    change.effect id stored = some holding := by
  rw [effect, placed, Option.some_or]

theorem effect_of_not_placed (placed : change.placed? id = none) (stored : Option Holding) :
    change.effect id stored = stored.filter fun holding => !change.reaches holding := by
  rw [effect, placed, Option.none_or]

/-- On a single partition, independent changes commute. -/
theorem Independent.effect_comm (independent : Independent first second) (id : PartitionId)
    (stored : Option Holding) :
    second.effect id (first.effect id stored) = first.effect id (second.effect id stored) := by
  cases placed : first.placed? id with
  | some holding =>
    rw [independent.effect_effect placed, effect_of_placed placed]
  | none =>
    cases placed' : second.placed? id with
    | some holding =>
      rw [independent.symm.effect_effect placed', effect_of_placed placed']
    | none =>
      -- Nothing is put in place, so both changes are filters.
      simp only [effect_of_not_placed placed, effect_of_not_placed placed', Option.filter_filter,
        Bool.and_comm]

end Placed

end Change

namespace Coherent

variable {ledger : Ledger}

/-- A change decides about each partition alone. -/
theorem get?_change (coherent : Coherent ledger) (change : Change) (id : PartitionId) :
    (ledger.change change).2.get? id = change.effect id (ledger.get? id) := by
  cases change with
  | register producer deployment =>
    show (ledger.register (.ofDeployment producer deployment)).2.get? id = _
    have left : (ledger.get? id).filter
        (fun holding => !(Change.register producer deployment).reaches holding) =
          ledger.get? id := by
      cases ledger.get? id <;> rfl
    cases tracked : deployment.kind.requiresTracking with
    | false =>
      have placed : (Change.register producer deployment).placed? id = none := by
        rw [Change.placed?, Change.registered?, tracked, if_neg Bool.false_ne_true]
        rfl
      rw [register_of_not_tracked ledger (.ofDeployment producer deployment) tracked,
        Change.effect_of_not_placed placed, left]
    | true =>
      rw [get?_register ledger (.ofDeployment producer deployment) tracked, Change.effect, left,
        Change.placed?, Change.registered?, tracked, if_pos rfl]
      by_cases same : (Holding.ofDeployment producer deployment).partitionId = id <;>
        simp [Option.filter, same]
  | removeWorker worker =>
    rw [Change.effect_of_not_placed rfl]
    exact (coherent.removes_removeWorker worker).get? id
  | removeAll ids =>
    rw [Change.effect_of_not_placed rfl]
    exact (coherent.removes_removeAll ids).get? id

/-- A removal takes what it reaches. -/
theorem removes_change (coherent : Coherent ledger) {change : Change}
    (removal : change.isRemoval = true) :
    Removes ledger change.reaches (ledger.change change).1.holdings (ledger.change change).2 := by
  cases change with
  | register => cases removal
  | removeWorker worker => exact coherent.removes_removeWorker worker
  | removeAll ids => exact coherent.removes_removeAll ids

end Coherent

/-- What two changes come to, whichever of them is made first. -/
structure Interchange (ledger : Ledger) (first second : Change) : Prop where
  /-- Both indexes are the same in the end. -/
  same : ((ledger.change first).2.change second).2 = ((ledger.change second).2.change first).2
  /-- What one of the changes registers is there in the end, and with its producer only. -/
  registered : ∀ producer deployment,
    first = .register producer deployment ∨ second = .register producer deployment →
    deployment.kind.requiresTracking = true →
      let final := ((ledger.change first).2.change second).2
      final.get? deployment.partitionId = some (.ofDeployment producer deployment) ∧
        ∀ worker, Lists final.byWorker worker deployment.partitionId ↔ worker = producer
  /-- Two removals return each holding that is gone in the end once, and nothing else. -/
  returned : first.isRemoval = true → second.isRemoval = true →
    let final := ((ledger.change first).2.change second).2
    let removed := (ledger.change first).1.holdings ++
      ((ledger.change first).2.change second).1.holdings
    removed.Nodup ∧
      ∀ holding, holding ∈ removed ↔ holding ∈ ledger.holdings ∧ holding ∉ final.holdings

theorem Coherent.interchange {ledger : Ledger} (coherent : Coherent ledger)
    {first second : Change} (independent : Change.Independent first second) :
    Interchange ledger first second := by
  have coherent₁ := coherent.change first
  have coherent₂ := coherent.change second
  have final := coherent₁.change second
  have got : ∀ id, ((ledger.change first).2.change second).2.get? id =
      second.effect id (first.effect id (ledger.get? id)) := by
    intro id
    rw [coherent₁.get?_change, coherent.get?_change]
  constructor
  case same =>
    refine final.ext (coherent₂.change first) (OrderedMap.ext_get? fun id => ?_)
    have got' := coherent₂.get?_change first id
    rw [coherent.get?_change] at got'
    exact (got id).trans ((independent.effect_comm id _).trans got'.symm)
  case registered =>
    intro producer deployment either tracked
    have placed : (Change.register producer deployment).placed? deployment.partitionId =
        some (.ofDeployment producer deployment) :=
      Change.placed?_eq_some_iff.mpr ⟨producer, deployment, rfl, tracked, rfl, rfl⟩
    have kept : ((ledger.change first).2.change second).2.get? deployment.partitionId =
        some (.ofDeployment producer deployment) := by
      rw [got]
      rcases either with rfl | rfl
      · exact independent.effect_effect placed _
      · exact Change.effect_of_placed placed _
    refine ⟨kept, fun worker => ?_⟩
    rw [final.listed, ← Ledger.get?, kept]
    simp [Holding.ofDeployment, eq_comm]
  case returned =>
    intro removal removal'
    have removes := (coherent.removes_change removal).append (coherent₁.removes_change removal')
    exact ⟨removes.nodup, removes.mem_iff_not_mem⟩

/-- Whatever has been done to a ledger since it was empty, independent changes can be made in
either order. -/
theorem independent_changes_commute (changes : List Change) (first second : Change)
    (independent : Change.Independent first second) :
    let ledger := (Ledger.empty.changeAll changes).2
    Interchange ledger first second ∧ Interchange ledger second first := by
  intro ledger
  have coherent : Coherent ledger := Coherent.empty.changeAll changes
  exact ⟨coherent.interchange independent, coherent.interchange independent.symm⟩

/-- A partition is deployed on another worker while its old worker, which has one more, is
given up. -/
theorem independent_changes_commute_redeployed :
    let changes : List Change :=
      [.register ⟨2⟩ ⟨⟨9⟩, .blocking, .onWorker ⟨4⟩ ⟨2⟩⟩,
        .register ⟨2⟩ ⟨⟨9⟩, .blockingPersistent, .external ⟨5⟩⟩]
    let redeploy : Change := .register ⟨3⟩ ⟨⟨9⟩, .blocking, .onWorker ⟨4⟩ ⟨3⟩⟩
    let ledger := (Ledger.empty.changeAll changes).2
    Change.Independent redeploy (.removeWorker ⟨2⟩) ∧
      Interchange ledger redeploy (.removeWorker ⟨2⟩) ∧
      Interchange ledger (.removeWorker ⟨2⟩) redeploy :=
  ⟨rfl, independent_changes_commute _ (.register ⟨3⟩ ⟨⟨9⟩, .blocking, .onWorker ⟨4⟩ ⟨3⟩⟩)
    (.removeWorker ⟨2⟩) rfl⟩

end Ledger

end PartitionLedger
