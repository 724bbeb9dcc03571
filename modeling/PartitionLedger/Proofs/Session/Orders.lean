/-
# Orders

Of everything that happens along a schedule, only some moves are orders of the owner:
they register or remove partitions, or make a worker unreachable. The rest are tasks,
time, trouble, cluster partitions, and what is done with a dispatch. Leaving all of that
out changes neither the standing of the session nor any dispatch, so both are a matter of
the orders alone.
-/

import PartitionLedger.Proofs.Session.Reclamation

namespace PartitionLedger

open Collection

/-- The order that a move carries out, without what is done with its dispatch. -/
def Move.order? : Move → Option Command
  | .command (.track producer deployment) => some (.track producer deployment)
  | .command (.forgetWorker worker) => some (.forgetWorker worker)
  | .command (.forget ids) => some (.forget ids)
  | .command (.release ids notify _) => some (.release ids notify .drop)
  | .command (.promote ids _) => some (.promote ids .drop)
  | .command (.markUnreachable worker) => some (.markUnreachable worker)
  | _ => none

/-- The orders of a schedule, as a schedule of their own. -/
def orders (moves : List Move) : List Move := (moves.filterMap Move.order?).map .command

namespace Session

/-- The dispatches of a schedule. -/
def dispatches (steps : List Step) : List Dispatch :=
  steps.flatMap fun step => step.reply.dispatch?.toList

/-- What is not an order is silent. -/
theorem act_of_order?_none (session : Session) {move : Move} (none : move.order? = none) :
    (session.act move).2.standing = session.standing ∧
      (session.act move).1.dispatch? = .none := by
  cases move with
  | start number => exact ⟨standing_start session number, rfl⟩
  | pass milliseconds => exact ⟨rfl, rfl⟩
  | await dispatches => exact ⟨rfl, rfl⟩
  | command command =>
    cases command with
    | settleHeld => exact ⟨standing_settleHeld session, rfl⟩
    | advance milliseconds => exact ⟨standing_advance session milliseconds, rfl⟩
    | track | forgetWorker | forget | release | promote | markUnreachable => cases none
    | makeTrouble | stallNotices | failNotices | connect | provide | failManager | lookup =>
      exact ⟨rfl, rfl⟩

theorem standing_track (session : Session) (producer : WorkerId) (deployment : Deployment) :
    (session.track producer deployment).2.standing =
      { session.standing with
        ledger := (session.ledger.register (.ofDeployment producer deployment)).2 } := by
  rw [← track_ledger, track]
  cases deployment.kind.requiresTracking <;> rfl

section Order

variable {session other : Session}

/-- What letting go does is decided by the standing. -/
theorem letGo_eq_of_standing_eq (same : session.standing = other.standing)
    (disposition : Disposition) (notify : Bool) (ids : List PartitionId) :
    (session.letGo disposition notify ids).2.standing =
        (other.letGo disposition notify ids).2.standing ∧
      (session.letGo disposition notify ids).1 = (other.letGo disposition notify ids).1 := by
  constructor
  · show { session.standing with
        ledger := (session.ledger.removeAll (OrderedSet.toList (OrderedSet.ofList ids))).2
        dispatchCount := session.standing.dispatchCount + 1 } = { other.standing with
        ledger := (other.ledger.removeAll (OrderedSet.toList (OrderedSet.ofList ids))).2
        dispatchCount := other.standing.dispatchCount + 1 }
    rw [ledger_eq_of_standing_eq same, same]
  · rw [letGo_fst, letGo_fst, job_eq_of_standing_eq same, resolves_eq_of_standing_eq same,
      ledger_eq_of_standing_eq same]

/-- An order has the same outcome from every session of the same standing, whatever is done
with its dispatch. -/
theorem act_of_order?_some (same : session.standing = other.standing) {move : Move}
    {order : Command} (some : move.order? = some order) :
    (session.act move).2.standing = (other.act (.command order)).2.standing ∧
      (session.act move).1.dispatch? = (other.act (.command order)).1.dispatch? := by
  cases move with
  | start | pass | await => cases some
  | command command =>
    cases command with
    | track producer deployment =>
      cases some
      refine ⟨?_, rfl⟩
      show (session.track producer deployment).2.standing =
        (other.track producer deployment).2.standing
      rw [standing_track, standing_track, ledger_eq_of_standing_eq same, same]
    | forgetWorker worker =>
      cases some
      refine ⟨?_, rfl⟩
      show { session.standing with ledger := (session.ledger.removeWorker worker).2 } =
        { other.standing with ledger := (other.ledger.removeWorker worker).2 }
      rw [ledger_eq_of_standing_eq same, same]
    | forget ids =>
      cases some
      refine ⟨?_, rfl⟩
      show { session.standing with
          ledger := (session.ledger.removeAll (OrderedSet.toList (OrderedSet.ofList ids))).2 } =
        { other.standing with
          ledger := (other.ledger.removeAll (OrderedSet.toList (OrderedSet.ofList ids))).2 }
      rw [ledger_eq_of_standing_eq same, same]
    | release ids notify follow =>
      cases some
      obtain ⟨next, dispatch⟩ := letGo_eq_of_standing_eq same .release notify ids
      exact ⟨(standing_followUp _ follow).trans next, congrArg Option.some dispatch⟩
    | promote ids follow =>
      cases some
      obtain ⟨next, dispatch⟩ := letGo_eq_of_standing_eq same .promote false ids
      exact ⟨(standing_followUp _ follow).trans next, congrArg Option.some dispatch⟩
    | markUnreachable worker =>
      cases some
      refine ⟨?_, rfl⟩
      show { session.standing with
          unreachable := OrderedSet.add session.standing.unreachable worker } =
        { other.standing with unreachable := OrderedSet.add other.standing.unreachable worker }
      rw [same]
    | settleHeld | advance | makeTrouble | stallNotices | failNotices | connect | provide
    | failManager | lookup => cases some

/-- Only the orders count. -/
theorem trace_orders (same : session.standing = other.standing) (moves : List Move) :
    (session.after moves).standing = (other.after (orders moves)).standing ∧
      dispatches (session.trace moves) = dispatches (other.trace (orders moves)) := by
  induction moves generalizing session other with
  | nil => exact ⟨same, rfl⟩
  | cons move moves ih =>
    cases order : move.order? with
    | none =>
      obtain ⟨unchanged, silent⟩ := session.act_of_order?_none order
      obtain ⟨standing, dispatched⟩ := ih (unchanged.trans same)
      rw [orders, List.filterMap_cons_none order]
      refine ⟨standing, ?_⟩
      rw [trace, dispatches, List.flatMap_cons, silent]
      exact dispatched
    | some command =>
      obtain ⟨next, dispatch⟩ := act_of_order?_some same order
      obtain ⟨standing, dispatched⟩ := ih next
      rw [orders, List.filterMap_cons_some order]
      refine ⟨standing, ?_⟩
      rw [trace, dispatches, List.flatMap_cons, dispatch]
      exact congrArg _ dispatched

/-- Schedules with the same orders make the same dispatches. -/
theorem dispatches_eq_of_orders_eq (session : Session) {moves moves' : List Move}
    (same : orders moves = orders moves') :
    dispatches (session.trace moves) = dispatches (session.trace moves') := by
  rw [(trace_orders rfl moves).2, (trace_orders rfl moves').2, same]

end Order

end Session

end PartitionLedger
