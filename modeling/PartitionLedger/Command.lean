/-
# Commands

A run of a session is a list of commands: what the owner of the tracker does, how
collaborators are told to behave, and the moments at which waiting tasks run. Each
command has a reply. Effects tell what the collaborators and the tasks have done
between two moments of a session.
-/

import PartitionLedger.Session

namespace PartitionLedger

/-- What the owner does with a dispatch: await it, keep it for later, or drop it. -/
inductive Follow where
  | settle
  | hold
  | drop
  deriving DecidableEq, Repr

/-- One step of a run. -/
inductive Command where
  | track (producer : WorkerId) (deployment : Deployment)
  | forgetWorker (worker : WorkerId)
  | forget (ids : List PartitionId)
  | release (ids : List PartitionId) (notify : Bool) (follow : Follow)
  | promote (ids : List PartitionId) (follow : Follow)
  | settleHeld
  | advance (milliseconds : Nat)
  | markUnreachable (worker : WorkerId)
  | makeTrouble (worker : WorkerId) (trouble : Trouble)
  | stallNotices (id : PartitionId)
  | failNotices (id : PartitionId) (cause : RemoteError)
  | connect (through : Handle) (manager : String)
  | provide (manager : String) (dataset : DatasetId) (descriptors : List ShuffleDescriptor)
  | failManager (manager : String) (cause : RemoteError)
  | lookup (through : Handle) (dataset : DatasetId)

/-- What a command gives back at once. -/
inductive Reply where
  | done
  | tracked (flag : Bool)
  | removed (holdings : List Holding)
  | dispatched (dispatch : Dispatch)
  | descriptors (result : Except LookupError (List ShuffleDescriptor))

namespace Session

/-- Follow up on the latest dispatch. -/
def followUp (session : Session) : Follow → Session
  | .settle => session.settle [session.dispatchCount - 1]
  | .hold => session.holdLatest
  | .drop => session

/-- Carry out a command. -/
def perform (session : Session) : Command → Reply × Session
  | .track producer deployment =>
    let (tracked, session) := session.track producer deployment
    (.tracked tracked, session)
  | .forgetWorker worker =>
    let (removed, session) := session.forgetWorker worker
    (.removed removed, session)
  | .forget ids =>
    let (removed, session) := session.forget ids
    (.removed removed, session)
  | .release ids notify follow =>
    let (dispatch, session) := session.release ids notify
    (.dispatched dispatch, session.followUp follow)
  | .promote ids follow =>
    let (dispatch, session) := session.promote ids
    (.dispatched dispatch, session.followUp follow)
  | .settleHeld => (.done, session.settleHeld)
  | .advance milliseconds => (.done, session.advance milliseconds)
  | .markUnreachable worker =>
    (.done, { session with fleet := session.fleet.markUnreachable worker })
  | .makeTrouble worker trouble =>
    (.done, { session with fleet := session.fleet.makeTrouble worker trouble })
  | .stallNotices id => (.done, { session with master := session.master.stallNotices id })
  | .failNotices id cause =>
    (.done, { session with master := session.master.failNotices id cause })
  | .connect _ manager => (.done, session.connect manager)
  | .provide manager dataset descriptors =>
    (.done, { session with
      directory := session.directory.change manager (·.provide dataset descriptors) })
  | .failManager manager cause =>
    (.done, { session with directory := session.directory.change manager (·.failWith cause) })
  | .lookup _ dataset =>
    let (result, session) := session.lookup dataset
    (.descriptors result, session)

/-- Carry out commands in order. -/
def performAll (session : Session) : List Command → List Reply × Session
  | [] => ([], session)
  | command :: commands =>
    let (reply, session) := session.perform command
    let (replies, session) := session.performAll commands
    (reply :: replies, session)

end Session

/-- What has happened between two moments of a session. -/
structure Effects where
  elapsed : Nat
  calls : List WorkerCall
  released : List PartitionId
  ownerEvents : List Event
  taskEvents : List Event
  deriving DecidableEq

/-- The difference between an earlier and a later moment of one session. Everything
that is recorded is only ever added to. -/
def Effects.between (earlier later : Session) : Effects :=
  let entries := later.journal.drop earlier.journal.length
  { elapsed := later.clock - earlier.clock
    calls := later.fleet.calls.drop earlier.fleet.calls.length
    released := later.master.released.drop earlier.master.released.length
    ownerEvents := (entries.filter fun entry => entry.origin = .owner).map (·.event)
    taskEvents := (entries.filter fun entry => entry.origin ≠ .owner).map (·.event) }

end PartitionLedger
