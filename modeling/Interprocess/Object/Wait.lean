import Interprocess.Object.Event
import Interprocess.Object.Mutex
import Interprocess.Object.Semaphore

/-!
# Operations on objects of any kind

Reading the state of whatever a record holds, and taking it without waiting: a mutex is acquired, an
event is polled, a semaphore gives up one unit.
-/

namespace Interprocess

namespace Record

def snapshotBody : Body ObjectState := do
  match Kind.ofTag (← Body.read .tag) with
  | .unknown => return .unknown
  | .mutex => return .mutex (← Mutex.stateBody)
  | .event => return .event (← Event.stateBody)
  | .semaphore => return .semaphore (← Semaphore.stateBody)

def snapshot (p : GuardPolicy) : Op Record ObjectState :=
  guarded p (return .ok (← snapshotBody))

def waitBody (requester : ThreadId) : Body (Except SyncError Acquisition) := do
  match Kind.ofTag (← Body.read .tag) with
  | .mutex => Mutex.acquireBody requester
  | .event => return .ok (if ← Event.pollBody then .acquired else .notAvailable)
  | .semaphore => Semaphore.acquireBody 1
  | .unknown => return .error .untyped

/-- Takes whatever the record holds for `requester`, if it can be taken now. -/
def tryWait (p : GuardPolicy) (requester : ThreadId) : Op Record Acquisition :=
  guarded p (waitBody requester)

end Record

end Interprocess
