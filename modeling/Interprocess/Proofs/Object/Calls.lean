import Interprocess.Object.Wait
import Interprocess.Proofs.Guard.Word
import Interprocess.Proofs.Operation

/-!
# Calls on records

Every operation on a record as data, with what it answers: so that a statement about all operations
is one statement. A call is a body that runs under the guard (`Call.body`), unless it refuses its
arguments before it touches the record.
-/

namespace Interprocess

/-! ## Calls and answers -/

/-- What an object is made of. -/
inductive Blueprint where
  | mutex (owner : Option ThreadId)
  | event (manualReset signaled : Bool)
  | semaphore (initial maximum : UInt32)

inductive MutexCall where
  | tryAcquire (requester : ThreadId)
  | release (requester : ThreadId)
  | markAbandoned
  | abandonIfOwnedBy (owner : ThreadId)
  | state

inductive EventCall where
  | signal
  | reset
  | poll
  | state

inductive SemaphoreCall where
  | tryAcquire (units : UInt32)
  | release (units : UInt32)
  | state

/-- An operation on a record. -/
inductive Call where
  | setUp (b : Blueprint)
  | mutex (c : MutexCall)
  | event (c : EventCall)
  | semaphore (c : SemaphoreCall)
  | snapshot
  | tryWait (requester : ThreadId)
  | retire

inductive Answer where
  | done
  | flag (b : Bool)
  /-- The depth of a mutex or the units of a semaphore, before the call. -/
  | level (n : UInt32)
  | acquisition (a : Acquisition)
  | state (o : ObjectState)
  | kind (k : Kind)
  deriving DecidableEq

/-! ## The operations that calls stand for -/

def Blueprint.firstState : Blueprint → Except SyncError ObjectState
  | mutex owner => (Mutex.firstState owner).map .mutex
  | event manualReset signaled => .ok (.event (Event.firstState manualReset signaled))
  | semaphore initial maximum => (Semaphore.firstState initial maximum).map .semaphore

def Blueprint.setUp (p : GuardPolicy) : Blueprint → Op Record Unit
  | mutex owner => Mutex.create p owner
  | event manualReset signaled => Event.create p manualReset signaled
  | semaphore initial maximum => Semaphore.create p initial maximum

namespace MutexCall

def op (p : GuardPolicy) : MutexCall → Op Record Answer
  | tryAcquire requester => .acquisition <$> Mutex.tryAcquire p requester
  | release requester => .level <$> Mutex.release p requester
  | markAbandoned => (fun _ => .done) <$> Mutex.markAbandoned p
  | abandonIfOwnedBy owner => .flag <$> Mutex.abandonIfOwnedBy p owner
  | state => (.state ∘ .mutex) <$> Mutex.state p

def body : MutexCall → Body (Except SyncError Answer)
  | tryAcquire requester => Except.map .acquisition <$> Mutex.acquireBody requester
  | release requester => Except.map .level <$> Mutex.releaseBody requester
  | markAbandoned => Except.map (fun _ => .done) <$> Mutex.markAbandonedBody
  | abandonIfOwnedBy owner => Except.map .flag <$> Mutex.abandonIfOwnedBody owner
  | state => (fun m => .ok (.state (.mutex m))) <$> Mutex.stateBody

end MutexCall

namespace EventCall

def op (p : GuardPolicy) : EventCall → Op Record Answer
  | signal => .flag <$> Event.signal p
  | reset => .flag <$> Event.reset p
  | poll => .flag <$> Event.poll p
  | state => (.state ∘ .event) <$> Event.state p

def body : EventCall → Body (Except SyncError Answer)
  | signal => (fun b => .ok (.flag b)) <$> Event.putBody 1
  | reset => (fun b => .ok (.flag b)) <$> Event.putBody 0
  | poll => (fun b => .ok (.flag b)) <$> Event.pollBody
  | state => (fun e => .ok (.state (.event e))) <$> Event.stateBody

end EventCall

namespace SemaphoreCall

def op (p : GuardPolicy) : SemaphoreCall → Op Record Answer
  | tryAcquire units => .acquisition <$> Semaphore.tryAcquire p units
  | release units => .level <$> Semaphore.release p units
  | state => (.state ∘ .semaphore) <$> Semaphore.state p

def body : SemaphoreCall → Body (Except SyncError Answer)
  | tryAcquire units => Except.map .acquisition <$> Semaphore.acquireBody units
  | release units => Except.map .level <$> Semaphore.releaseBody units
  | state => (fun s => .ok (.state (.semaphore s))) <$> Semaphore.stateBody

end SemaphoreCall

namespace Call

def op (p : GuardPolicy) : Call → Op Record Answer
  | setUp b => (fun _ => .done) <$> b.setUp p
  | mutex c => c.op p
  | event c => c.op p
  | semaphore c => c.op p
  | snapshot => .state <$> Record.snapshot p
  | tryWait requester => .acquisition <$> Record.tryWait p requester
  | retire => .kind <$> Record.retire p

/-- What a call does while the guard is held, unless it refuses its arguments. -/
def body : Call → Except SyncError (Body (Except SyncError Answer))
  | setUp b => b.firstState.map fun state =>
      Except.map (fun _ => .done) <$> Record.setUpBody state
  | mutex c => .ok (Record.expecting .mutex c.body)
  | event c => .ok (Record.expecting .event c.body)
  | semaphore c => .ok (Record.expecting .semaphore c.body)
  | snapshot => .ok ((fun o => .ok (.state o)) <$> Record.snapshotBody)
  | tryWait requester => .ok (Except.map .acquisition <$> Record.waitBody requester)
  | retire => .ok (Except.map .kind <$> Record.retireBody)

end Call

end Interprocess
