import Interprocess.Object.Kind
import Interprocess.Object.ThreadId

/-!
# Object states

The decoded content of a record. The fields keep the words as they are stored, since another
process may have left any word there; what a word means is asked through the predicates.
-/

namespace Interprocess

/-- A mutex: who holds it, how deep, and whether its last holder died. -/
structure MutexState where
  owner : ThreadId
  count : UInt32
  abandoned : UInt32
  deriving DecidableEq, Repr, Inhabited

/-- An event: how it is reset, and whether it is signaled. -/
structure EventState where
  manualReset : UInt32
  signaled : UInt32
  deriving DecidableEq, Repr, Inhabited

/-- A semaphore: the units it has, and the most it may have. -/
structure SemaphoreState where
  count : UInt32
  maximum : UInt32
  deriving DecidableEq, Repr, Inhabited

def MutexState.isHeld (m : MutexState) : Bool := m.count != 0

def MutexState.isAbandoned (m : MutexState) : Bool := m.abandoned != 0

def MutexState.free : MutexState := ⟨ThreadId.none, 0, 0⟩

def MutexState.heldBy (owner : ThreadId) : MutexState := ⟨owner, 1, 0⟩

def EventState.isManualReset (e : EventState) : Bool := e.manualReset != 0

def EventState.isSignaled (e : EventState) : Bool := e.signaled != 0

/-- The word that stores a truth value. -/
def flagWord (b : Bool) : UInt32 := if b then 1 else 0

/-- The content of a record. -/
inductive ObjectState where
  | unknown
  | mutex (m : MutexState)
  | event (e : EventState)
  | semaphore (s : SemaphoreState)
  deriving DecidableEq, Repr, Inhabited

namespace ObjectState

def kind : ObjectState → Kind
  | unknown => .unknown
  | mutex _ => .mutex
  | event _ => .event
  | semaphore _ => .semaphore

def text : ObjectState → String
  | unknown => "unknown"
  | mutex m =>
    "mutex owner=" ++ m.owner.text ++ " count=" ++ toString m.count.toNat ++
      (if m.isAbandoned then " abandoned" else "")
  | event e =>
    "event " ++ (if e.isManualReset then "manual" else "auto") ++ " signaled=" ++
      (if e.isSignaled then "true" else "false")
  | semaphore s =>
    "semaphore count=" ++ toString s.count.toNat ++ "/" ++ toString s.maximum.toNat

def description : ObjectState → String
  | unknown => "Unknown"
  | mutex m =>
    "Mutex(MutexState \x7b owner: " ++ m.owner.description ++ ", count: " ++
      toString m.count.toNat ++ ", abandoned: " ++ toString m.abandoned.toNat ++ " \x7d)"
  | event e =>
    "Event(EventState \x7b manual_reset: " ++ toString e.manualReset.toNat ++ ", signaled: " ++
      toString e.signaled.toNat ++ " \x7d)"
  | semaphore s =>
    "Semaphore(SemaphoreState \x7b count: " ++ toString s.count.toNat ++ ", maximum: " ++
      toString s.maximum.toNat ++ " \x7d)"

end ObjectState

/-- What became of an attempt to take an object without waiting. -/
inductive Acquisition where
  /-- Taken afresh: the mutex was free, the event signaled, the units there. -/
  | acquired
  /-- The mutex was taken again by its holder, now this deep. -/
  | recursive (depth : UInt32)
  /-- The mutex was taken after its last holder died holding it. -/
  | abandoned
  /-- The object cannot be taken now. -/
  | notAvailable
  deriving DecidableEq, Repr, Inhabited

def Acquisition.isAcquired : Acquisition → Bool
  | notAvailable => false
  | _ => true

end Interprocess
