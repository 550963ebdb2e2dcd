import Interprocess.Object.Wait
import Interprocess.Table.Allocation

/-!
# Objects in slots

Making objects in free slots, using the object in a slot as one of its kind, and reading what the
slots hold.
-/

namespace Interprocess

variable {α : Type}

namespace Accesses

variable (t : Table)

/-- Hands out a slot and sets up its record. If that fails the slot is taken back. -/
def createWith (setUp : GuardPolicy → Op Record Unit) : Accesses UInt32 := do
  let slot ← alloc t
  match ← (onRecord t.layout slot (setUp t.policy)).attempt with
  | .ok () => return slot
  | .error e => do
    free t slot
    fail e

def withObject (slot : UInt32) (op : GuardPolicy → Op Record α) : Accesses α := do
  require t slot
  onRecord t.layout slot (op t.policy)

def withKind (kind : Kind) (slot : UInt32) (op : GuardPolicy → Op Record α) : Accesses α := do
  withObject t slot fun _ => Record.requireKind kind
  onRecord t.layout slot (op t.policy)

def snapshots : List UInt32 → Accesses (List (UInt32 × ObjectState))
  | [] => return []
  | slot :: rest => do
    let state ← onRecord t.layout slot (Record.snapshot t.policy)
    return (slot, state) :: (← snapshots rest)

def dump : Accesses (List (UInt32 × ObjectState)) := do
  snapshots t (← allocatedSlots t)

end Accesses

namespace Table

/-! ## Making objects -/

def createWith (t : Table) (setUp : GuardPolicy → Op Record Unit) : Op Words UInt32 :=
  (Accesses.createWith t setUp).perform

def createMutex (t : Table) (owner : Option ThreadId) : Op Words UInt32 :=
  t.createWith fun p => Mutex.create p owner

def createEvent (t : Table) (manualReset signaled : Bool) : Op Words UInt32 :=
  t.createWith fun p => Event.create p manualReset signaled

def createSemaphore (t : Table) (initial maximum : UInt32) : Op Words UInt32 :=
  t.createWith fun p => Semaphore.create p initial maximum

/-! ## Using objects -/

/-- An operation on the object in a slot that is handed out. -/
def withObject (t : Table) (slot : UInt32) (op : GuardPolicy → Op Record α) : Op Words α :=
  (Accesses.withObject t slot op).perform

def withKind (t : Table) (kind : Kind) (slot : UInt32) (op : GuardPolicy → Op Record α) :
    Op Words α :=
  (Accesses.withKind t kind slot op).perform

/-- Takes the object in a slot for `requester`, if it can be taken now. -/
def tryWait (t : Table) (slot : UInt32) (requester : ThreadId) : Op Words Acquisition :=
  t.withObject slot fun p => Record.tryWait p requester

def snapshot (t : Table) (slot : UInt32) : Op Words ObjectState :=
  t.withObject slot Record.snapshot

/-! ## Reading all objects -/

def snapshots (t : Table) (slots : List UInt32) : Op Words (List (UInt32 × ObjectState)) :=
  (Accesses.snapshots t slots).perform

/-- The slots that are handed out, each with the state of its object. -/
def dump (t : Table) : Op Words (List (UInt32 × ObjectState)) := (Accesses.dump t).perform

end Table

end Interprocess
