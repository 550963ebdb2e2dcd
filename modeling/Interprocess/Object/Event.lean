import Interprocess.Object.Record

/-!
# Events

An event is signaled or not. One with manual reset stays signaled until it is reset; with automatic
reset, the first poll that sees a signal consumes it.
-/

namespace Interprocess

namespace Event

/-! ## Bodies -/

def stateBody : Body EventState := do
  let manualReset ← Body.read .first
  let signaled ← Body.read .second
  return ⟨manualReset, signaled⟩

/-- Whether the event is signaled; a signal that resets by itself is consumed. -/
def pollBody : Body Bool := do
  if (← Body.read .second) = 0 then return false
  else
    if (← Body.read .first) = 0 then Body.write .second 0
    return true

/-- Stores a signal or clears it, and says whether the event was signaled. -/
def putBody (signaled : UInt32) : Body Bool := do
  let previous ← Body.read .second
  Body.write .second signaled
  return previous != 0

/-! ## Operations -/

def firstState (manualReset signaled : Bool) : EventState :=
  ⟨flagWord manualReset, flagWord signaled⟩

def create (p : GuardPolicy) (manualReset signaled : Bool) : Op Record Unit := do
  Record.setUp p (.event (firstState manualReset signaled))
  Op.note (.eventCreated manualReset)

def signal (p : GuardPolicy) : Op Record Bool :=
  Record.guarded p (Record.expecting .event (return .ok (← putBody 1)))

def reset (p : GuardPolicy) : Op Record Bool :=
  Record.guarded p (Record.expecting .event (return .ok (← putBody 0)))

def poll (p : GuardPolicy) : Op Record Bool :=
  Record.guarded p (Record.expecting .event (return .ok (← pollBody)))

def state (p : GuardPolicy) : Op Record EventState :=
  Record.guarded p (Record.expecting .event (return .ok (← stateBody)))

end Event

end Interprocess
