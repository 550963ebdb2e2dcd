import Interprocess.Object.Record

/-!
# Mutexes

A mutex is held by one thread, which may take it again, up to a greatest depth, and must release it
as often. A mutex whose holder died is abandoned: it is free, and whoever takes it next is told.
-/

namespace Interprocess

namespace Mutex

/-- How deep the holder of a mutex may take it. -/
def maxRecursion : UInt32 := 0x7fffffff

def sentinelError : SyncError :=
  .invalidParameter "requester" "Requester must not be the unheld sentinel"

/-! ## Bodies -/

def stateBody : Body MutexState := do
  let owner ← Body.read .first
  let count ← Body.read .second
  let abandoned ← Body.read .third
  return ⟨⟨owner⟩, count, abandoned⟩

def acquireBody (requester : ThreadId) : Body (Except SyncError Acquisition) := do
  if requester.isNone then return .error sentinelError
  else if (← Body.read .second) = 0 then
    Body.write .first requester.raw
    Body.write .second 1
    if (← Body.read .third) ≠ 0 then
      Body.write .third 0
      return .ok .abandoned
    else return .ok .acquired
  else if (← Body.read .first) = requester.raw then
    let depth ← Body.read .second
    if maxRecursion ≤ depth then return .error (.overflow .mutex maxRecursion)
    else
      Body.write .second (depth + 1)
      return .ok (.recursive (depth + 1))
  else return .ok .notAvailable

def releaseBody (requester : ThreadId) : Body (Except SyncError UInt32) := do
  let depth ← Body.read .second
  let owner ← Body.read .first
  if depth = 0 ∨ owner ≠ requester.raw then return .error (.notOwner ⟨owner⟩ requester)
  else
    Body.write .second (depth - 1)
    if depth - 1 = 0 then Body.write .first 0
    return .ok depth

def abandonBody : Body Unit := do
  Body.write .first 0
  Body.write .second 0
  Body.write .third 1

/-- Abandons the mutex, whoever holds it, and answers with the state before. -/
def markAbandonedBody : Body (Except SyncError MutexState) := do
  let previous ← stateBody
  abandonBody
  return .ok previous

def abandonIfOwnedBody (owner : ThreadId) : Body (Except SyncError Bool) := do
  if owner.isNone then return .ok false
  else if (← Body.read .second) = 0 then return .ok false
  else if (← Body.read .first) ≠ owner.raw then return .ok false
  else
    abandonBody
    return .ok true

/-! ## Operations -/

/-- The first state of a mutex that may be held from the start. -/
def firstState (owner : Option ThreadId) : Except SyncError MutexState :=
  match owner with
  | some owner => if owner.isNone then .error sentinelError else .ok (MutexState.heldBy owner)
  | none => .ok MutexState.free

def create (p : GuardPolicy) (owner : Option ThreadId) : Op Record Unit := do
  let state ← Op.ofExcept (firstState owner)
  Record.setUp p (.mutex state)
  Op.note (.mutexCreated state.owner)

/-- Takes the mutex for `requester` if it is free or theirs already. -/
def tryAcquire (p : GuardPolicy) (requester : ThreadId) : Op Record Acquisition :=
  Record.guarded p (Record.expecting .mutex (acquireBody requester))

/-- Gives back one level of `requester`'s hold, and answers with the depth before. -/
def release (p : GuardPolicy) (requester : ThreadId) : Op Record UInt32 :=
  Record.guarded p (Record.expecting .mutex (releaseBody requester))

def markAbandoned (p : GuardPolicy) : Op Record Unit := do
  let previous ← Record.guarded p (Record.expecting .mutex markAbandonedBody)
  Op.note (.mutexAbandoned previous.owner previous.count)

/-- Frees the mutex and marks it abandoned if `owner` holds it, and says whether it did. -/
def abandonIfOwnedBy (p : GuardPolicy) (owner : ThreadId) : Op Record Bool := do
  let abandoned ← Record.guarded p (Record.expecting .mutex (abandonIfOwnedBody owner))
  if abandoned then Op.note (.mutexAbandonedBy owner)
  return abandoned

def state (p : GuardPolicy) : Op Record MutexState :=
  Record.guarded p (Record.expecting .mutex (return .ok (← stateBody)))

end Mutex

end Interprocess
