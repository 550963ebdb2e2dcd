import Interprocess.Object.Record

/-!
# Semaphores

A semaphore has a number of units, up to a maximum. Units are taken if so many are there, and given
back if there is room for them.
-/

namespace Interprocess

namespace Semaphore

def noUnitsError : SyncError :=
  .invalidParameter "units" "Unit count must be greater than 0"

/-! ## Bodies -/

def stateBody : Body SemaphoreState := do
  let count ← Body.read .first
  let maximum ← Body.read .second
  return ⟨count, maximum⟩

def acquireBody (units : UInt32) : Body (Except SyncError Acquisition) := do
  if units = 0 then return .error noUnitsError
  else
    let count ← Body.read .first
    if count < units then return .ok .notAvailable
    else
      Body.write .first (count - units)
      return .ok .acquired

/-- The sum of two words, unless it does not fit a word. -/
def checkedSum (a b : UInt32) : Option UInt32 :=
  if a.toNat + b.toNat < UInt32.size then some (a + b) else none

/-- Gives back `units` if there is room for them, and answers with the count before. -/
def releaseBody (units : UInt32) : Body (Except SyncError UInt32) := do
  if units = 0 then return .error noUnitsError
  else
    let count ← Body.read .first
    let maximum ← Body.read .second
    match checkedSum count units with
    | some sum =>
      if sum ≤ maximum then
        Body.write .first sum
        return .ok count
      else return .error (.overflow .semaphore maximum)
    | none => return .error (.overflow .semaphore maximum)

/-! ## Operations -/

def firstState (initial maximum : UInt32) : Except SyncError SemaphoreState :=
  if maximum = 0 then
    .error (.invalidParameter "maximum" "Semaphore maximum must be greater than 0")
  else if maximum < initial then
    .error (.invalidParameter "initial"
      ("Initial count " ++ toString initial.toNat ++ " exceeds maximum " ++
        toString maximum.toNat))
  else .ok ⟨initial, maximum⟩

def create (p : GuardPolicy) (initial maximum : UInt32) : Op Record Unit := do
  let state ← Op.ofExcept (firstState initial maximum)
  Record.setUp p (.semaphore state)
  Op.note (.semaphoreCreated initial maximum)

def tryAcquire (p : GuardPolicy) (units : UInt32) : Op Record Acquisition :=
  Record.guarded p (Record.expecting .semaphore (acquireBody units))

def release (p : GuardPolicy) (units : UInt32) : Op Record UInt32 :=
  Record.guarded p (Record.expecting .semaphore (releaseBody units))

def state (p : GuardPolicy) : Op Record SemaphoreState :=
  Record.guarded p (Record.expecting .semaphore (return .ok (← stateBody)))

end Semaphore

end Interprocess
