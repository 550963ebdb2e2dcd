import Interprocess.Error
import Interprocess.Guard.Word

/-!
# Guard policies

How a contender waits for a guard word and when it gives up: how often it spins, how long it parks
at a time, how long it waits in all, by what number it is known, and how it finds out whether a
holder is still alive.
-/

namespace Interprocess

/-- How a contender finds out whether a holder may still release the guard itself. -/
structure Probe where
  description : String
  isAlive : UInt32 → Bool

namespace Probe

/-- Takes holders for process identifiers and looks for them among the running processes. No
process has the identifier zero or one past the largest signed 32-bit number. -/
def processes (running : List UInt32) : Probe where
  description := "ProcessProbe"
  isAlive holder := holder != 0 && holder ≤ Guard.holderMask && running.contains holder

/-- Takes the listed holders for dead and all others for alive. -/
def deadList (dead : List UInt32) : Probe where
  description := "DeadList(" ++ SyncError.wordList dead ++ ")"
  isAlive holder := !dead.contains holder

end Probe

/-- How a contender waits for a guard and when it gives up. -/
structure GuardPolicy where
  /-- How often a contender looks at the word before it parks. -/
  spinLimit : UInt32
  /-- The longest that a contender parks at a time. -/
  parkSlice : Duration
  /-- How long a contender waits in all; without a limit it waits as long as it takes. -/
  timeout : Option Duration
  /-- The number by which the holder is known. -/
  holderId : UInt32
  probe : Probe

namespace GuardPolicy

/-! ## Defaults -/

def defaultSpins : UInt32 := 100

def defaultParkSlice : Duration := Duration.ofMillis 1

def defaultTimeout : Duration := Duration.ofSeconds 5

def standard (holderId : UInt32) (probe : Probe) : GuardPolicy where
  spinLimit := defaultSpins
  parkSlice := defaultParkSlice
  timeout := some defaultTimeout
  holderId := holderId
  probe := probe

/-! ## Validation -/

/-- A holder number that a guard word cannot carry. -/
def holderIdError : SyncError :=
  .invalidParameter "holder_id" ("Holder id must be in 1..=" ++ toString Guard.holderMask.toNat)

def parkSliceError : SyncError :=
  .invalidParameter "park_slice" "Park slice must be greater than 0"

/-- Whether a guard word can carry the holder number: it is not zero and leaves the waiters bit
alone. -/
def canClaim (p : GuardPolicy) : Bool :=
  p.holderId != 0 && p.holderId &&& Guard.waiters == 0

/-- Refuses a holder number that a guard word cannot carry, and then a park of no length. -/
def validate (p : GuardPolicy) : Except SyncError Unit :=
  if !p.canClaim then .error holderIdError
  else if p.parkSlice.nanos = 0 then .error parkSliceError
  else .ok ()

def description (p : GuardPolicy) : String :=
  "GuardPolicy \x7b spin_limit: " ++ toString p.spinLimit.toNat ++ ", park_slice: " ++
    p.parkSlice.text ++ ", timeout: " ++
    (match p.timeout with
      | some limit => "Some(" ++ limit.text ++ ")"
      | none => "None") ++
    ", holder_id: " ++ toString p.holderId.toNat ++ ", probe: " ++ p.probe.description ++ " \x7d"

end GuardPolicy

end Interprocess
