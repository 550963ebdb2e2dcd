import Interprocess.CommandLine.Command
import Interprocess.Table.Objects
import Interprocess.Table.Sweep
import Interprocess.Text.FixedPlaces
import Interprocess.Text.Numeral

/-!
# Running commands

What each command does to the files of the host and what it prints. A command that fails has printed
what it printed before, and ends with a description of the error.
-/

namespace Interprocess

/-! ## The console -/

/-- The host and the lines printed so far, the last one first. -/
structure Console where
  host : Host
  printed : List String

namespace Console

def print (line : String) : Op Console Unit :=
  Op.update fun c => { c with printed := line :: c.printed }

def onHost {α : Type} (op : Op Host α) : Op Console α :=
  op.within Console.host fun host c => { c with host := host }

def onTable {α : Type} (t : Table) (op : Op Words α) : Op Console α :=
  onHost (Host.inFile t.region.file op)

def output (c : Console) : String :=
  c.printed.reverse.foldl (fun text line => text ++ line ++ "\n") ""

end Console

namespace Command

/-! ## Reading values -/

/-- The number that a value of an option spells. -/
def number (name value : String) : Op Console UInt32 :=
  match readWord value with
  | some n => pure n
  | none => Op.fail (.invalidParameter name ("Invalid value '" ++ value ++ "'"))

/-- The thread that a value names: a decimal number, or a hexadecimal one behind the mark `0x`. -/
def thread (value : String) : Op Console ThreadId :=
  let number := match value.toList with
    | '0' :: 'x' :: digits => readHexWord (String.ofList digits)
    | _ => readWord value
  match number with
  | some n => pure ⟨n⟩
  | none => Op.fail (.invalidParameter "ptid" ("Invalid ptid '" ++ value ++ "'"))

/-- The last name on a path, if the path ends in a name. -/
def lastName (path : String) : Option String :=
  match ((path.splitOn "/").filter fun part => part != "" && part != ".").getLast? with
  | some ".." => none
  | last => last

/-- A file name without its last extension. A leading dot begins no extension. -/
def stem (name : String) : String :=
  let parts := name.splitOn "."
  match parts.dropLast with
  | [] => name
  | [""] => name
  | parts => String.intercalate "." parts

/-- The name of the region behind a file. -/
def regionName (path : String) : String :=
  match lastName path with
  | some name => stem name
  | none => "objects"

/-! ## Tables -/

def openTable (p : GuardPolicy) (file : String) : Op Console Table :=
  Console.onHost do
    let region ← Region.map (RegionSettings.existing (regionName file) file)
    Host.inFile region.file (Table.attach region p)

def runInit (p : GuardPolicy) (file capacity : String) : Op Console Unit := do
  let capacity ← number "capacity" capacity
  let settings : TableSettings := ⟨capacity, p⟩
  let table ← Console.onHost do
    let region ← Region.map
      { RegionSettings.ofSize (regionName file) settings.regionSize with path := some file }
    Host.inFile region.file (Table.create region settings)
  Console.print ("Created object table '" ++ file ++ "' with " ++ toString table.capacity ++
    " slots (" ++ toString table.region.size ++ " bytes)")

def statsLine (s : Occupancy) : String :=
  toString s.allocated.toNat ++ " of " ++ toString s.capacity.toNat ++ " slots allocated (" ++
    fixedPlaces 1 (s.utilization * 100.0) ++ "%): " ++ toString s.mutexes.toNat ++ " mutexes, " ++
    toString s.events.toNat ++ " events, " ++ toString s.semaphores.toNat ++ " semaphores, " ++
    toString s.uninitialized.toNat ++ " uninitialized"

/-- The line of one slot: its name in six columns, its guard word and its state. -/
def slotLine (slot guard : UInt32) (state : ObjectState) : String :=
  let name := slotText slot
  "  " ++ String.ofList (List.replicate (6 - name.length) ' ') ++ name ++ "  guard=" ++
    paddedHex 8 guard.toNat ++ "  " ++ state.text

def printSlots (t : Table) : List (UInt32 × ObjectState) → Op Console Unit
  | [] => pure ()
  | (slot, state) :: rest => do
    let guard ← Console.onTable t (t.withObject slot fun _ => Op.read Record.guard)
    Console.print (slotLine slot guard state)
    printSlots t rest

def runDump (p : GuardPolicy) (file : String) : Op Console Unit := do
  let t ← openTable p file
  Console.print (statsLine (← Console.onTable t t.stats))
  printSlots t (← Console.onTable t t.dump)

/-! ## Objects -/

def makeObject (t : Table) : NewObject → Op Console UInt32
  | .mutex none => Console.onTable t (t.createMutex none)
  | .mutex (some owner) => do
    let owner ← thread owner
    Console.onTable t (t.createMutex (some owner))
  | .event manualReset signaled => Console.onTable t (t.createEvent manualReset signaled)
  | .semaphore initial maximum => do
    let initial ← number "initial" initial
    let maximum ← number "maximum" maximum
    Console.onTable t (t.createSemaphore initial maximum)

def runCreate (p : GuardPolicy) (file : String) (object : NewObject) : Op Console Unit := do
  let t ← openTable p file
  let slot ← makeObject t object
  let state ← Console.onTable t (t.snapshot slot)
  Console.print ("Created " ++ state.text ++ " in slot " ++ slotText slot)

/-- The line that tells how an attempt to take an object ended. -/
def acquisitionLine (slot : UInt32) : Acquisition → String
  | .acquired => "Acquired " ++ slotText slot
  | .recursive depth =>
    "Re-acquired " ++ slotText slot ++ " (depth " ++ toString depth.toNat ++ ")"
  | .abandoned => "Acquired " ++ slotText slot ++ " (previous owner abandoned it)"
  | .notAvailable => slotText slot ++ " is not available"

def runAcquire (p : GuardPolicy) (file slot requester : String) : Op Console Unit := do
  let t ← openTable p file
  let slot ← number "slot" slot
  let requester ← thread requester
  let acquisition ← Console.onTable t (t.tryWait slot requester)
  Console.print (acquisitionLine slot acquisition)

def runSetEvent (p : GuardPolicy) (file slot : String) (signaled : Bool) : Op Console Unit := do
  let t ← openTable p file
  let slot ← number "slot" slot
  let previous ← Console.onTable t
    (t.withKind .event slot fun p => if signaled then Event.signal p else Event.reset p)
  Console.print ((if signaled then "Signaled" else "Reset") ++ " event " ++ slotText slot ++
    " (was " ++ (if previous then "signaled" else "not signaled") ++ ")")

def runReleaseMutex (p : GuardPolicy) (file slot requester : String) : Op Console Unit := do
  let t ← openTable p file
  let slot ← number "slot" slot
  let requester ← thread requester
  let previous ← Console.onTable t (t.withKind .mutex slot fun p => Mutex.release p requester)
  Console.print ("Released mutex " ++ slotText slot ++ " (depth was " ++
    toString previous.toNat ++ ")")

/-- Gives units back to the semaphore in a slot. The slot is looked at before the number of units is
read. -/
def runReleaseSemaphore (p : GuardPolicy) (file slot units : String) : Op Console Unit := do
  let t ← openTable p file
  let slot ← number "slot" slot
  Console.onTable t (t.withObject slot fun _ => Record.requireKind .semaphore)
  let units ← number "count" units
  let previous ← Console.onTable t (t.onRecord slot (Semaphore.release t.policy units))
  Console.print ("Released semaphore " ++ slotText slot ++ " (count was " ++
    toString previous.toNat ++ ")")

def runAbandon (p : GuardPolicy) (file owner : String) : Op Console Unit := do
  let t ← openTable p file
  let owner ← thread owner
  let count ← Console.onTable t (t.abandonMutexes owner)
  Console.print ("Marked " ++ toString count ++ " mutexes held by " ++ owner.text ++ " abandoned")

def runFree (p : GuardPolicy) (file slot : String) : Op Console Unit := do
  let t ← openTable p file
  let slot ← number "slot" slot
  Console.onTable t (t.free slot)
  Console.print ("Freed slot " ++ slotText slot)

/-! ## Versions -/

def version : String := "0.1.0"

def runInfo : Op Console Unit := do
  Console.print ("shmsync " ++ version)
  Console.print ("  record size:    " ++ toString Record.size ++ " bytes")
  Console.print ("  table magic:    " ++ paddedHex 16 tableMagic.toNat)
  Console.print ("  table version:  " ++ toString tableVersion.toNat)
  Console.print ("  default slots:  " ++ toString TableSettings.defaultCapacity.toNat)
  Console.print ("  guard timeout:  " ++ GuardPolicy.defaultTimeout.text)

/-! ## Commands -/

def run (p : GuardPolicy) : Command → Op Console Unit
  | init file capacity => runInit p file capacity
  | dump file => runDump p file
  | create file object => runCreate p file object
  | acquire file slot requester => runAcquire p file slot requester
  | setEvent file slot signaled => runSetEvent p file slot signaled
  | releaseMutex file slot requester => runReleaseMutex p file slot requester
  | releaseSemaphore file slot units => runReleaseSemaphore p file slot units
  | abandon file owner => runAbandon p file owner
  | free file slot => runFree p file slot
  | info => runInfo

/-- How a command line ended. -/
inductive Report where
  /-- It ran: the exit code, and what was written to the output and to the error output. -/
  | ran (code : UInt32) (out err : String)
  | stopped (why : Stop)
  /-- It waits without a limit. -/
  | hangs
  deriving DecidableEq, Repr

def runArguments (p : GuardPolicy) (arguments : List String) (host : Host) : Report × Host :=
  let op := match ofArguments arguments with
    | .error why => Except.error why
    | .ok (some command) => .ok (command.run p)
    | .ok none => .ok (Console.print "Use --help for usage information")
  match op with
  | .error why => (.stopped why, host)
  | .ok op =>
    let ended := op.run ⟨host, []⟩
    let out := ended.state.output
    let report := match ended.outcome with
      | .value () => Report.ran 0 out ""
      | .failed e => .ran 1 out ("Error: " ++ e.description ++ "\n")
      | .blocked => .hangs
    (report, ended.state.host)

end Command

end Interprocess
