import Interprocess.CommandLine.Grammar
import Interprocess.Object.Mutex
import Interprocess.Table.Basic

/-!
# Commands

What the command line can ask for: to make a table in a file, to list it, to make and free objects
in it, and to act on them. The values stay texts until the command needs them, so that a table that
cannot be opened is reported before a number that cannot be read.
-/

namespace Interprocess

/-- The first state of an object that a command makes, as the command line gives it. -/
inductive NewObject where
  | mutex (owner : Option String)
  | event (manualReset signaled : Bool)
  | semaphore (initial maximum : String)
  deriving DecidableEq, Repr

/-- A command with the values of its options. -/
inductive Command where
  | init (file capacity : String)
  | dump (file : String)
  | create (file : String) (object : NewObject)
  | acquire (file slot requester : String)
  | setEvent (file slot : String) (signaled : Bool)
  | releaseMutex (file slot requester : String)
  | releaseSemaphore (file slot units : String)
  | abandon (file owner : String)
  | free (file slot : String)
  | info
  deriving DecidableEq, Repr

namespace Command

def file? : Command → Option String
  | init file _ | dump file | create file _ | acquire file _ _ | setEvent file _ _
  | releaseMutex file _ _ | releaseSemaphore file _ _ | abandon file _ | free file _ => some file
  | info => none

/-! ## The grammar of the commands -/

def fileOption : OptionSpec := .needed "file" (some 'f')

def slotOption : OptionSpec := .needed "slot" (some 's')

def anyThreadOption : OptionSpec := .optional "ptid" (some 'p')

def threadOption : OptionSpec := .needed "ptid" (some 'p')

def specs : List CommandSpec := [
  ⟨"init", [fileOption,
    .defaulting "capacity" (some 'c') (toString TableSettings.defaultCapacity.toNat)]⟩,
  ⟨"dump", [fileOption]⟩,
  ⟨"create", [fileOption, .choice "kind" (some 'k') ["mutex", "event", "semaphore"],
    anyThreadOption, .flag "manual", .flag "signaled", .defaulting "initial" none "0",
    .defaulting "maximum" none "1"]⟩,
  ⟨"acquire", [fileOption, slotOption, threadOption]⟩,
  ⟨"signal", [fileOption, slotOption]⟩,
  ⟨"reset", [fileOption, slotOption]⟩,
  ⟨"release", [fileOption, slotOption, anyThreadOption, .defaulting "count" (some 'c') "1"]⟩,
  ⟨"abandon", [fileOption, threadOption]⟩,
  ⟨"free", [fileOption, slotOption]⟩,
  ⟨"info", []⟩]

/-! ## Reading commands -/

def newObject (g : Given) : NewObject :=
  if g.value "kind" = "mutex" then .mutex (g.value? "ptid")
  else if g.value "kind" = "event" then .event (g.has "manual") (g.has "signaled")
  else .semaphore (g.value "initial") (g.value "maximum")

/-- The command of a name with the values of its options. -/
def ofGiven? (name : String) (g : Given) : Option Command :=
  let file := g.value "file"
  let slot := g.value "slot"
  match name with
  | "init" => some (init file (g.value "capacity"))
  | "dump" => some (dump file)
  | "create" => some (create file (newObject g))
  | "acquire" => some (acquire file slot (g.value "ptid"))
  | "signal" => some (setEvent file slot true)
  | "reset" => some (setEvent file slot false)
  | "release" =>
    match g.value? "ptid" with
    | some requester => some (releaseMutex file slot requester)
    | none => some (releaseSemaphore file slot (g.value "count"))
  | "abandon" => some (abandon file (g.value "ptid"))
  | "free" => some (free file slot)
  | "info" => some info
  | _ => none

def ofArguments (arguments : List String) : Except Stop (Option Command) := do
  match ← readCommandLine specs arguments with
  | some (name, given) => return ofGiven? name given
  | none => return none

end Command

end Interprocess
