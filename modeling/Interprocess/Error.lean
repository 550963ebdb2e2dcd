import Interprocess.Host.Errno
import Interprocess.Object.Kind
import Interprocess.Object.ThreadId
import Interprocess.Text.Duration
import Interprocess.Text.Quoted

/-!
# Errors

What can go wrong with synchronization objects and the memory behind them: the causes, the message
of each, the description of each as a value, and which of them may go away by themselves.
-/

namespace Interprocess

/-! ## Faults of the host -/

/-- What the host reports when a file cannot be opened, sized or mapped. -/
inductive HostFault where
  /-- The operating system refused with an error number. -/
  | os (errno : Errno)
  | embeddedNul
  /-- A length does not fit the type that the operating system takes. -/
  | lengthOutOfRange
  deriving DecidableEq, Repr, Inhabited

namespace HostFault

def text : HostFault → String
  | os e => e.message ++ " (os error " ++ toString e.code ++ ")"
  | embeddedNul => "file name contained an unexpected NUL byte"
  | lengthOutOfRange => "number too large to fit in target type"

def description : HostFault → String
  | os e =>
    "Os \x7b code: " ++ toString e.code ++ ", kind: " ++ e.fault ++ ", message: " ++
      quoted e.message ++ " \x7d"
  | embeddedNul =>
    "Error \x7b kind: InvalidInput, message: " ++ quoted embeddedNul.text ++ " \x7d"
  | lengthOutOfRange => "Custom \x7b kind: InvalidInput, error: TryFromIntError(PosOverflow) \x7d"

end HostFault

/-! ## Errors of operations -/

/-- Why an operation failed. -/
inductive SyncError where
  | notOwner (owner requester : ThreadId)
  /-- More units than a semaphore may have, or a deeper recursion than a mutex may have. -/
  | overflow (object : Kind) (limit : UInt32)
  /-- An object was created in a record that already has a tag. -/
  | alreadyInitialized (found : Kind)
  /-- An operation of one kind met another; with no kind expected, any but unknown would do. -/
  | typeMismatch (expected : Option Kind) (found : Kind)
  /-- A live holder kept the guard of a record for too long. -/
  | guardTimeout (holder : UInt32) (waited : Duration)
  | invalidParameter (parameter message : String)
  /-- The slot is past the end of the table or not handed out. -/
  | invalidSlot (slot : UInt32)
  | tableFull (capacity : UInt32)
  /-- A sweep for abandoned mutexes could not take the guards of these slots. -/
  | sweepIncomplete (abandoned : Nat) (stuck : List UInt32)
  | invalidLayout (message : String)
  /-- A file could not be opened, sized or mapped. -/
  | io (message : String) (source : Option HostFault)
  | platform (message : String)
  deriving DecidableEq, Repr, Inhabited

namespace SyncError

/-! ## Building errors -/

/-- An operation that works on every kind met an object of unknown kind. -/
def untyped : SyncError := typeMismatch none .unknown

/-- A fault of the host met while doing what `context` says. -/
def ofFault (fault : HostFault) (context : String) : SyncError :=
  io (context ++ ": " ++ fault.text) (some fault)

/-- A fault of the host met without a word on what was being done. -/
def ofBareFault (fault : HostFault) : SyncError :=
  ofFault fault "I/O operation failed"

/-- An error number that a call of the operating system returned. -/
def ofErrno (e : Errno) : SyncError :=
  platform ("System call failed: " ++ e.named)

/-! ## Texts -/

def name : SyncError → String
  | notOwner .. => "NotOwner"
  | overflow .. => "Overflow"
  | alreadyInitialized .. => "AlreadyInitialized"
  | typeMismatch .. => "TypeMismatch"
  | guardTimeout .. => "GuardTimeout"
  | invalidParameter .. => "InvalidParameter"
  | invalidSlot .. => "InvalidSlot"
  | tableFull .. => "TableFull"
  | sweepIncomplete .. => "SweepIncomplete"
  | invalidLayout .. => "InvalidLayout"
  | io .. => "Io"
  | platform .. => "Platform"

def expectedName : Option Kind → String
  | some kind => kind.name
  | none => "an initialized object"

def wordList (words : List UInt32) : String :=
  "[" ++ String.intercalate ", " (words.map fun w => toString w.toNat) ++ "]"

def message : SyncError → String
  | notOwner owner requester =>
    "Not owner: mutex held by " ++ owner.text ++ ", release requested by " ++ requester.text
  | overflow object limit => "Overflow on " ++ object.name ++ ": limit " ++ toString limit.toNat
  | alreadyInitialized found => "Object already initialized as " ++ found.name
  | typeMismatch expected found =>
    "Type mismatch: expected " ++ expectedName expected ++ ", found " ++ found.name
  | guardTimeout holder waited =>
    "Guard timeout: held by " ++ toString holder.toNat ++ " for at least " ++ waited.text
  | invalidParameter parameter message => "Invalid parameter: " ++ parameter ++ " - " ++ message
  | invalidSlot slot => "Invalid slot: " ++ toString slot.toNat
  | tableFull capacity => "Object table full: capacity " ++ toString capacity.toNat
  | sweepIncomplete abandoned stuck =>
    "Sweep incomplete: " ++ toString abandoned ++
      " mutexes abandoned, guards timed out on slots " ++ wordList stuck
  | invalidLayout message => "Invalid layout: " ++ message
  | io message _ => "I/O error: " ++ message
  | platform message => "Platform error: " ++ message

def fields : SyncError → List (String × String)
  | notOwner owner requester =>
    [("owner", owner.description), ("requester", requester.description)]
  | overflow object limit => [("object", object.label), ("limit", toString limit.toNat)]
  | alreadyInitialized found => [("found", found.label)]
  | typeMismatch expected found =>
    [("expected", match expected with
      | some kind => "Some(" ++ kind.label ++ ")"
      | none => "None"), ("found", found.label)]
  | guardTimeout holder waited =>
    [("holder", toString holder.toNat), ("waited", waited.text)]
  | invalidParameter parameter message =>
    [("parameter", quoted parameter), ("message", quoted message)]
  | invalidSlot slot => [("slot", toString slot.toNat)]
  | tableFull capacity => [("capacity", toString capacity.toNat)]
  | sweepIncomplete abandoned stuck =>
    [("abandoned", toString abandoned), ("stuck", wordList stuck)]
  | invalidLayout message => [("message", quoted message)]
  | io message source =>
    [("message", quoted message), ("source", match source with
      | some fault => "Some(" ++ fault.description ++ ")"
      | none => "None")]
  | platform message => [("message", quoted message)]

def description (e : SyncError) : String :=
  e.name ++ " \x7b " ++
    String.intercalate ", " (e.fields.map fun (field, value) => field ++ ": " ++ value) ++ " \x7d"

/-! ## Classes of errors -/

/-- Whether the same call may succeed later without anything else being done. -/
def isTransient : SyncError → Bool
  | guardTimeout .. | sweepIncomplete .. => true
  | _ => false

def source : SyncError → Option HostFault
  | io _ source => source
  | _ => none

end SyncError

end Interprocess
