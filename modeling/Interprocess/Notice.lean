import Interprocess.Object.State

/-!
# Notices

What operations report beside their answers: objects created and abandoned, slots handed out and
taken back, regions mapped, guards recovered. An address in a notice is written `PTR`.
-/

namespace Interprocess

/-- How much a notice matters. -/
inductive Severity where
  | warning
  | detail
  deriving DecidableEq, Repr

/-- Something that an operation reports. -/
inductive Notice where
  /-- The guard of a dead holder was taken over. -/
  | guardRecovered (holder : UInt32)
  /-- A record got its kind and first state. -/
  | initialized (state : ObjectState)
  | mutexCreated (owner : ThreadId)
  | eventCreated (manualReset : Bool)
  | semaphoreCreated (initial maximum : UInt32)
  /-- A mutex was taken from whoever held it. -/
  | mutexAbandoned (owner : ThreadId) (depth : UInt32)
  /-- A mutex was taken from a thread that is gone. -/
  | mutexAbandonedBy (owner : ThreadId)
  | regionMapped (name : String) (size : Nat) (backing : String)
  | tableCreated (region : String) (capacity : UInt32)
  | tableAttached (region : String) (capacity : UInt32)
  | slotAllocated (slot : UInt32) (region : String)
  | slotFreed (slot : UInt32) (kind : Kind) (region : String)
  /-- A sweep left out a slot whose guard it could not take. -/
  | sweepSkipped (owner : ThreadId) (slot holder : UInt32)
  | sweepDone (abandoned : Nat) (owner : ThreadId)
  deriving DecidableEq, Repr

def slotText (slot : UInt32) : String := "#" ++ toString slot.toNat

namespace Notice

def severity : Notice → Severity
  | guardRecovered .. | mutexAbandoned .. | mutexAbandonedBy .. | sweepSkipped .. => .warning
  | _ => .detail

def text : Notice → String
  | guardRecovered holder => "recovered guard PTR from dead holder " ++ toString holder.toNat
  | initialized state => "initialized PTR as " ++ state.text
  | mutexCreated owner => "created mutex PTR owner=" ++ owner.text
  | eventCreated manualReset =>
    "created " ++ (if manualReset then "manual-reset" else "auto-reset") ++ " event PTR"
  | semaphoreCreated initial maximum =>
    "created semaphore PTR " ++ toString initial.toNat ++ "/" ++ toString maximum.toNat
  | mutexAbandoned owner depth =>
    "mutex PTR abandoned by " ++ owner.text ++ " at depth " ++ toString depth.toNat
  | mutexAbandonedBy owner => "mutex PTR abandoned by exiting thread " ++ owner.text
  | regionMapped name size backing =>
    "mapped region " ++ name ++ " (" ++ toString size ++ " bytes, " ++ backing ++ ") at PTR"
  | tableCreated region capacity =>
    "created object table in " ++ region ++ " with " ++ toString capacity.toNat ++ " slots"
  | tableAttached region capacity =>
    "attached object table in " ++ region ++ " with " ++ toString capacity.toNat ++ " slots"
  | slotAllocated slot region => "allocated slot " ++ slotText slot ++ " in " ++ region
  | slotFreed slot kind region =>
    "freed slot " ++ slotText slot ++ " (" ++ kind.name ++ ") in " ++ region
  | sweepSkipped owner slot holder =>
    "sweep for " ++ owner.text ++ " skipped slot " ++ slotText slot ++ " held by " ++
      toString holder.toNat
  | sweepDone abandoned owner =>
    "abandoned " ++ toString abandoned ++ " mutexes held by " ++ owner.text

def line (n : Notice) : String :=
  (match n.severity with
    | .warning => "WARN "
    | .detail => "DEBUG ") ++ n.text

end Notice

end Interprocess
