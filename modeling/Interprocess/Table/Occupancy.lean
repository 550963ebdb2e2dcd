import Interprocess.Object.Kind
import Interprocess.Text.Json

/-!
# Occupancy of a table

How many slots a table has, how many are handed out, and what they hold.
-/

namespace Interprocess

/-- How many slots a table has, how many are handed out, and what they hold. -/
structure Occupancy where
  capacity : UInt32
  allocated : UInt32
  mutexes : UInt32
  events : UInt32
  semaphores : UInt32
  /-- Handed out and of no kind yet. -/
  uninitialized : UInt32
  deriving DecidableEq, Repr, Inhabited

namespace Occupancy

def empty (capacity : UInt32) : Occupancy := ⟨capacity, 0, 0, 0, 0, 0⟩

/-- Counts one more slot that holds an object of the kind. -/
def record (s : Occupancy) (kind : Kind) : Occupancy :=
  let s := { s with allocated := s.allocated + 1 }
  match kind with
  | .mutex => { s with mutexes := s.mutexes + 1 }
  | .event => { s with events := s.events + 1 }
  | .semaphore => { s with semaphores := s.semaphores + 1 }
  | .unknown => { s with uninitialized := s.uninitialized + 1 }

/-- The number of slots that are free, and zero if more are counted than there are. -/
def available (s : Occupancy) : UInt32 :=
  UInt32.ofNat (s.capacity.toNat - s.allocated.toNat)

/-- The part of the slots that is handed out, and zero for a table without slots. -/
def utilization (s : Occupancy) : Float :=
  if s.capacity = 0 then 0.0 else Float.ofNat s.allocated.toNat / Float.ofNat s.capacity.toNat

def ofJson? (json : Json) : Option Occupancy := do
  let fields ←
    json.fields ["capacity", "allocated", "mutexes", "events", "semaphores", "uninitialized"]
  match fields.map fun field => field >>= Json.word? with
  | [capacity, allocated, mutexes, events, semaphores, uninitialized] =>
    some ⟨← capacity, ← allocated, ← mutexes, ← events, ← semaphores, ← uninitialized⟩
  | _ => none

end Occupancy

end Interprocess
