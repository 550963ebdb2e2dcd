/-!
# Kinds of objects

What a record holds, and the tag word that says so in shared memory. A tag that no kind has reads
as unknown, so a record of zeros is an object of unknown kind.
-/

namespace Interprocess

/-- What a record holds. -/
inductive Kind where
  /-- Nothing yet, or nothing that is recognized. -/
  | unknown
  | mutex
  | event
  | semaphore
  deriving DecidableEq, Repr, Inhabited

namespace Kind

def tag : Kind → UInt32
  | unknown => 0
  | mutex => 1
  | event => 2
  | semaphore => 3

/-- The kind that a tag word stands for. -/
def ofTag (tag : UInt32) : Kind :=
  if tag = 1 then mutex
  else if tag = 2 then event
  else if tag = 3 then semaphore
  else unknown

/-- The name of a kind in messages. -/
def name : Kind → String
  | unknown => "unknown"
  | mutex => "mutex"
  | event => "event"
  | semaphore => "semaphore"

/-- The name of a kind in descriptions of values. -/
def label : Kind → String
  | unknown => "Unknown"
  | mutex => "Mutex"
  | event => "Event"
  | semaphore => "Semaphore"

@[simp]
theorem ofTag_tag (k : Kind) : ofTag k.tag = k := by
  cases k <;> rfl

end Kind

end Interprocess
