import Interprocess.Object.Mutex
import Interprocess.Table.Basic

/-!
# Sweeping for abandoned mutexes

When a thread is gone, a sweep frees every mutex that it held and marks it abandoned. The sweep
reads the bitmap first and then visits the slots one after another; a slot whose guard it cannot
take does not stop it.
-/

namespace Interprocess

namespace Table

/-! ## Steps -/

/-- What a sweep has done: how many mutexes it abandoned, and which slots it could not visit. -/
structure SweepTally where
  abandoned : Nat
  stuck : List UInt32
  deriving DecidableEq, Repr, Inhabited

/-- Where a sweep stands. -/
inductive SweepPhase where
  /-- About to read a word of the bitmap, with the slots of the words before. -/
  | collect (index : Nat) (slots : List UInt32)
  /-- About to look at the kind of the first of the slots, if there is one. -/
  | look (slots : List UInt32) (tally : SweepTally)
  /-- Saw a mutex in the slot: about to open it, which looks at the kind once more. -/
  | opening (slot : UInt32) (rest : List UInt32) (tally : SweepTally)
  /-- About to abandon the mutex in the slot if the owner holds it. -/
  | abandon (slot : UInt32) (rest : List UInt32) (tally : SweepTally)
  deriving DecidableEq, Repr

end Table

namespace Accesses

/-- How a sweep goes on after it has tried to abandon the mutex in a slot. A mutex that became
something else is passed over, a guard that cannot be taken is recorded, and any other error ends
the sweep. -/
def recordVisit (owner : ThreadId) (slot : UInt32) (tally : Table.SweepTally) :
    Except SyncError Bool → Accesses Table.SweepTally
  | .ok true => return { tally with abandoned := tally.abandoned + 1 }
  | .ok false => return tally
  | .error (.typeMismatch ..) => return tally
  | .error (.guardTimeout holder _) => do
    tell (.sweepSkipped owner slot holder)
    return { tally with stuck := tally.stuck ++ [slot] }
  | .error e => fail e

/-- How a sweep ends that has visited all slots. -/
def report (owner : ThreadId) (tally : Table.SweepTally) : Accesses Nat := do
  if 0 < tally.abandoned then tell (.sweepDone tally.abandoned owner)
  if tally.stuck.isEmpty then return tally.abandoned
  else fail (.sweepIncomplete tally.abandoned tally.stuck)

/-- One step of a sweep for the mutexes of `owner`. -/
def sweepStep (t : Table) (owner : ThreadId) :
    Table.SweepPhase → Accesses (Op.Progress Table.SweepPhase Nat)
  | .collect index slots => do
    if index < t.layout.bitmapWords then
      let word ← read (.word t.layout index)
      return .next (.collect (index + 1) (slots ++ t.slotsOfWord index word))
    else return .next (.look slots ⟨0, []⟩)
  | .look [] tally => do
    return .answer (← report owner tally)
  | .look (slot :: rest) tally => do
    if (← kindAt t slot) = .mutex then return .next (.opening slot rest tally)
    else return .next (.look rest tally)
  | .opening slot rest tally => do
    if (← kindAt t slot) = .mutex then return .next (.abandon slot rest tally)
    else return .next (.look rest tally)
  | .abandon slot rest tally => do
    let visit ← (onRecord t.layout slot (Mutex.abandonIfOwnedBy t.policy owner)).attempt
    return .next (.look rest (← recordVisit owner slot tally visit))

end Accesses

namespace Table

def sweepStep (t : Table) (owner : ThreadId) (phase : SweepPhase) :
    Op Words (Op.Progress SweepPhase Nat) :=
  (Accesses.sweepStep t owner phase).perform

/-! ## The sweep -/

/-- A bound on the steps of a sweep: one for each word of the bitmap, three for each slot that the
word may hand out, and two more. -/
def sweepBound (t : Table) : Nat := t.layout.bitmapWords * (1 + 3 * 64) + 2

end Table

def Accesses.abandonMutexes (t : Table) (owner : ThreadId) : Accesses Nat :=
  drive (sweepStep t owner) t.sweepBound (.collect 0 [])

/-- Abandons every mutex that `owner` holds, and answers with how many there were. -/
def Table.abandonMutexes (t : Table) (owner : ThreadId) : Op Words Nat :=
  (Accesses.abandonMutexes t owner).perform

end Interprocess
