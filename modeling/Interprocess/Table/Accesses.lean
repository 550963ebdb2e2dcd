import Interprocess.Table.Part

/-!
# Operations as accesses

An operation on a table as a tree: at each node it loads or stores one part of the region, or issues
notices, and how it goes on depends on what it has loaded. So the tree fixes what is checked before
what is accessed. To perform a tree is to do all that on a memory that nobody else changes.
-/

namespace Interprocess

/-- What an operation accesses one after another, and how it ends. -/
inductive Accesses (α : Type) where
  | done (o : Outcome α)
  | load (part : Part) (next : part.Content → Accesses α)
  | store (part : Part) (content : part.Content) (next : Accesses α)
  | note (notices : List Notice) (next : Accesses α)

namespace Accesses

variable {α β φ : Type}

/-! ## Building trees -/

protected def bind : Accesses α → (α → Accesses β) → Accesses β
  | done (.value a), f => f a
  | done (.failed e), _ => done (.failed e)
  | done .blocked, _ => done .blocked
  | load part next, f => load part fun content => (next content).bind f
  | store part content next, f => store part content (next.bind f)
  | note notices next, f => note notices (next.bind f)

instance : Monad Accesses where
  pure a := done (.value a)
  bind := Accesses.bind

def fail (e : SyncError) : Accesses α := done (.failed e)

def ofExcept (x : Except SyncError α) : Accesses α := done (.ofExcept x)

def read (part : Part) : Accesses part.Content := load part fun content => done (.value content)

def write (part : Part) (content : part.Content) : Accesses Unit :=
  store part content (done (.value ()))

def tell (n : Notice) : Accesses Unit := note [n] (done (.value ()))

/-- The tree with the error, if it ends with one, as its answer. -/
def attempt : Accesses α → Accesses (Except SyncError α)
  | done (.value a) => done (.value (.ok a))
  | done (.failed e) => done (.value (.error e))
  | done .blocked => done .blocked
  | load part next => load part fun content => (next content).attempt
  | store part content next => store part content next.attempt
  | note notices next => note notices next.attempt

/-- A call that goes from phase to phase, for so many steps at most. -/
def drive (step : φ → Accesses (Op.Progress φ α)) : Nat → φ → Accesses α
  | 0, _ => done .blocked
  | steps + 1, phase => do
    match ← step phase with
    | .next phase => drive step steps phase
    | .answer a => return a

/-- The operation that makes the accesses of a tree. -/
def perform : Accesses α → Op Words α
  | done o => fun m => ⟨o, m, []⟩
  | load part next => fun m => (next (part.load m)).perform m
  | store part content next => fun m => next.perform (part.store content m)
  | note notices next => fun m =>
    let ran := next.perform m
    ⟨ran.outcome, ran.state, notices ++ ran.notices⟩

/-! ## Words of the bitmap, the counter and records -/

/-- Stores `desired` in a word of the bitmap if it is `expected`, and answers with what it is if
not. A weak exchange may also fail without a cause; `fails` says that it does. -/
def exchangeWord (l : Layout) (index : Nat) (fails : Bool) (expected desired : UInt64) :
    Accesses (Option UInt64) := do
  let actual ← read (.word l index)
  if actual = expected ∧ !fails then
    write (.word l index) desired
    return none
  else return some actual

/-- Clears the bits of a word of the bitmap that are clear in `mask`, and answers with the word
before. -/
def maskWord (l : Layout) (index : Nat) (mask : UInt64) : Accesses UInt64 := do
  let previous ← read (.word l index)
  write (.word l index) (previous &&& mask)
  return previous

/-- Adds to the number of slots that are handed out, which wraps around. -/
def addAllocated (amount : UInt32) : Accesses Unit := do
  let allocated ← read (.field .allocated)
  write (.field .allocated) (allocated + amount)

/-- An operation on the record of a slot. -/
def onRecord (l : Layout) (slot : UInt32) (op : Op Record α) : Accesses α :=
  load (.record l slot) fun r =>
    let ran := op.run r
    store (.record l slot) ran.state (note ran.notices (done ran.outcome))

end Accesses

end Interprocess
