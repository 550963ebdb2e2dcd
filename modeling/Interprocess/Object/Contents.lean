import Interprocess.Object.State

/-!
# What a guard protects

The words of a record behind its guard word: the tag and three payload words. What is done while the
guard is held is a `Body`, a sequence of loads and stores of single words, so that it can be run in
one go, run up to a crash, or taken apart into steps.
-/

namespace Interprocess

/-! ## Contents -/

/-- The tag and the payload of a record. What the payload words mean depends on the tag: owner,
count and abandonment of a mutex; reset mode and signal of an event; count and maximum of a
semaphore. -/
structure Contents where
  tag : UInt32
  first : UInt32
  second : UInt32
  third : UInt32
  deriving DecidableEq, Repr, Inhabited

/-- One of the words that a guard protects. -/
inductive Field where
  | tag
  | first
  | second
  | third
  deriving DecidableEq, Repr

namespace Contents

def blank : Contents := ⟨0, 0, 0, 0⟩

def get (c : Contents) : Field → UInt32
  | .tag => c.tag
  | .first => c.first
  | .second => c.second
  | .third => c.third

def set (c : Contents) (field : Field) (word : UInt32) : Contents :=
  match field with
  | .tag => { c with tag := word }
  | .first => { c with first := word }
  | .second => { c with second := word }
  | .third => { c with third := word }

def kind (c : Contents) : Kind := Kind.ofTag c.tag

def mutexState (c : Contents) : MutexState := ⟨⟨c.first⟩, c.second, c.third⟩

def eventState (c : Contents) : EventState := ⟨c.first, c.second⟩

def semaphoreState (c : Contents) : SemaphoreState := ⟨c.first, c.second⟩

def state (c : Contents) : ObjectState :=
  match c.kind with
  | .unknown => .unknown
  | .mutex => .mutex c.mutexState
  | .event => .event c.eventState
  | .semaphore => .semaphore c.semaphoreState

@[simp]
theorem get_set_self (c : Contents) (f : Field) (w : UInt32) : (c.set f w).get f = w := by
  cases f <;> rfl

end Contents

/-! ## Bodies -/

/-- What is done while the guard is held, word by word. -/
inductive Body (α : Type) where
  | done (a : α)
  | load (field : Field) (next : UInt32 → Body α)
  | store (field : Field) (word : UInt32) (next : Body α)

namespace Body

variable {α β : Type}

/-- One body after another. -/
protected def bind : Body α → (α → Body β) → Body β
  | done a, next => next a
  | load field rest, next => load field fun word => (rest word).bind next
  | store field word rest, next => store field word (rest.bind next)

instance : Monad Body where
  pure := Body.done
  bind := Body.bind

def read (field : Field) : Body UInt32 := load field done

def write (field : Field) (word : UInt32) : Body Unit := store field word (done ())

def run : Body α → Contents → α × Contents
  | done a, c => (a, c)
  | load field next, c => (next (c.get field)).run c
  | store field word next, c => next.run (c.set field word)

/-- What a body leaves when it ends after `n` of its stores. -/
def cut : Nat → Body α → Contents → Contents
  | _, done _, c => c
  | n, load field next, c => (next (c.get field)).cut n c
  | 0, store .., c => c
  | n + 1, store field word next, c => next.cut n (c.set field word)

@[simp]
theorem run_pure (a : α) (c : Contents) : (pure a : Body α).run c = (a, c) := rfl

@[simp]
theorem run_read (field : Field) (c : Contents) : (read field).run c = (c.get field, c) := rfl

@[simp]
theorem run_write (field : Field) (word : UInt32) (c : Contents) :
    (write field word).run c = ((), c.set field word) := rfl

@[simp]
theorem run_bind (body : Body α) (next : α → Body β) (c : Contents) :
    (body >>= next).run c = (next (body.run c).1).run (body.run c).2 := by
  show (Body.bind body next).run c = _
  induction body generalizing c with
  | done a => rfl
  | load field rest ih => exact ih (c.get field) c
  | store field word rest ih => exact ih (c.set field word)

end Body

end Interprocess
