import Interprocess.Error
import Interprocess.Notice

/-!
# Operations on shared state

An operation reads and changes a state that it shares with others, issues notices, and ends in one
of three ways: with a value, with an error, or not at all, when it waits without a limit for
something that nobody will do. What it changed before an error stays changed.
-/

namespace Interprocess

/-- How an operation ends. -/
inductive Outcome (α : Type) where
  | value (a : α)
  | failed (e : SyncError)
  /-- The operation waits without a limit. -/
  | blocked
  deriving Repr

def Outcome.ofExcept {α : Type} : Except SyncError α → Outcome α
  | .ok a => .value a
  | .error e => .failed e

/-- The end of an operation: how it ended, the state it left, and the notices it issued. -/
structure Ran (σ α : Type) where
  outcome : Outcome α
  state : σ
  notices : List Notice

/-- An operation with answers in `α` on a shared state in `σ`. -/
def Op (σ α : Type) : Type := σ → Ran σ α

namespace Op

variable {σ τ α β : Type}

def run (op : Op σ α) (s : σ) : Ran σ α := op s

protected def pure (a : α) : Op σ α := fun s => ⟨.value a, s, []⟩

/-- One operation after another, unless the first does not end with a value. -/
protected def bind (op : Op σ α) (next : α → Op σ β) : Op σ β := fun s =>
  match op s with
  | ⟨.value a, s, notices⟩ =>
    let ran := next a s
    ⟨ran.outcome, ran.state, notices ++ ran.notices⟩
  | ⟨.failed e, s, notices⟩ => ⟨.failed e, s, notices⟩
  | ⟨.blocked, s, notices⟩ => ⟨.blocked, s, notices⟩

instance : Monad (Op σ) where
  pure := Op.pure
  bind := Op.bind

def fail (e : SyncError) : Op σ α := fun s => ⟨.failed e, s, []⟩

def note (n : Notice) : Op σ Unit := fun s => ⟨.value (), s, [n]⟩

def get : Op σ σ := fun s => ⟨.value s, s, []⟩

def read (f : σ → α) : Op σ α := fun s => ⟨.value (f s), s, []⟩

def update (f : σ → σ) : Op σ Unit := fun s => ⟨.value (), f s, []⟩

/-- The operation that changes the state by `f` and answers with what `f` says. -/
def exchange (f : σ → α × σ) : Op σ α := fun s => ⟨.value (f s).1, (f s).2, []⟩

def ofExcept : Except SyncError α → Op σ α
  | .ok a => Op.pure a
  | .error e => fail e

/-- The operation with its error, if it ends with one, as its answer. -/
def attempt (op : Op σ α) : Op σ (Except SyncError α) := fun s =>
  match op s with
  | ⟨.value a, s, notices⟩ => ⟨.value (.ok a), s, notices⟩
  | ⟨.failed e, s, notices⟩ => ⟨.value (.error e), s, notices⟩
  | ⟨.blocked, s, notices⟩ => ⟨.blocked, s, notices⟩

/-- The operation that waits without a limit. -/
def block : Op σ α := fun s => ⟨.blocked, s, []⟩

/-- An operation on a part of a larger state. -/
def within (part : τ → σ) (replace : σ → τ → τ) (op : Op σ α) : Op τ α := fun t =>
  let ran := op (part t)
  ⟨ran.outcome, replace ran.state t, ran.notices⟩

/-! ## Calls in steps -/

/-- What one step of a call leads to. -/
inductive Progress (φ α : Type) where
  /-- The call goes on from a phase. -/
  | next (phase : φ)
  /-- The call ends with an answer. -/
  | answer (a : α)
  deriving Repr

/-- Runs a call alone from a phase on. Each step touches the shared state at once, so that a call
can also be run among others, a step at a time. A call that does not end within the steps allowed
counts as one that waits without a limit. -/
def drive {φ : Type} (step : φ → Op σ (Progress φ α)) : Nat → φ → Op σ α
  | 0, _ => block
  | steps + 1, phase => do
    match ← step phase with
    | .next phase => drive step steps phase
    | .answer a => return a

/-! ## How the operations run -/

@[simp]
theorem run_pure (a : α) (s : σ) : run (pure a : Op σ α) s = ⟨.value a, s, []⟩ := rfl

@[simp]
theorem run_fail (e : SyncError) (s : σ) : run (fail e : Op σ α) s = ⟨.failed e, s, []⟩ := rfl

@[simp]
theorem run_note (n : Notice) (s : σ) : run (note n : Op σ Unit) s = ⟨.value (), s, [n]⟩ := rfl

end Op

end Interprocess
