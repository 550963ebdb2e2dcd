import Interprocess.Guard.Claim
import Interprocess.Object.Contents
import Interprocess.Operation

/-!
# Records

A record is a guard word and what it protects. Every change goes the same way: claim the guard, run
a body, release the guard. Here are the changes that do not depend on the kind of the object: giving
a blank record its kind and first state, and blanking it again.
-/

namespace Interprocess

/-- A guard word and what it protects. -/
structure Record where
  guard : UInt32
  contents : Contents
  deriving DecidableEq, Repr, Inhabited

namespace Record

variable {α : Type}

def blank : Record := ⟨0, Contents.blank⟩

def size : Nat := 20

def words : Nat := 5

def description (r : Record) : String :=
  "SyncObject \x7b guard: " ++ toString r.guard.toNat ++ ", type: " ++ r.contents.kind.label ++
    ", .. \x7d"

/-! ## The guard -/

/-- Claims the guard if nobody holds it, and says whether it did. -/
def tryClaim (p : GuardPolicy) : Op Record Bool := fun r =>
  if p.canClaim then
    if r.guard = 0 then ⟨.value true, { r with guard := p.holderId }, []⟩
    else ⟨.value false, r, []⟩
  else ⟨.failed GuardPolicy.holderIdError, r, []⟩

/-- Ends an operation as a contender for the guard ended. -/
def claimed : Guard.Ending → Op Record Unit
  | .held none => pure ()
  | .held (some deadHolder) => Op.note (.guardRecovered deadHolder)
  | .timedOut holder waited => Op.fail (.guardTimeout holder waited)
  | .refused => Op.fail GuardPolicy.holderIdError
  | .parked => Op.block

/-- Claims the guard, waiting as the policy says. -/
def claim (p : GuardPolicy) : Op Record Unit := do
  let ending ← Op.exchange fun r =>
    let (ending, word) := Guard.settle p r.guard
    (ending, { r with guard := word })
  claimed ending

/-- Releases the guard, whatever its word is. -/
def release : Op Record Unit :=
  Op.update fun r => { r with guard := 0 }

/-! ## Scripts -/

/-- What an operation does to a record, one thing after another, and how it answers. -/
inductive Script (α : Type) where
  | answer (result : Except SyncError α)
  /-- Claim the guard; if that fails nothing of the rest is done. -/
  | claim (next : Script α)
  | load (field : Field) (next : UInt32 → Script α)
  | store (field : Field) (word : UInt32) (next : Script α)
  | release (next : Script α)

/-- A body, and what is done after it. -/
def Script.follow {β : Type} : Body β → (β → Script α) → Script α
  | .done b, next => next b
  | .load field rest, next => .load field fun word => follow (rest word) next
  | .store field word rest, next => .store field word (follow rest next)

/-- What is done by somebody who has the guard: the rest of a body, and then the release. -/
def Script.finish (rest : Body (Except SyncError α)) : Script α :=
  .follow rest fun result => .release (.answer result)

/-- A body while the guard is held. -/
def Script.bracket (body : Body (Except SyncError α)) : Script α := .claim (.finish body)

/-- Runs a script that nobody disturbs. -/
def Script.alone (p : GuardPolicy) : Script α → Op Record α
  | .answer result => Op.ofExcept result
  | .claim next => do
    Record.claim p
    next.alone p
  | .load field next => do
    let word ← Op.read fun r => r.contents.get field
    (next word).alone p
  | .store field word next => do
    Op.update fun r => { r with contents := r.contents.set field word }
    next.alone p
  | .release next => do
    Record.release
    next.alone p

/-- Runs a body while the guard is held. -/
def guarded (p : GuardPolicy) (body : Body (Except SyncError α)) : Op Record α :=
  (Script.bracket body).alone p

/-! ## Kinds -/

/-- The kind of the object, read without the guard. -/
def kind : Op Record Kind :=
  Op.read fun r => r.contents.kind

def requireKind (expected : Kind) : Op Record Unit := do
  let found ← kind
  if found = expected then pure () else Op.fail (.typeMismatch (some expected) found)

/-- A body for objects of one kind: it loads the tag first, and refuses any other kind. -/
def expecting (expected : Kind) (body : Body (Except SyncError α)) : Body (Except SyncError α) := do
  let found := Kind.ofTag (← Body.read .tag)
  if found = expected then body else return .error (.typeMismatch (some expected) found)

/-! ## Beginning and end of an object -/

def payload : ObjectState → UInt32 × UInt32 × UInt32
  | .unknown => (0, 0, 0)
  | .mutex m => (m.owner.raw, m.count, m.abandoned)
  | .event e => (e.manualReset, e.signaled, 0)
  | .semaphore s => (s.count, s.maximum, 0)

def writePayload (state : ObjectState) : Body Unit := do
  let (first, second, third) := payload state
  Body.write .first first
  Body.write .second second
  Body.write .third third

/-- Gives a record with tag zero a first state: the payload, and then the tag. -/
def setUpBody (state : ObjectState) : Body (Except SyncError Unit) := do
  let tag ← Body.read .tag
  if tag ≠ 0 then return .error (.alreadyInitialized (Kind.ofTag tag))
  else
    writePayload state
    Body.write .tag state.kind.tag
    return .ok ()

/-- Gives a blank record its kind and first state. -/
def setUp (p : GuardPolicy) (state : ObjectState) : Op Record Unit := do
  guarded p (setUpBody state)
  Op.note (.initialized state)

def retireBody : Body (Except SyncError Kind) := do
  let tag ← Body.read .tag
  Body.write .tag 0
  writePayload .unknown
  return .ok (Kind.ofTag tag)

/-- Makes the record blank again, so that nobody who looked at its tag before can act on what it
held, and answers with the kind that it had. -/
def retire (p : GuardPolicy) : Op Record Kind :=
  guarded p retireBody

end Record

end Interprocess
