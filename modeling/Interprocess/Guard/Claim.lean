import Interprocess.Guard.Policy

/-!
# Claiming a guard word

One attempt to take a guard word, as a machine that makes one request at a time: it reads or
exchanges the word, reads the clock, asks whether a holder lives, or parks. Whoever answers the
requests decides what else happens between them, so the same machine runs alone and among others.

A contender first claims a free word. If that fails it looks at the word again and again: a free
word is claimed; a held one is looked at a number of times, and then its holder is asked for. The
word of a dead holder is taken over with its waiters bit. For a live holder the contender parks,
after it has set the waiters bit, until its time is up.
-/

namespace Interprocess

namespace Guard

/-! ## The machine -/

/-- What a contender asks of its surroundings. -/
inductive Request where
  | load
  /-- Store `desired` if the word is `expected`; a weak exchange may also fail without a cause. -/
  | exchange (weak : Bool) (expected desired : UInt32)
  | clock
  | probe (holder : UInt32)
  /-- Park on the word while it is `expected`, for at most `limit`. -/
  | park (expected : UInt32) (limit : Duration)
  deriving DecidableEq, Repr

def Request.Reply : Request → Type
  | load => UInt32
  | exchange .. => Bool
  | clock => Nat
  | probe _ => Bool
  | park .. => Unit

/-- Where a contender stands. The clock reading `began` and the number of `spins` go with it. -/
inductive Phase where
  /-- About to claim the word for the first time. -/
  | attempt
  /-- The word was held: about to read the clock. -/
  | begin
  /-- About to look at the word. -/
  | look (began : Nat) (spins : UInt32)
  /-- The word was free: about to claim it again. -/
  | claim (began : Nat) (spins : UInt32)
  /-- The word was `current`: about to ask for its holder. -/
  | ask (began : Nat) (spins current : UInt32)
  /-- The holder of `current` is dead: about to take the word over. -/
  | takeover (began : Nat) (spins current : UInt32)
  /-- The holder of `current` lives: about to see how long it has been. -/
  | measure (began : Nat) (spins current : UInt32)
  /-- About to set the waiters bit of `current` and park for `slice`. -/
  | flag (began : Nat) (spins current : UInt32) (slice : Duration)
  /-- About to park for `slice` on a word with the waiters bit. -/
  | park (began : Nat) (spins flagged : UInt32) (slice : Duration)
  /-- The word is taken, from the dead holder `from` if there is one. -/
  | held (deadHolder : Option UInt32)
  /-- The time is up: the holder lives and was waited for so long. -/
  | timedOut (holder : UInt32) (waited : Duration)
  /-- The word cannot carry the contender's number. -/
  | refused
  deriving DecidableEq, Repr

/-- Where a contender starts: it touches no word that cannot carry its number. -/
def Phase.start (p : GuardPolicy) : Phase := if p.canClaim then attempt else refused

/-- What a contender does next: it makes a request and goes on with the answer, or it is done. -/
inductive Move where
  | ask (request : Request) (next : request.Reply → Phase)
  | done

/-- How long to park for a live holder after a wait of `waited`: as long as the policy parks at a
time, or until the time is up if that is sooner, and not at all once it is up. -/
def slice? (p : GuardPolicy) (waited : Duration) : Option Duration :=
  match p.timeout with
  | none => some p.parkSlice
  | some limit =>
    if limit.nanos ≤ waited.nanos then none else some (p.parkSlice.shorter (limit.less waited))

/-- Where a contender stands after it has seen the word. -/
def seen (p : GuardPolicy) (began : Nat) (spins current : UInt32) : Phase :=
  if current = 0 then .claim began spins
  else if spins < p.spinLimit then .look began (spins + 1)
  else .ask began spins current

/-- Where a contender stands after it has read the clock behind a live holder. -/
def measured (p : GuardPolicy) (began : Nat) (spins current : UInt32) (now : Nat) : Phase :=
  let waited : Duration := ⟨now - began⟩
  match slice? p waited with
  | none => .timedOut (holderOf current) waited
  | some slice =>
    if hasWaiters current then .park began spins current slice
    else .flag began spins current slice

def move (p : GuardPolicy) : Phase → Move
  | .attempt =>
    .ask (.exchange false 0 p.holderId) fun (ok : Bool) => if ok then .held none else .begin
  | .begin => .ask .clock fun (now : Nat) => .look now 0
  | .look began spins => .ask .load fun (current : UInt32) => seen p began spins current
  | .claim began spins =>
    .ask (.exchange true 0 p.holderId) fun (ok : Bool) =>
      if ok then .held none else .look began spins
  | .ask began spins current =>
    .ask (.probe (holderOf current)) fun (alive : Bool) =>
      if alive then .measure began spins current else .takeover began spins current
  | .takeover began spins current =>
    .ask (.exchange false current (takenOver p.holderId current)) fun (ok : Bool) =>
      if ok then .held (some (holderOf current)) else .look began spins
  | .measure began spins current =>
    .ask .clock fun (now : Nat) => measured p began spins current now
  | .flag began spins current slice =>
    .ask (.exchange false current (flagged current)) fun (ok : Bool) =>
      if ok then .park began spins (flagged current) slice else .look began spins
  | .park began spins flagged slice => .ask (.park flagged slice) fun _ => .look began spins
  | .held _ => .done
  | .timedOut .. => .done
  | .refused => .done

/-! ## Running alone -/

/-- The surroundings of a contender that nobody disturbs: the word, the clock, and the shortest time
that a park takes. -/
structure Quiet where
  word : UInt32
  now : Nat
  slack : Nat

/-- A park may take this much longer than asked, in nanoseconds. -/
def timerSlack : Nat := 50000

namespace Quiet

def start (word : UInt32) : Quiet := ⟨word, 0, timerSlack⟩

/-- How quiet surroundings answer a request: an exchange succeeds if the word is as expected, and a
park on the expected word lasts its full length. -/
def answer (probe : Probe) (q : Quiet) : (request : Request) → request.Reply × Quiet
  | .load => (q.word, q)
  | .exchange _ expected desired =>
    if q.word = expected then (true, { q with word := desired }) else (false, q)
  | .clock => (q.now, q)
  | .probe holder => (probe.isAlive holder, q)
  | .park expected limit =>
    ((), if q.word = expected then { q with now := q.now + max limit.nanos q.slack } else q)

end Quiet

/-- Runs a contender in quiet surroundings until `stop` holds of where it stands, or it is done, or
it has made as many moves as the fuel allows. -/
def runUntil (p : GuardPolicy) (stop : Phase → Bool) : Nat → Phase → Quiet → Phase × Quiet
  | 0, phase, q => (phase, q)
  | fuel + 1, phase, q =>
    if stop phase then (phase, q)
    else match move p phase with
      | .done => (phase, q)
      | .ask request next =>
        let (reply, q) := q.answer p.probe request
        runUntil p stop fuel (next reply) q

/-- A bound on the moves of a contender in quiet surroundings: those before the loop, one for each
spin, and five for each park until the time is up. Without a limit on the wait it is not a bound,
since then a contender may park for ever. -/
def moveBound (p : GuardPolicy) : Nat :=
  let parks := match p.timeout with
    | some limit => limit.nanos / max p.parkSlice.nanos 1 + 2
    | none => 1
  2 + p.spinLimit.toNat + 5 * (parks + 1)

/-- How a contender that nobody disturbs ends. -/
inductive Ending where
  /-- The word is taken, from a dead holder if one is named. -/
  | held (deadHolder : Option UInt32)
  | timedOut (holder : UInt32) (waited : Duration)
  /-- The word cannot carry the contender's number. -/
  | refused
  /-- The contender parks for ever. -/
  | parked
  deriving DecidableEq, Repr

def Phase.ending : Phase → Ending
  | held deadHolder => .held deadHolder
  | timedOut holder waited => .timedOut holder waited
  | refused => .refused
  | _ => .parked

/-- Lets a contender that nobody disturbs claim a word: how it ends, and the word after it. -/
def settle (p : GuardPolicy) (word : UInt32) : Ending × UInt32 :=
  let (phase, q) :=
    runUntil p (fun _ => false) (moveBound p) (Phase.start p) (Quiet.start word)
  (phase.ending, q.word)

def Phase.isParking : Phase → Bool
  | park .. => true
  | _ => false

/-- Where a contender stands when it parks for the first time or is done, and the surroundings
then. -/
def settleUntilParked (p : GuardPolicy) (word : UInt32) : Phase × Quiet :=
  runUntil p Phase.isParking (moveBound p) (Phase.start p) (Quiet.start word)

/-- Lets a contender go on from where it stands, in surroundings that nobody else changes. -/
def resume (p : GuardPolicy) (phase : Phase) (q : Quiet) : Ending × UInt32 :=
  let (phase, q) := runUntil p (fun _ => false) (moveBound p) phase q
  (phase.ending, q.word)

end Guard

end Interprocess
