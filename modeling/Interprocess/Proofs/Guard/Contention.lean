import Interprocess.Guard.Claim
import Interprocess.Proofs.Guard.Word
import Mathlib.Data.Set.Insert
import Mathlib.Logic.Function.Basic

/-!
# Contention for one guard word

Any number of participants share one guard word. Each of them claims the word, once or as long as
its policy says, makes use of it and releases it, over and over, with another policy each time if it
likes. A step is one atomic operation of one participant, and the participants take their steps in
any order; a participant may die at any point, and a dead one takes no steps.

A contender runs the machine `Guard.move`. Its loads and exchanges work on the shared word; the
clock may show anything; a probe may answer anything, and the numbers that it called dead are kept
in `gone`. What can be counted on, such as probes that are never wrong, is asked of the states that
a run goes through (`Reachable`).
-/

namespace Interprocess

namespace Guard

/-! ## Participants -/

/-- Where a participant stands. -/
inductive Stance where
  /-- In no call, and without the word. -/
  | idle
  /-- About to claim the word once, without waiting. -/
  | trying (p : GuardPolicy)
  /-- In a phase of a claim. In the phase `held` the word is the participant's own. -/
  | claiming (p : GuardPolicy) (phase : Phase)
  /-- Parked on the word, to go on from a phase. -/
  | parked (p : GuardPolicy) (phase : Phase)
  /-- Released a word with the waiters bit: about to wake everyone who is parked. -/
  | waking

namespace Stance

/-- The number by which a participant is known that has the word. -/
def holder? : Stance → Option UInt32
  | claiming p (.held _) => some p.holderId
  | _ => none

/-- The number that a participant uses, which claims the word or has it. -/
def number? : Stance → Option UInt32
  | trying p => some p.holderId
  | claiming p _ => some p.holderId
  | parked p _ => some p.holderId
  | _ => none

inductive Mode where
  | away
  | contending
  | has
  deriving DecidableEq

/-- How a participant in a stance stands to the word. -/
def mode : Stance → Mode
  | idle => .away
  | trying _ => .contending
  | claiming _ (.held _) => .has
  | claiming _ _ => .contending
  | parked _ _ => .contending
  | waking => .away

/-- Where a participant stands after everyone who was parked has been woken. -/
def woken : Stance → Stance
  | parked p phase => claiming p phase
  | stance => stance

theorem number?_of_holder? {stance : Stance} {n : UInt32} (h : stance.holder? = some n) :
    stance.number? = some n := by
  unfold holder? at h
  split at h
  · exact h
  · cases h

theorem mode_eq_has_iff {stance : Stance} : stance.mode = .has ↔ ∃ n, stance.holder? = some n := by
  cases stance with
  | claiming p phase => cases phase <;> simp [mode, holder?]
  | _ => simp [mode, holder?]

end Stance

/-- A guard word and everyone who takes part in the contention for it. -/
structure Contention (ι : Type) where
  word : UInt32
  stance : ι → Stance
  dead : Set ι
  /-- The holder numbers that a probe called dead. -/
  gone : Set UInt32

/-- What a participant does in a step. -/
inductive Event (ι : Type) where
  /-- Begins to claim the word without waiting. -/
  | tries (i : ι) (p : GuardPolicy)
  /-- Begins to claim the word. -/
  | begins (i : ι) (p : GuardPolicy)
  /-- Takes the next operation of its claim. -/
  | moves (i : ι)
  /-- Ends its claim without the word. -/
  | leaves (i : ι)
  /-- Swaps zero into the word. -/
  | releases (i : ι)
  /-- Wakes everyone who is parked. -/
  | wakes (i : ι)
  | dies (i : ι)

/-- The policy of a contender that does not spin. -/
def impatient (holderId : UInt32) : GuardPolicy :=
  { GuardPolicy.standard holderId (.deadList []) with spinLimit := 0 }

def Event.actor {ι : Type} : Event ι → ι
  | tries i _ => i
  | begins i _ => i
  | moves i => i
  | leaves i => i
  | releases i => i
  | wakes i => i
  | dies i => i

/-! ## Steps -/

/-- How a shared word answers a request that depends on nothing else: the answer, and the word after
it. The clock may show anything. -/
inductive Served (word : UInt32) : (request : Request) → request.Reply → UInt32 → Prop where
  | load : Served word .load word word
  | exchanged (weak : Bool) (desired : UInt32) :
      Served word (.exchange weak word desired) true desired
  /-- An exchange fails if the word is not as expected, and a weak one may fail anyway. -/
  | kept {weak : Bool} {expected : UInt32} (desired : UInt32)
      (fails : word ≠ expected ∨ weak = true) :
      Served word (.exchange weak expected desired) false word
  | clock (now : Nat) : Served word .clock now word

namespace Contention

variable {ι : Type}

def initial : Contention ι where
  word := 0
  stance _ := .idle
  dead := ∅
  gone := ∅

def bury (s : Contention ι) (n : UInt32) : Contention ι := { s with gone := insert n s.gone }

def wakeAll (s : Contention ι) : Contention ι :=
  { s with stance := fun j => (s.stance j).woken }

def kill (s : Contention ι) (i : ι) : Contention ι := { s with dead := insert i s.dead }

variable [DecidableEq ι]

/-- A participant changes the word and goes to another stance. -/
def write (s : Contention ι) (word : UInt32) (i : ι) (stance : Stance) : Contention ι :=
  { s with word := word, stance := Function.update s.stance i stance }

@[simp]
theorem write_stance_self (s : Contention ι) (word : UInt32) (i : ι) (stance : Stance) :
    (s.write word i stance).stance i = stance :=
  Function.update_self ..

theorem write_stance_of_ne (s : Contention ι) (word : UInt32) {i j : ι} (stance : Stance)
    (h : j ≠ i) : (s.write word i stance).stance j = s.stance j :=
  Function.update_of_ne h ..

@[simp]
theorem write_word (s : Contention ι) (word : UInt32) (i : ι) (stance : Stance) :
    (s.write word i stance).word = word :=
  rfl

@[simp]
theorem write_dead (s : Contention ι) (word : UInt32) (i : ι) (stance : Stance) :
    (s.write word i stance).dead = s.dead :=
  rfl

@[simp]
theorem write_gone (s : Contention ι) (word : UInt32) (i : ι) (stance : Stance) :
    (s.write word i stance).gone = s.gone :=
  rfl

abbrev put (s : Contention ι) (i : ι) (stance : Stance) : Contention ι := s.write s.word i stance

/-- One atomic operation of a participant that lives. -/
inductive Step : Contention ι → Event ι → Contention ι → Prop where
  | tries {s : Contention ι} {i : ι} (p : GuardPolicy) (alive : i ∉ s.dead)
      (stands : s.stance i = .idle) :
      Step s (.tries i p) (s.put i (.trying p))
  | begins {s : Contention ι} {i : ι} (p : GuardPolicy) (alive : i ∉ s.dead)
      (stands : s.stance i = .idle) :
      Step s (.begins i p) (s.put i (.claiming p (.start p)))
  /-- The only attempt of a claim without waiting, on a free word. -/
  | succeeds {s : Contention ι} {i : ι} {p : GuardPolicy} (alive : i ∉ s.dead)
      (stands : s.stance i = .trying p) (valid : p.canClaim = true) (free : s.word = 0) :
      Step s (.moves i) (s.write p.holderId i (.claiming p (.held none)))
  /-- The only attempt of a claim without waiting, on a word that is held or with a number that a
  word cannot carry. -/
  | fails {s : Contention ι} {i : ι} {p : GuardPolicy} (alive : i ∉ s.dead)
      (stands : s.stance i = .trying p) (reason : p.canClaim = false ∨ s.word ≠ 0) :
      Step s (.leaves i) (s.put i .idle)
  /-- A load, an exchange, or a look at the clock. -/
  | asks {s : Contention ι} {i : ι} {p : GuardPolicy} {phase : Phase} {request : Request}
      {next : request.Reply → Phase} {reply : request.Reply} {word : UInt32} (alive : i ∉ s.dead)
      (stands : s.stance i = .claiming p phase) (wants : move p phase = .ask request next)
      (served : Served s.word request reply word) :
      Step s (.moves i) (s.write word i (.claiming p (next reply)))
  /-- A probe answers that the holder lives. -/
  | findsAlive {s : Contention ι} {i : ι} {p : GuardPolicy} {phase : Phase} {holder : UInt32}
      {next : Bool → Phase} (alive : i ∉ s.dead) (stands : s.stance i = .claiming p phase)
      (wants : move p phase = .ask (.probe holder) next) :
      Step s (.moves i) (s.put i (.claiming p (next true)))
  /-- A probe answers that the holder is dead. -/
  | findsDead {s : Contention ι} {i : ι} {p : GuardPolicy} {phase : Phase} {holder : UInt32}
      {next : Bool → Phase} (alive : i ∉ s.dead) (stands : s.stance i = .claiming p phase)
      (wants : move p phase = .ask (.probe holder) next) :
      Step s (.moves i) ((s.bury holder).put i (.claiming p (next false)))
  /-- The word is compared, and the participant put in the queue, at once. -/
  | parks {s : Contention ι} {i : ι} {p : GuardPolicy} {phase : Phase} {limit : Duration}
      {next : Unit → Phase} (alive : i ∉ s.dead) (stands : s.stance i = .claiming p phase)
      (wants : move p phase = .ask (.park s.word limit) next) :
      Step s (.moves i) (s.put i (.parked p (next ())))
  /-- The word is not what the participant would park on. -/
  | staysUp {s : Contention ι} {i : ι} {p : GuardPolicy} {phase : Phase} {expected : UInt32}
      {limit : Duration} {next : Unit → Phase} (alive : i ∉ s.dead)
      (stands : s.stance i = .claiming p phase)
      (wants : move p phase = .ask (.park expected limit) next) (changed : s.word ≠ expected) :
      Step s (.moves i) (s.put i (.claiming p (next ())))
  /-- The time of a park is up, or it ends without a cause. -/
  | rises {s : Contention ι} {i : ι} {p : GuardPolicy} {phase : Phase} (alive : i ∉ s.dead)
      (stands : s.stance i = .parked p phase) :
      Step s (.moves i) (s.put i (.claiming p phase))
  /-- The time of a claim is up, or a word cannot carry its number. -/
  | leaves {s : Contention ι} {i : ι} {p : GuardPolicy} {phase : Phase} (alive : i ∉ s.dead)
      (stands : s.stance i = .claiming p phase) (ends : move p phase = .done)
      (empty : (s.stance i).holder? = none) :
      Step s (.leaves i) (s.put i .idle)
  | releases {s : Contention ι} {i : ι} {n : UInt32} (alive : i ∉ s.dead)
      (holds : (s.stance i).holder? = some n) :
      Step s (.releases i) (s.write 0 i (if hasWaiters s.word then .waking else .idle))
  | wakes {s : Contention ι} {i : ι} (alive : i ∉ s.dead) (stands : s.stance i = .waking) :
      Step s (.wakes i) (s.wakeAll.put i .idle)
  | dies {s : Contention ι} {i : ι} (alive : i ∉ s.dead) :
      Step s (.dies i) (s.kill i)

/-- The states that a run reaches on which `Trusted` holds all along. -/
inductive Reachable (Trusted : Contention ι → Prop) : Contention ι → Prop where
  | initial (trusted : Trusted initial) : Reachable Trusted initial
  | step {s s' : Contention ι} {e : Event ι} (before : Reachable Trusted s) (step : Step s e s')
      (trusted : Trusted s') : Reachable Trusted s'

theorem Reachable.trusted {Trusted : Contention ι → Prop} {s : Contention ι}
    (h : Reachable Trusted s) : Trusted s := by
  cases h with
  | initial trusted => exact trusted
  | step _ _ trusted => exact trusted

end Contention

end Guard

end Interprocess
