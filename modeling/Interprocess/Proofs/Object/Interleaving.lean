import Interprocess.Proofs.Guard.Exclusion
import Interprocess.Proofs.Object.Guarded

/-!
# Operations on one record, interleaved

Any number of participants run operations on one record. Each goes through the script of its
operation, the same that runs when nobody disturbs it, and the steps of different scripts are
interleaved in any order: those of the contention for the guard, each load and store of the tag or
of a payload word, the release and the wake after it. That loads and stores come while the guard is
held is no rule of a step; it follows from the order of the script. Two lists are kept on the side:
the operations in the order in which they claimed the guard, and the operations that are over with
their outcomes.
-/

namespace Interprocess

/-- An operation in progress. -/
structure Job where
  call : Call
  /-- Its place in the order of claims, once it has claimed the guard. -/
  place : Option Nat
  /-- Whether it has stored a word yet. -/
  stored : Bool
  /-- What it has still to do. -/
  rest : Record.Script Answer

/-- An operation that is over. -/
structure Finished where
  call : Call
  /-- Its place in the order of claims, if it ever claimed the guard. -/
  place : Option Nat
  /-- Whether it stored a word. -/
  stored : Bool
  outcome : Outcome Answer

/-- A record that participants run operations on. -/
structure SharedRecord (ι : Type) where
  guard : Guard.Contention ι
  contents : Contents
  job : ι → Option Job
  order : List (GuardPolicy × Call)
  finished : List Finished

namespace SharedRecord

open Guard (Contention)

variable {ι : Type}

def initial (c : Contents) : SharedRecord ι where
  guard := .initial
  contents := c
  job _ := none
  order := []
  finished := []

variable [DecidableEq ι]

/-- A participant turns to a job, or to none. -/
def assign (s : SharedRecord ι) (i : ι) (job : Option Job) : SharedRecord ι :=
  { s with job := Function.update s.job i job }

@[simp]
theorem assign_job_self (s : SharedRecord ι) (i : ι) (job : Option Job) :
    (s.assign i job).job i = job :=
  Function.update_self ..

theorem assign_job_of_ne (s : SharedRecord ι) {i j : ι} (job : Option Job) (h : j ≠ i) :
    (s.assign i job).job j = s.job j :=
  Function.update_of_ne h ..

/-- A participant has the guard and works at a job. -/
structure Works (s : SharedRecord ι) (i : ι) (job : Job) : Prop where
  alive : i ∉ s.guard.dead
  has : (s.guard.stance i).mode = .has
  busy : s.job i = some job

/-- One step of one participant, which does what its script says next. -/
inductive Step : SharedRecord ι → SharedRecord ι → Prop where
  /-- An operation refuses its arguments. -/
  | refuses {s : SharedRecord ι} {call : Call} {e : SyncError} (refused : call.body = .error e) :
      Step s { s with finished := s.finished ++ [⟨call, none, false, .failed e⟩] }
  /-- An operation begins whose script claims the guard first. -/
  | begins {s : SharedRecord ι} {g : Contention ι} {i : ι} {p : GuardPolicy} {call : Call}
      {body : Body (Except SyncError Answer)} {next : Record.Script Answer} (idle : s.job i = none)
      (accepted : call.body = .ok body) (opens : Record.Script.bracket body = .claim next)
      (step : Contention.Step s.guard (.begins i p) g) :
      Step s (assign { s with guard := g } i (some ⟨call, none, false, .claim next⟩))
  /-- A step of the contention that does not end with the guard. -/
  | contends {s : SharedRecord ι} {g : Contention ι} {i : ι}
      (step : Contention.Step s.guard (.moves i) g) (without : (g.stance i).mode = .contending) :
      Step s { s with guard := g }
  /-- The step that takes the guard. -/
  | claims {s : SharedRecord ι} {g : Contention ι} {i : ι} {p : GuardPolicy} {d : Option UInt32}
      {call : Call} {place : Option Nat} {stored : Bool} {next : Record.Script Answer}
      (busy : s.job i = some ⟨call, place, stored, .claim next⟩)
      (step : Contention.Step s.guard (.moves i) g) (has : g.stance i = .claiming p (.held d)) :
      Step s (assign { s with guard := g, order := s.order ++ [(p, call)] } i
        (some ⟨call, some s.order.length, stored, next⟩))
  | loads {s : SharedRecord ι} {i : ι} {call : Call} {place : Option Nat} {stored : Bool}
      {field : Field} {next : UInt32 → Record.Script Answer} (alive : i ∉ s.guard.dead)
      (busy : s.job i = some ⟨call, place, stored, .load field next⟩) :
      Step s (s.assign i (some ⟨call, place, stored, next (s.contents.get field)⟩))
  | stores {s : SharedRecord ι} {i : ι} {call : Call} {place : Option Nat} {stored : Bool}
      {field : Field} {word : UInt32} {next : Record.Script Answer} (alive : i ∉ s.guard.dead)
      (busy : s.job i = some ⟨call, place, stored, .store field word next⟩) :
      Step s (assign { s with contents := s.contents.set field word } i
        (some ⟨call, place, true, next⟩))
  | releases {s : SharedRecord ι} {g : Contention ι} {i : ι} {call : Call} {place : Option Nat}
      {stored : Bool} {next : Record.Script Answer}
      (busy : s.job i = some ⟨call, place, stored, .release next⟩)
      (step : Contention.Step s.guard (.releases i) g) :
      Step s (assign { s with guard := g } i (some ⟨call, place, stored, next⟩))
  | wakes {s : SharedRecord ι} {g : Contention ι} {i : ι}
      (step : Contention.Step s.guard (.wakes i) g) :
      Step s { s with guard := g }
  /-- An operation ends with its answer, once it has woken whom it had to. -/
  | returns {s : SharedRecord ι} {i : ι} {call : Call} {place : Option Nat} {stored : Bool}
      {answer : Except SyncError Answer} (alive : i ∉ s.guard.dead)
      (stands : s.guard.stance i = .idle)
      (busy : s.job i = some ⟨call, place, stored, .answer answer⟩) :
      Step s (assign { s with
        finished := s.finished ++ [⟨call, place, stored, .ofExcept answer⟩] } i none)
  /-- An operation that did not get the guard ends as its claim does. -/
  | givesUp {s : SharedRecord ι} {g : Contention ι} {i : ι} {p : GuardPolicy}
      {phase : Guard.Phase} {call : Call} {place : Option Nat} {stored : Bool}
      {next : Record.Script Answer} {e : SyncError}
      (busy : s.job i = some ⟨call, place, stored, .claim next⟩)
      (step : Contention.Step s.guard (.leaves i) g)
      (stands : s.guard.stance i = .claiming p phase)
      (reason : ∀ r, (Record.claimed phase.ending).result r = (.failed e, r)) :
      Step s (assign { s with
        guard := g
        finished := s.finished ++ [⟨call, place, stored, .failed e⟩] } i none)
  /-- Nobody dies inside an operation. -/
  | dies {s : SharedRecord ι} {g : Contention ι} {i : ι} (idle : s.job i = none)
      (step : Contention.Step s.guard (.dies i) g) :
      Step s { s with guard := g }

/-- The states that a run reaches from some contents, if probes are not wrong all along. -/
inductive Reachable (c : Contents) : SharedRecord ι → Prop where
  | initial : Reachable c (initial c)
  | step {s s' : SharedRecord ι} (before : Reachable c s) (step : Step s s')
      (sound : s'.guard.ProbesSound) : Reachable c s'

theorem Reachable.guard {c : Contents} {s : SharedRecord ι} (h : Reachable c s) :
    Contention.Reachable Contention.ProbesSound s.guard := by
  induction h with
  | initial => exact .initial (Contention.probesSound_of_nobody_gone rfl)
  | step before step sound ih =>
    cases step with
    | refuses | loads | stores | returns => exact ih
    | begins _ _ _ step | contends step | claims _ step | releases _ step | wakes step
    | givesUp _ step | dies _ step => exact ih.step step sound

end SharedRecord

/-! ## One after another -/

/-- Runs calls one after another on a record: their outcomes, and the record that they leave. -/
def serial : List (GuardPolicy × Call) → Record → List (Outcome Answer) × Record
  | [], r => ([], r)
  | (p, call) :: rest, r =>
    let (outcome, r) := (call.op p).result r
    let (outcomes, r) := serial rest r
    (outcome :: outcomes, r)

theorem serial_concat (calls : List (GuardPolicy × Call)) (p : GuardPolicy) (call : Call)
    (r : Record) :
    serial (calls ++ [(p, call)]) r =
      ((serial calls r).1 ++ [((call.op p).result (serial calls r).2).1],
        ((call.op p).result (serial calls r).2).2) := by
  induction calls generalizing r with
  | nil => rfl
  | cons first rest ih =>
    obtain ⟨q, first⟩ := first
    simp only [List.cons_append, serial, ih]

@[simp]
theorem length_serial (calls : List (GuardPolicy × Call)) (r : Record) :
    (serial calls r).1.length = calls.length := by
  induction calls generalizing r with
  | nil => rfl
  | cons first rest ih =>
    obtain ⟨q, first⟩ := first
    simp only [serial, List.length_cons, ih]

end Interprocess
