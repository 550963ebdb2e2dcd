import Interprocess.Object.Record
import Interprocess.Proofs.Guard.Attempts
import Interprocess.Proofs.Guard.Phases

/-!
# Attempts among strangers

Between two operations of a contender others may put anything into the guard word, whether or not
they keep to the protocol. Probes, the clock and parks may answer anything, and a weak exchange may
fail without a cause (`Answered`).

Every write of the contender has a warrant even so (`Warranted`): it claims a free word, takes over
a word whose holder a probe has just called dead, or sets the waiters bit of a word whose holder a
probe has just called alive. The writes that make the word its own lead straight to the end of the
attempt, so there is one of them if the contender gets the word, and none if it gives up.
-/

namespace Interprocess

namespace Guard

variable {σ : Type} {p : GuardPolicy}

/-! ## Surroundings that promise nothing -/

/-- How a word that others change as they like answers a request: each operation is atomic, and
nothing else is promised. -/
inductive Answered : Deal UInt32 → Prop where
  | served {word word' : UInt32} {request : Request} {reply : request.Reply}
      (served : Served word request reply word') : Answered ⟨word, request, reply, word'⟩
  | probed (word holder : UInt32) (alive : Bool) : Answered ⟨word, .probe holder, alive, word⟩
  | parked (word word' expected : UInt32) (limit : Duration) :
      Answered ⟨word, .park expected limit, (), word'⟩

/-- An attempt among strangers. What they left in the word before a deal has nothing to do with the
deal before it. -/
abbrev Exposed (p : GuardPolicy) : List (Deal UInt32) → Phase → Prop :=
  Attempt p fun _ d => Answered d

theorem Answered.exchanged {d : Deal UInt32} {word word' : UInt32} (answered : Answered d)
    (wrote : d.wrote? = some (word, word')) : d.before = word ∧ d.after = word' := by
  cases answered with
  | served served =>
    cases served with
    | exchanged =>
      cases wrote
      exact ⟨rfl, rfl⟩
    | _ => cases wrote
  | probed => cases wrote
  | parked => cases wrote

/-! ## Writes -/

/-- The writes of a contender: the phase that it writes in, the word that it replaces, the word that
it stores, and the phase that it goes on to. -/
inductive Write (p : GuardPolicy) : Phase → UInt32 → UInt32 → Phase → Prop where
  | claim (phase : Phase) : Write p phase 0 p.holderId (.held none)
  | takeover (began : Nat) (spins current : UInt32) :
      Write p (.takeover began spins current) current (takenOver p.holderId current)
        (.held (some (holderOf current)))
  | flag (began : Nat) (spins current : UInt32) (slice : Duration) :
      Write p (.flag began spins current slice) current (flagged current)
        (.park began spins (flagged current) slice)

theorem write_of_asks {phase : Phase} {request : Request} {next : request.Reply → Phase}
    (asks : move p phase = .ask request next) {reply : request.Reply} {before after : σ}
    {word word' : UInt32}
    (wrote : Deal.wrote? ⟨before, request, reply, after⟩ = some (word, word')) :
    Write p phase word word' (next reply) := by
  cases phase <;> cases asks
  case attempt =>
    cases reply <;> cases wrote
    exact .claim _
  case claim =>
    cases reply <;> cases wrote
    exact .claim _
  case takeover =>
    cases reply <;> cases wrote
    exact .takeover _ _ _
  case flag =>
    cases reply <;> cases wrote
    exact .flag _ _ _ _
  all_goals cases wrote

/-- What a contender that has dealt as in `log` may write: `word'` in the place of `word`. -/
inductive Warranted (p : GuardPolicy) (log : List (Deal σ)) : UInt32 → UInt32 → Prop where
  | claim : Warranted p log 0 p.holderId
  | takeover {word : UInt32} (dead : Asked false log word) :
      Warranted p log word (takenOver p.holderId word)
  | flag {word : UInt32} (alive : Measured log word) (held : word ≠ 0)
      (alone : hasWaiters word = false) : Warranted p log word (flagged word)

theorem Write.warranted {log : List (Deal σ)} {phase next : Phase} {word word' : UInt32}
    (write : Write p phase word word' next) (rests : phase.Rests p log) :
    Warranted p log word word' := by
  cases write with
  | claim => exact .claim
  | takeover => exact .takeover rests
  | flag => exact .flag rests.1.1 rests.1.2.1 rests.1.2.2

/-- The write makes the word the contender's own: it claims a free word, or takes one over. -/
def Takes (p : GuardPolicy) (word word' : UInt32) : Prop :=
  (word = 0 ∧ word' = p.holderId) ∨ word' = takenOver p.holderId word

/-- No write of the log makes the word the contender's own, and none changes who holds it. -/
def OnlyFlags (p : GuardPolicy) (log : List (Deal σ)) : Prop :=
  ∀ d ∈ log, ∀ word word', d.wrote? = some (word, word') →
    ¬ Takes p word word' ∧ word' = flagged word ∧ holderOf word' = holderOf word

theorem not_takes_flagged (valid : p.canClaim = true) {word : UInt32} (held : word ≠ 0)
    (alone : hasWaiters word = false) : ¬ Takes p word (flagged word) := by
  rintro (⟨free, -⟩ | same)
  · exact held free
  · -- a takeover keeps the waiters bit as it was
    have kept := hasWaiters_takenOver (GuardPolicy.holderId_unflagged valid) word
    rw [← same, hasWaiters_flagged, alone] at kept
    cases kept

theorem Write.takes_or_flags {phase next : Phase} {word word' : UInt32}
    (write : Write p phase word word' next) :
    (Takes p word word' ∧ ∃ dead, next = .held dead) ∨
      ∃ began spins slice, phase = .flag began spins word slice ∧ word' = flagged word := by
  cases write with
  | claim => exact .inl ⟨.inl ⟨rfl, rfl⟩, none, rfl⟩
  | takeover began spins current => exact .inl ⟨.inr rfl, _, rfl⟩
  | flag began spins current slice => exact .inr ⟨began, spins, slice, rfl, rfl⟩

theorem takes_of_held {phase : Phase} {request : Request} {next : request.Reply → Phase}
    (asks : move p phase = .ask request next) {reply : request.Reply} {dead : Option UInt32}
    (stands : next reply = .held dead) (before after : σ) :
    ∃ word word', Deal.wrote? ⟨before, request, reply, after⟩ = some (word, word') ∧
      Takes p word word' := by
  cases phase <;> cases asks
  case attempt =>
    cases reply with
    | true => exact ⟨_, _, rfl, .inl ⟨rfl, rfl⟩⟩
    | false => cases stands
  case begin => cases stands
  case look => exact absurd stands (seen_ne_held _ _ _ _)
  case claim =>
    cases reply with
    | true => exact ⟨_, _, rfl, .inl ⟨rfl, rfl⟩⟩
    | false => cases stands
  case ask => cases reply <;> cases stands
  case takeover =>
    cases reply with
    | true => exact ⟨_, _, rfl, .inr rfl⟩
    | false => cases stands
  case measure => exact absurd stands (measured_ne_held _ _ _ _ _)
  case flag => cases reply <;> cases stands
  case park => cases stands

section Attempts

variable {Fair : List (Deal σ) → Deal σ → Prop} {log : List (Deal σ)} {phase : Phase}

theorem Attempt.canClaim {d : Deal σ} (attempt : Attempt p Fair (d :: log) phase) :
    p.canClaim = true := by
  by_contra invalid
  have none := (attempt.refused (by simpa using invalid)).1
  cases none

theorem Attempt.onlyFlags (attempt : Attempt p Fair log phase)
    (without : ∀ dead, phase ≠ .held dead) : OnlyFlags p log := by
  induction attempt with
  | start =>
    intro d mem
    cases mem
  | @deal log phase attempt before after request next asks reply fair ih =>
    have earlier : OnlyFlags p log := by
      apply ih
      rintro dead rfl
      cases asks
    intro d mem word word' wrote
    rcases List.mem_cons.mp mem with rfl | mem
    · have valid := (Attempt.deal attempt asks fair).canClaim
      obtain ⟨-, dead, stands⟩ | ⟨began, spins, slice, rfl, rfl⟩ :=
        (write_of_asks asks wrote).takes_or_flags
      · exact absurd stands (without dead)
      · obtain ⟨⟨-, held, alone⟩, -⟩ := attempt.rests
        exact ⟨not_takes_flagged valid held alone, rfl, holderOf_flagged word⟩
    · exact earlier d mem word word' wrote

/-- A contender that has the word got it by its newest deal, and before that it has only set waiters
bits. -/
theorem Attempt.taken {dead : Option UInt32} (attempt : Attempt p Fair log (.held dead)) :
    ∃ d earlier word word', log = d :: earlier ∧ d.wrote? = some (word, word') ∧
      Takes p word word' ∧ OnlyFlags p earlier := by
  generalize stands : Phase.held dead = phase at attempt
  cases attempt with
  | start => exact absurd stands.symm (start_ne_held p dead)
  | @deal log phase attempt before after request next asks reply fair =>
    obtain ⟨word, word', wrote, takes⟩ := takes_of_held asks stands.symm before after
    refine ⟨_, log, word, word', rfl, wrote, takes, attempt.onlyFlags ?_⟩
    rintro dead' rfl
    cases asks

end Attempts

/-! ## Attempts that keep to the protocol -/

/-- What a contender has done among strangers that has dealt as in `log` and stands in `phase`. -/
structure Disciplined (p : GuardPolicy) (log : List (Deal UInt32)) (phase : Phase) : Prop where
  /-- Every write replaces the word that it is warranted for by what was dealt before it. -/
  writes : ∀ {later d earlier word word'}, log = later ++ d :: earlier →
    d.wrote? = some (word, word') → d.before = word ∧ d.after = word' ∧
      Warranted p earlier word word'
  /-- A contender that has the word made it its own by its newest deal and by no other. -/
  held : ∀ {dead}, phase = .held dead → ∃ d earlier word word', log = d :: earlier ∧
    d.wrote? = some (word, word') ∧ Takes p word word' ∧ OnlyFlags p earlier
  /-- A contender that gives up never made the word its own, has waited for as long as its policy
  says, and names the holder of a word that it loaded and found alive. -/
  timedOut : ∀ {holder waited}, phase = .timedOut holder waited → OnlyFlags p log ∧
    (∃ limit, p.timeout = some limit ∧ limit.nanos ≤ waited.nanos) ∧
    waited = ⟨elapsed log⟩ ∧ ∃ word, Measured log word ∧ holderOf word = holder
  /-- A contender whose number a word cannot carry is refused, and does not touch the word. -/
  refused : p.holderId = 0 ∨ p.holderId &&& waiters ≠ 0 → log = [] ∧
    Record.claimed phase.ending = Op.fail GuardPolicy.holderIdError

theorem canClaim_eq_false (invalid : p.holderId = 0 ∨ p.holderId &&& waiters ≠ 0) :
    p.canClaim = false := by
  rcases invalid with zero | flag
  · simp [GuardPolicy.canClaim, zero]
  · simp [GuardPolicy.canClaim, flag]

/-- Whatever others do to the word, a contender keeps to the protocol. -/
theorem Exposed.disciplined {log : List (Deal UInt32)} {phase : Phase}
    (attempt : Exposed p log phase) : Disciplined p log phase where
  writes := by
    rintro later d earlier word word' rfl wrote
    obtain ⟨stood, attempt, -⟩ := Attempt.split attempt
    cases attempt with
    | deal attempt asks answered =>
      obtain ⟨before, after⟩ := answered.exchanged wrote
      exact ⟨before, after, (write_of_asks asks wrote).warranted attempt.rests⟩
  held := by
    rintro dead rfl
    exact Attempt.taken attempt
  timedOut := by
    rintro holder waited rfl
    obtain ⟨found, time, late⟩ := Attempt.rests attempt
    refine ⟨Attempt.onlyFlags attempt (by simp), exists_limit_of_slice? late, time, found⟩
  refused := by
    intro invalid
    obtain ⟨none, rfl⟩ := Attempt.refused attempt (canClaim_eq_false invalid)
    exact ⟨none, rfl⟩

/-- The deals of contender 7 with a word that others change between any two of them: it flags the
word of 9 and parks, fails to take over the word of the dead 5, fails to claim a free word without
a cause, and claims it at last. -/
def disturbedLog : List (Deal UInt32) :=
  [⟨0, .exchange true 0 7, true, 7⟩,
    ⟨0, .load, (0 : UInt32), 0⟩,
    ⟨0, .exchange true 0 7, false, 0⟩,
    ⟨0, .load, (0 : UInt32), 0⟩,
    ⟨flagged 5, .exchange false 5 (takenOver 7 5), false, flagged 5⟩,
    ⟨0, .probe 5, false, 0⟩,
    ⟨5, .load, (5 : UInt32), 5⟩,
    ⟨flagged 9, .park (flagged 9) ⟨1000000⟩, (), 4⟩,
    ⟨9, .exchange false 9 (flagged 9), true, flagged 9⟩,
    ⟨9, .clock, (30 : Nat), 9⟩,
    ⟨3, .probe 9, true, 3⟩,
    ⟨9, .load, (9 : UInt32), 9⟩,
    ⟨9, .clock, (20 : Nat), 9⟩,
    ⟨9, .exchange false 0 7, false, 9⟩]

theorem exposed_disturbedLog : Exposed (impatient 7) disturbedLog (.held none) := by
  apply attempt_of_replay
  · decide
  · exact ⟨.served (.exchanged true 7), .served .load, .served (.kept 7 (.inr rfl)), .served .load,
      .served (.kept _ (.inl (by decide))), .probed 0 5 false, .served .load, .parked _ _ _ _,
      .served (.exchanged false _), .served (.clock 30), .probed 3 9 true, .served .load,
      .served (.clock 20), .served (.kept 7 (.inl (by decide))), trivial⟩

/-- A contender that others disturb gets the word in the end, and has flagged one before. -/
theorem disciplined_disturbedLog :
    disturbedLog.filterMap Deal.wrote? = [(0, 7), (9, flagged 9)] ∧
      Disciplined (impatient 7) disturbedLog (.held none) :=
  ⟨by decide, exposed_disturbedLog.disciplined⟩

end Guard

end Interprocess
