import Interprocess.Proofs.Guard.Alone
import Interprocess.Proofs.Guard.Attempts
import Mathlib.Algebra.Order.Group.Nat

/-!
# How long a contender waits

An attempt at a word that nobody else changes, under a clock that may run on between any two
operations and parks that may last longer than asked (`Undisturbed`).

A free word and that of a dead holder are taken whatever the limit on the wait is. For a live
holder a contender parks in slices until the limit has gone by. Each park makes the wait longer by
a whole slice or up to the limit, so the limit bounds the number of parks, and with it the number of
passes of the loop (`lookBound`).
-/

namespace Interprocess

namespace Guard

/-! ## Surroundings that nobody disturbs -/

/-- A guard word and a clock. -/
structure Scene where
  word : UInt32
  now : Nat
  deriving DecidableEq

/-- How the word and the clock answer a request while nobody else touches the word. A park on the
word as it is lasts at least as long as asked, and a weak exchange may fail without a cause. -/
inductive Calm (probe : Probe) : Deal Scene → Prop where
  | load (s : Scene) : Calm probe ⟨s, .load, s.word, s⟩
  | exchanged (s : Scene) (weak : Bool) {expected : UInt32} (desired : UInt32)
      (expects : s.word = expected) :
      Calm probe ⟨s, .exchange weak expected desired, true, { s with word := desired }⟩
  | kept (s : Scene) {weak : Bool} {expected : UInt32} (desired : UInt32)
      (fails : s.word ≠ expected ∨ weak = true) :
      Calm probe ⟨s, .exchange weak expected desired, false, s⟩
  | clock (s : Scene) : Calm probe ⟨s, .clock, s.now, s⟩
  | probed (s : Scene) (holder : UInt32) : Calm probe ⟨s, .probe holder, probe.isAlive holder, s⟩
  | parked (s : Scene) {expected : UInt32} {limit : Duration} {later : Nat} (passes : s.now ≤ later)
      (lasts : s.word = expected → s.now + limit.nanos ≤ later) :
      Calm probe ⟨s, .park expected limit, (), { s with now := later }⟩

def latest (start : Scene) : List (Deal Scene) → Scene
  | [] => start
  | d :: _ => d.after

/-- A deal finds the word as the last one left it, and the clock there or later. -/
structure Undisturbed (probe : Probe) (start : Scene) (log : List (Deal Scene)) (d : Deal Scene) :
    Prop where
  word : d.before.word = (latest start log).word
  passes : (latest start log).now ≤ d.before.now
  calm : Calm probe d

/-- An attempt at a word that nobody else changes. -/
abbrev Secluded (p : GuardPolicy) (start : Scene) : List (Deal Scene) → Phase → Prop :=
  Attempt p (Undisturbed p.probe start)

theorem exists_undisturbed (probe : Probe) (start : Scene) (log : List (Deal Scene))
    (request : Request) :
    ∃ before reply after, Undisturbed probe start log ⟨before, request, reply, after⟩ := by
  have answered {reply : request.Reply} {after : Scene}
      (calm : Calm probe ⟨latest start log, request, reply, after⟩) :
      ∃ before reply after, Undisturbed probe start log ⟨before, request, reply, after⟩ :=
    ⟨_, _, _, rfl, Nat.le_refl _, calm⟩
  cases request with
  | load => exact answered (.load _)
  | exchange weak expected desired =>
    by_cases expects : (latest start log).word = expected
    · exact answered (.exchanged _ weak desired expects)
    · exact answered (.kept _ desired (.inl expects))
  | clock => exact answered (.clock _)
  | probe holder => exact answered (.probed _ holder)
  | park expected limit =>
    exact answered (.parked _ (Nat.le_add_right _ _) fun _ => Nat.le_refl _)

theorem Secluded.goesOn {p : GuardPolicy} {start : Scene} {log : List (Deal Scene)} {phase : Phase}
    (attempt : Secluded p start log phase) (undone : move p phase ≠ .done) :
    ∃ d phase', Secluded p start (d :: log) phase' := by
  cases asks : move p phase with
  | done => exact absurd asks undone
  | ask request next =>
    obtain ⟨before, reply, after, fair⟩ := exists_undisturbed p.probe start log request
    exact ⟨_, _, attempt.deal asks fair⟩

/-! ## What holds during a wait -/

/-- How many parks a limit has room for, the last of which may be cut short. -/
def slices (p : GuardPolicy) (limit : Duration) : Nat :=
  (limit.nanos + p.parkSlice.nanos - 1) / p.parkSlice.nanos

theorem slices_zero (p : GuardPolicy) : slices p .zero = 0 := by
  have none : Duration.zero.nanos = 0 := rfl
  unfold slices
  rw [none, Nat.div_eq_zero_iff]
  omega

section Waits

variable (p : GuardPolicy) (start : Scene) (log : List (Deal Scene))

/-- The word once a contender has parked, or as it was. -/
def waitedWord : UInt32 := if parks log = 0 then start.word else flagged start.word

/-- A contender has found the word held and has parked for a live holder only. All its passes but
`pass` ended in a spin or a park. -/
structure Course (spins : UInt32) (pass : Nat) : Prop where
  held : start.word ≠ 0
  lives : parks log = 0 ∨ p.probe.isAlive (holderOf start.word) = true
  few : ∀ limit, p.timeout = some limit → parks log ≤ slices p limit
  spun : spins ≤ p.spinLimit
  looked : looks log = spins.toNat + parks log + pass

/-- All the parks took their time, up to the limit. -/
def Rested (began now : Nat) : Prop :=
  ∀ limit, p.timeout = some limit →
    began + min (parks log * p.parkSlice.nanos) limit.nanos ≤ now

/-- There was time left when the clock was read. -/
def Early (began now : Nat) : Prop :=
  ∀ limit, p.timeout = some limit → parks log * p.parkSlice.nanos ≤ elapsed log ∧
    elapsed log < limit.nanos ∧ began + elapsed log ≤ now

/-- What holds of a contender in each phase: how often it has looked at the word, what the word is,
and how long it has waited. -/
def Phase.Stands : Phase → Prop
  | attempt => log = []
  | begin => start.word ≠ 0 ∧ (latest start log).word = start.word ∧ looks log = 0 ∧ parks log = 0
  | look began spins => Course p start log spins 0 ∧
      (latest start log).word = waitedWord start log ∧ Rested p log began (latest start log).now
  | claim .. => False
  | ask began spins current => Course p start log spins 1 ∧
      ((latest start log).word = current ∧ current = waitedWord start log) ∧
      Rested p log began (latest start log).now
  | takeover _ spins current => Course p start log spins 1 ∧
      ((latest start log).word = current ∧ current = waitedWord start log) ∧
      p.probe.isAlive (holderOf start.word) = false
  | measure began spins current => Course p start log spins 1 ∧
      ((latest start log).word = current ∧ current = waitedWord start log) ∧
      p.probe.isAlive (holderOf start.word) = true ∧ Rested p log began (latest start log).now
  | flag began spins current _ => Course p start log spins 1 ∧
      ((latest start log).word = current ∧ current = waitedWord start log) ∧
      p.probe.isAlive (holderOf start.word) = true ∧ Early p log began (latest start log).now
  | park began spins expected _ => Course p start log spins 1 ∧
      ((latest start log).word = expected ∧ expected = flagged start.word) ∧
      p.probe.isAlive (holderOf start.word) = true ∧ Early p log began (latest start log).now
  | held none =>
    start.word = 0 ∧ (latest start log).word = p.holderId ∧ looks log = 0 ∧ parks log = 0
  | held (some holder) => (∃ spins, Course p start log spins 1) ∧
      (latest start log).word = takenOver p.holderId start.word ∧ holder = holderOf start.word ∧
      p.probe.isAlive (holderOf start.word) = false
  | timedOut holder _ => (∃ spins, Course p start log spins 1) ∧
      (latest start log).word = waitedWord start log ∧ holder = holderOf start.word ∧
      p.probe.isAlive (holderOf start.word) = true
  | refused => False

end Waits

section Words

variable {start : Scene} {log : List (Deal Scene)}

theorem waitedWord_ne_zero (held : start.word ≠ 0) : waitedWord start log ≠ 0 := by
  unfold waitedWord
  split
  · exact held
  · exact flagged_ne_zero start.word

theorem holderOf_waitedWord : holderOf (waitedWord start log) = holderOf start.word := by
  unfold waitedWord
  split
  · rfl
  · exact holderOf_flagged start.word

theorem flagged_waitedWord : flagged (waitedWord start log) = flagged start.word := by
  unfold waitedWord
  split
  · rfl
  · exact flagged_flagged start.word

end Words

/-! ## Slices of the wait -/

section Slices

variable {p : GuardPolicy} {start : Scene} {log : List (Deal Scene)} {began now : Nat}

theorem lt_of_slice? {waited slice limit : Duration} (early : slice? p waited = some slice)
    (bounded : p.timeout = some limit) :
    waited.nanos < limit.nanos ∧
      slice.nanos = min p.parkSlice.nanos (limit.nanos - waited.nanos) := by
  simp only [slice?, bounded] at early
  split at early
  · cases early
  · cases early
    exact ⟨by omega, Duration.nanos_shorter _ _⟩

theorem parkSlice_pos (valid : p.validate = .ok ()) : 0 < p.parkSlice.nanos := by
  unfold GuardPolicy.validate at valid
  split at valid
  · cases valid
  · split at valid
    · cases valid
    · omega

theorem lt_slices (valid : p.validate = .ok ()) {limit : Duration} {n : Nat}
    (fits : n * p.parkSlice.nanos < limit.nanos) : n < slices p limit := by
  have some := parkSlice_pos valid
  unfold slices
  rw [Nat.lt_iff_add_one_le, Nat.le_div_iff_mul_le some, Nat.add_mul]
  omega

theorem Rested.later {now' : Nat} (rested : Rested p log began now) (passes : now ≤ now') :
    Rested p log began now' := fun limit bounded => (rested limit bounded).trans passes

theorem Rested.early {slice : Duration} {d : Deal Scene} (rested : Rested p log began now)
    (parked : parks (d :: log) = parks log) (time : elapsed (d :: log) = now - began)
    (left : slice? p ⟨now - began⟩ = some slice) : Early p (d :: log) began now := by
  intro limit bounded
  have waited := rested limit bounded
  have before := (lt_of_slice? left bounded).1
  rw [parked, time]
  dsimp only at before
  omega

theorem Early.later {now' : Nat} {d : Deal Scene} (early : Early p log began now)
    (passes : now ≤ now') (parked : parks (d :: log) = parks log)
    (time : elapsed (d :: log) = elapsed log) : Early p (d :: log) began now' := by
  intro limit bounded
  have before := early limit bounded
  rw [parked, time]
  omega

theorem Early.lt_slices (valid : p.validate = .ok ()) (early : Early p log began now) :
    ∀ limit, p.timeout = some limit → parks log < slices p limit := by
  intro limit bounded
  obtain ⟨waited, before, -⟩ := early limit bounded
  apply Guard.lt_slices valid
  omega

theorem Early.rested {slice : Duration} {d : Deal Scene} {later : Nat}
    (early : Early p log began now) (left : slice? p ⟨elapsed log⟩ = some slice)
    (parked : parks (d :: log) = parks log + 1) (lasts : now + slice.nanos ≤ later) :
    Rested p (d :: log) began later := by
  intro limit bounded
  obtain ⟨waited, -, since⟩ := early limit bounded
  have length := (lt_of_slice? left bounded).2
  rw [parked, Nat.add_mul, Nat.one_mul]
  dsimp only at length
  omega

end Slices

/-! ## Each deal keeps it -/

section Deals

variable {p : GuardPolicy} {start : Scene} {log : List (Deal Scene)} {d : Deal Scene}
  {spins : UInt32} {pass : Nat}

theorem Course.deal (course : Course p start log spins pass) (looked : looks (d :: log) = looks log)
    (parked : parks (d :: log) = parks log) : Course p start (d :: log) spins pass where
  held := course.held
  lives := by simpa only [parked] using course.lives
  few := by simpa only [parked] using course.few
  spun := course.spun
  looked := by rw [looked, parked, course.looked]

theorem Course.look (course : Course p start log spins 0)
    (looked : looks (d :: log) = looks log + 1) (parked : parks (d :: log) = parks log) :
    Course p start (d :: log) spins 1 where
  held := course.held
  lives := by simpa only [parked] using course.lives
  few := by simpa only [parked] using course.few
  spun := course.spun
  looked := by rw [looked, parked, course.looked]

theorem Course.spin (course : Course p start log spins 1) (more : spins < p.spinLimit) :
    Course p start log (spins + 1) 0 where
  held := course.held
  lives := course.lives
  few := course.few
  spun := by
    rw [UInt32.le_iff_toNat_le, toNat_add_one_of_lt more]
    exact more
  looked := by
    rw [course.looked, toNat_add_one_of_lt more]
    omega

theorem Course.park (course : Course p start log spins 1)
    (alive : p.probe.isAlive (holderOf start.word) = true)
    (fits : ∀ limit, p.timeout = some limit → parks log < slices p limit)
    (looked : looks (d :: log) = looks log) (parked : parks (d :: log) = parks log + 1) :
    Course p start (d :: log) spins 0 where
  held := course.held
  lives := .inr alive
  few := by
    intro limit bounded
    rw [parked]
    exact fits limit bounded
  spun := course.spun
  looked := by
    rw [looked, parked, course.looked]
    omega

/-- Nobody parks for a dead holder, so the word is still as it was. -/
theorem Course.untouched (course : Course p start log spins pass)
    (dead : p.probe.isAlive (holderOf start.word) = false) : waitedWord start log = start.word := by
  have none : parks log = 0 := by
    apply course.lives.resolve_right
    rw [dead]
    exact Bool.false_ne_true
  rw [waitedWord, if_pos none]

theorem stands_begun {began : Nat} (held : start.word ≠ 0) (none : parks log = 0)
    (looked : looks log = 0) (same : (latest start log).word = start.word)
    (since : began ≤ (latest start log).now) : (Phase.look began 0).Stands p start log := by
  refine ⟨⟨held, .inl none, ?_, UInt32.zero_le, ?_⟩, ?_, ?_⟩
  · intro limit _
    rw [none]
    exact Nat.zero_le _
  · rw [looked, none]
    rfl
  · rw [waitedWord, if_pos none, same]
  · intro limit _
    rw [none, Nat.zero_mul, Nat.zero_min]
    exact since

theorem stands_seen {began : Nat} {current : UInt32} (course : Course p start log spins 1)
    (here : (latest start log).word = current ∧ current = waitedWord start log)
    (rested : Rested p log began (latest start log).now) :
    (seen p began spins current).Stands p start log := by
  have held : current ≠ 0 := here.2 ▸ waitedWord_ne_zero course.held
  simp only [seen, if_neg held]
  split
  · next more => exact ⟨course.spin more, here.1.trans here.2, rested⟩
  · exact ⟨course, here, rested⟩

theorem stands_measured {began now : Nat} {current : UInt32} (course : Course p start log spins 1)
    (here : (latest start log).word = current ∧ current = waitedWord start log)
    (alive : p.probe.isAlive (holderOf start.word) = true)
    (early : ∀ slice, slice? p ⟨now - began⟩ = some slice →
      Early p log began (latest start log).now) :
    (measured p began spins current now).Stands p start log := by
  simp only [measured]
  split
  · refine ⟨⟨spins, course⟩, here.1.trans here.2, ?_, alive⟩
    rw [here.2, holderOf_waitedWord]
  · next slice left =>
    split
    · next waits =>
      refine ⟨course, ⟨here.1, ?_⟩, alive, early slice left⟩
      rw [← flagged_of_hasWaiters waits, here.2, flagged_waitedWord]
    · exact ⟨course, here, alive, early slice left⟩

theorem stands_of_asks (valid : p.validate = .ok ()) {phase : Phase}
    (clocked : phase.Clocked log) (rests : phase.Rests p log) (stands : phase.Stands p start log)
    {request : Request} {next : request.Reply → Phase} (asks : move p phase = .ask request next)
    {reply : request.Reply} {before after : Scene}
    (fair : Undisturbed p.probe start log ⟨before, request, reply, after⟩) :
    (next reply).Stands p start (⟨before, request, reply, after⟩ :: log) := by
  obtain ⟨word, passes, calm⟩ := fair
  dsimp only at word passes
  cases phase <;> cases asks
  case attempt =>
    cases stands
    cases calm with
    | exchanged s weak desired expects => exact ⟨word.symm.trans expects, rfl, rfl, rfl⟩
    | kept s desired fails =>
      have held := fails.resolve_right Bool.false_ne_true
      rw [word] at held
      exact ⟨held, word, rfl, rfl⟩
  case begin =>
    obtain ⟨held, same, looked, parked⟩ := stands
    cases calm
    exact stands_begun held parked looked (word.trans same) (Nat.le_refl _)
  case look began spins =>
    obtain ⟨course, same, rested⟩ := stands
    cases calm
    exact stands_seen (course.look rfl rfl) ⟨rfl, word.trans same⟩ (rested.later passes)
  case claim => exact stands.elim
  case ask began spins current =>
    obtain ⟨course, ⟨here, same⟩, rested⟩ := stands
    have holder : holderOf current = holderOf start.word := by rw [same, holderOf_waitedWord]
    cases calm
    rw [holder]
    cases alive : p.probe.isAlive (holderOf start.word) with
    | true =>
      exact ⟨course.deal rfl rfl, ⟨word.trans here, same⟩, alive, rested.later passes⟩
    | false => exact ⟨course.deal rfl rfl, ⟨word.trans here, same⟩, alive⟩
  case takeover began spins current =>
    obtain ⟨course, ⟨here, same⟩, dead⟩ := stands
    cases calm with
    | exchanged s weak desired expects =>
      obtain rfl : current = start.word := same.trans (course.untouched dead)
      exact ⟨⟨spins, course.deal rfl rfl⟩, rfl, rfl, dead⟩
    | kept s desired fails =>
      exact absurd (word.trans here) (fails.resolve_right Bool.false_ne_true)
  case measure began spins current =>
    obtain ⟨course, ⟨here, same⟩, alive, rested⟩ := stands
    cases calm
    exact stands_measured (course.deal rfl rfl) ⟨word.trans here, same⟩ alive fun slice left =>
      (rested.later passes).early rfl (elapsed_clock clocked) left
  case flag began spins current slice =>
    obtain ⟨course, ⟨here, same⟩, alive, early⟩ := stands
    cases calm with
    | exchanged s weak desired expects =>
      refine ⟨course.deal rfl rfl, ⟨rfl, ?_⟩, alive, early.later passes rfl rfl⟩
      rw [same, flagged_waitedWord]
    | kept s desired fails =>
      exact absurd (word.trans here) (fails.resolve_right Bool.false_ne_true)
  case park began spins expected slice =>
    obtain ⟨course, ⟨here, same⟩, alive, early⟩ := stands
    cases calm with
    | @parked s _ _ later lasts slept =>
      have long := slept (word.trans here)
      refine ⟨course.park alive (early.lt_slices valid) rfl rfl, word.trans (here.trans same), ?_⟩
      exact early.rested rests rfl (Nat.le_trans (Nat.add_le_add_right passes _) long)

theorem Secluded.stands (valid : p.validate = .ok ()) {phase : Phase}
    (attempt : Secluded p start log phase) : phase.Stands p start log := by
  induction attempt with
  | start =>
    rw [Phase.start, if_pos (GuardPolicy.canClaim_of_validate valid)]
    rfl
  | deal attempt asks fair ih =>
    exact stands_of_asks valid attempt.clocked attempt.rests ih asks fair

end Deals

/-! ## How an attempt ends, and when -/

/-- The most often that a contender looks at a word that nobody else changes. There is no such bound
for a live holder that may be waited for without a limit. -/
def lookBound (p : GuardPolicy) (word : UInt32) : Option Nat :=
  if word = 0 then some 0
  else if p.probe.isAlive (holderOf word) then
    p.timeout.map fun limit => p.spinLimit.toNat + slices p limit + 1
  else some (p.spinLimit.toNat + 1)

/-- How an attempt ends at a word that nobody else changes. -/
inductive Concluded (p : GuardPolicy) (start : Scene) (log : List (Deal Scene)) : Phase → Prop where
  | free (free : start.word = 0) (word : (latest start log).word = p.holderId) :
      Concluded p start log (.held none)
  | takenOver (held : start.word ≠ 0) (dead : p.probe.isAlive (holderOf start.word) = false)
      (word : (latest start log).word = Guard.takenOver p.holderId start.word) :
      Concluded p start log (.held (some (holderOf start.word)))
  /-- The holder lives and was waited for up to the limit. The word has the waiters bit if the
  contender parked, and otherwise it is as it was. -/
  | timedOut (held : start.word ≠ 0) (alive : p.probe.isAlive (holderOf start.word) = true)
      {limit waited : Duration} (bounded : p.timeout = some limit)
      (reached : limit.nanos ≤ waited.nanos) (time : waited = ⟨elapsed log⟩)
      (word : (latest start log).word =
        if parks log = 0 then start.word else flagged start.word) :
      Concluded p start log (.timedOut (holderOf start.word) waited)

/-- What holds of a contender that has dealt as in `log` and stands in `phase`. -/
structure Patient (p : GuardPolicy) (start : Scene) (log : List (Deal Scene)) (phase : Phase) :
    Prop where
  ends : move p phase = .done → Concluded p start log phase
  goesOn : move p phase ≠ .done → ∃ d phase', Secluded p start (d :: log) phase'
  /-- Together with the next bound this leaves no room for an attempt that never ends. -/
  looks : ∀ bound ∈ lookBound p start.word, looks log ≤ bound
  length : log.length ≤ 2 + 5 * Guard.looks log
  /-- The rest of the limit is only taken while there is one. -/
  inTime : ∀ {limit began spins word slice}, p.timeout = some limit →
    phase = .flag began spins word slice ∨ phase = .park began spins word slice →
      elapsed log < limit.nanos ∧
        slice.nanos = min p.parkSlice.nanos (limit.nanos - elapsed log)
  /-- No park is longer than the policy says, nor than the time that was left. -/
  parked : ∀ {limit later d earlier slice}, p.timeout = some limit → log = later ++ d :: earlier →
    Deal.parked? d = some slice → slice.nanos ≤ p.parkSlice.nanos ∧
      elapsed earlier + slice.nanos ≤ limit.nanos
  /-- Without time to wait a contender does not park, and it parks for no dead holder. -/
  awake : p.timeout = some .zero ∨ p.probe.isAlive (holderOf start.word) = false → parks log = 0

section Conclusion

variable {p : GuardPolicy} {start : Scene} {log : List (Deal Scene)} {phase : Phase}

theorem Phase.Stands.course (stands : phase.Stands p start log) :
    (looks log = 0 ∧ parks log = 0) ∨ ∃ spins pass, pass ≤ 1 ∧ Course p start log spins pass := by
  cases phase with
  | attempt =>
    cases stands
    exact .inl ⟨rfl, rfl⟩
  | begin => exact .inl stands.2.2
  | look began spins => exact .inr ⟨spins, 0, Nat.zero_le 1, stands.1⟩
  | claim => exact stands.elim
  | ask began spins => exact .inr ⟨spins, 1, Nat.le_refl 1, stands.1⟩
  | takeover began spins => exact .inr ⟨spins, 1, Nat.le_refl 1, stands.1⟩
  | measure began spins => exact .inr ⟨spins, 1, Nat.le_refl 1, stands.1⟩
  | flag began spins => exact .inr ⟨spins, 1, Nat.le_refl 1, stands.1⟩
  | park began spins => exact .inr ⟨spins, 1, Nat.le_refl 1, stands.1⟩
  | held dead =>
    cases dead with
    | none => exact .inl stands.2.2
    | some holder =>
      obtain ⟨spins, course⟩ := stands.1
      exact .inr ⟨spins, 1, Nat.le_refl 1, course⟩
  | timedOut =>
    obtain ⟨spins, course⟩ := stands.1
    exact .inr ⟨spins, 1, Nat.le_refl 1, course⟩
  | refused => exact stands.elim

theorem Phase.Stands.looks_le (stands : phase.Stands p start log) :
    ∀ bound ∈ lookBound p start.word, looks log ≤ bound := by
  intro bound bounds
  rcases stands.course with ⟨none, -⟩ | ⟨spins, pass, few, course⟩
  · omega
  · have looked := course.looked
    have spun := UInt32.le_iff_toNat_le.mp course.spun
    simp only [lookBound, if_neg course.held] at bounds
    split at bounds
    · obtain ⟨limit, bounded, rfl⟩ := Option.map_eq_some_iff.mp bounds
      have parked := course.few limit bounded
      omega
    · next dead =>
      cases bounds
      have none := course.lives.resolve_right dead
      omega

theorem Phase.Stands.awake (stands : phase.Stands p start log)
    (idle : p.timeout = some .zero ∨ p.probe.isAlive (holderOf start.word) = false) :
    parks log = 0 := by
  rcases stands.course with ⟨-, none⟩ | ⟨spins, pass, -, course⟩
  · exact none
  · rcases idle with bounded | dead
    · have few := course.few _ bounded
      rwa [slices_zero, Nat.le_zero_eq] at few
    · refine course.lives.resolve_right ?_
      rw [dead]
      exact Bool.false_ne_true

theorem Phase.Stands.concluded (stands : phase.Stands p start log) (rests : phase.Rests p log)
    (done : move p phase = .done) : Concluded p start log phase := by
  cases phase with
  | held dead =>
    cases dead with
    | none => exact .free stands.1 stands.2.1
    | some holder =>
      obtain ⟨⟨spins, course⟩, word, rfl, dead⟩ := stands
      exact .takenOver course.held dead word
  | timedOut holder waited =>
    obtain ⟨⟨spins, course⟩, word, rfl, alive⟩ := stands
    obtain ⟨-, time, late⟩ := rests
    obtain ⟨limit, bounded, reached⟩ := exists_limit_of_slice? late
    exact .timedOut course.held alive bounded reached time word
  | refused => exact stands.elim
  | _ => cases done

/-- A contender that nobody disturbs takes a word that is free or whose holder is dead, and waits
for a live holder as long as its policy says and no longer. -/
theorem Secluded.patient (valid : p.validate = .ok ()) (attempt : Secluded p start log phase) :
    Patient p start log phase where
  ends := (attempt.stands valid).concluded attempt.rests
  goesOn := attempt.goesOn
  looks := (attempt.stands valid).looks_le
  length := Nat.le_of_add_right_le attempt.length_le
  inTime := by
    rintro limit began spins word slice bounded (rfl | rfl)
    · exact lt_of_slice? attempt.rests.2 bounded
    · exact lt_of_slice? attempt.rests bounded
  parked := by
    rintro limit later d earlier slice bounded rfl parked
    obtain ⟨stood, attempt, -⟩ := attempt.split
    cases attempt with
    | deal attempt asks fair =>
      obtain ⟨began, spins, expected, rfl⟩ := stood_of_parked asks parked
      obtain ⟨before, length⟩ := lt_of_slice? attempt.rests bounded
      dsimp only at before length
      omega
  awake := (attempt.stands valid).awake

/-- The policy of a contender that spins once, parks for two at a time and waits for three. -/
def brisk (holderId : UInt32) : GuardPolicy where
  spinLimit := 1
  parkSlice := ⟨2⟩
  timeout := some ⟨3⟩
  holderId := holderId
  probe := .deadList []

/-- The deals of contender 7 that waits for the live 9: it spins once, parks for two and for the one
that is left, and gives up. -/
def waitLog : List (Deal Scene) :=
  let parked (now : Nat) : Scene := ⟨flagged 9, now⟩
  [⟨parked 3, .clock, (3 : Nat), parked 3⟩,
    ⟨parked 3, .probe 9, true, parked 3⟩,
    ⟨parked 3, .load, flagged 9, parked 3⟩,
    ⟨parked 2, .park (flagged 9) ⟨1⟩, (), parked 3⟩,
    ⟨parked 2, .clock, (2 : Nat), parked 2⟩,
    ⟨parked 2, .probe 9, true, parked 2⟩,
    ⟨parked 2, .load, flagged 9, parked 2⟩,
    ⟨parked 0, .park (flagged 9) ⟨2⟩, (), parked 2⟩,
    ⟨⟨9, 0⟩, .exchange false 9 (flagged 9), true, parked 0⟩,
    ⟨⟨9, 0⟩, .clock, (0 : Nat), ⟨9, 0⟩⟩,
    ⟨⟨9, 0⟩, .probe 9, true, ⟨9, 0⟩⟩,
    ⟨⟨9, 0⟩, .load, (9 : UInt32), ⟨9, 0⟩⟩,
    ⟨⟨9, 0⟩, .load, (9 : UInt32), ⟨9, 0⟩⟩,
    ⟨⟨9, 0⟩, .clock, (0 : Nat), ⟨9, 0⟩⟩,
    ⟨⟨9, 0⟩, .exchange false 0 7, false, ⟨9, 0⟩⟩]

theorem secluded_waitLog : Secluded (brisk 7) ⟨9, 0⟩ waitLog (.timedOut 9 ⟨3⟩) := by
  have dealt {log : List (Deal Scene)} {d : Deal Scene}
      (calm : Calm (brisk 7).probe d) (word : d.before = latest ⟨9, 0⟩ log) :
      Undisturbed (brisk 7).probe ⟨9, 0⟩ log d :=
    ⟨congrArg Scene.word word, by rw [word], calm⟩
  have slept (now n : Nat) : Calm (brisk 7).probe
      ⟨⟨flagged 9, now⟩, .park (flagged 9) ⟨n⟩, (), ⟨flagged 9, now + n⟩⟩ :=
    .parked _ (Nat.le_add_right now n) fun _ => Nat.le_refl _
  apply attempt_of_replay
  · decide
  · exact ⟨dealt (.clock _) rfl, dealt (.probed _ 9) rfl, dealt (.load _) rfl,
      dealt (slept 2 1) rfl, dealt (.clock _) rfl, dealt (.probed _ 9) rfl, dealt (.load _) rfl,
      dealt (slept 0 2) rfl, dealt (.exchanged ⟨9, 0⟩ false (flagged 9) rfl) rfl,
      dealt (.clock _) rfl, dealt (.probed _ 9) rfl, dealt (.load _) rfl, dealt (.load _) rfl,
      dealt (.clock _) rfl, dealt (.kept _ 7 (.inl (by decide))) rfl, trivial⟩

/-- A contender that waits looks at the word as often as the bound allows. -/
theorem patient_waitLog :
    (looks waitLog = 4 ∧ lookBound (brisk 7) 9 = some 4) ∧
      Patient (brisk 7) ⟨9, 0⟩ waitLog (.timedOut 9 ⟨3⟩) :=
  ⟨⟨by decide, by decide⟩, secluded_waitLog.patient (by rfl)⟩

end Conclusion

/-! ## The contender that runs -/

theorem Quiet.calm (probe : Probe) (q : Quiet) (request : Request) :
    Calm probe ⟨⟨q.word, q.now⟩, request, (q.answer probe request).1,
      ⟨(q.answer probe request).2.word, (q.answer probe request).2.now⟩⟩ := by
  cases request with
  | load => exact .load _
  | exchange weak expected desired =>
    simp only [answer]
    split
    · next expects => exact .exchanged ⟨q.word, q.now⟩ weak desired expects
    · next differs => exact .kept _ desired (.inl differs)
  | clock => exact .clock _
  | probe holder => exact .probed _ holder
  | park expected limit =>
    simp only [answer]
    split
    · exact .parked ⟨q.word, q.now⟩ (Nat.le_add_right _ _) fun _ =>
        Nat.add_le_add_left (Nat.le_max_left _ _) _
    · next differs => exact .parked ⟨q.word, q.now⟩ (Nat.le_refl _) fun same => absurd same differs

/-- What a contender does that is run alone is an attempt at a word that nobody else changes. -/
theorem secluded_runOut {p : GuardPolicy} {start : Scene} (fuel : Nat) {log : List (Deal Scene)}
    {phase : Phase} {q : Quiet} (attempt : Secluded p start log phase)
    (here : latest start log = ⟨q.word, q.now⟩) :
    ∃ log', Secluded p start log' (runOut p fuel phase q).1 ∧
      latest start log' = ⟨(runOut p fuel phase q).2.word, (runOut p fuel phase q).2.now⟩ := by
  induction fuel generalizing log phase q with
  | zero => exact ⟨log, attempt, here⟩
  | succ fuel ih =>
    cases asks : move p phase with
    | done =>
      rw [runOut_of_done asks]
      exact ⟨log, attempt, here⟩
    | ask request next =>
      rw [runOut_of_ask asks]
      apply ih (attempt.deal asks ⟨?_, ?_, q.calm p.probe request⟩) rfl
      · rw [here]
      · rw [here]

theorem secluded_settle (p : GuardPolicy) (word : UInt32) :
    ∃ log phase, Secluded p ⟨word, 0⟩ log phase ∧
      settle p word = (phase.ending, (latest ⟨word, 0⟩ log).word) := by
  have begun : Secluded p ⟨word, 0⟩ [] (.start p) := .start
  obtain ⟨log, attempt, here⟩ := secluded_runOut (moveBound p) (q := .start word) begun rfl
  refine ⟨log, _, attempt, ?_⟩
  rw [here, settle_eq]

end Guard

end Interprocess
