import Interprocess.Guard.Claim
import Interprocess.Proofs.Guard.Word

/-!
# Claims that nobody disturbs

How a contender ends that is alone with a guard word (`settles`): it takes a free word and that of a
dead holder, and waits for a live one until its time is up. Each pass of its loop lets a slice of
time go by, so the bound on its moves is never reached as long as there is a limit on the wait; and
without one it is parked when the bound is reached. Whatever it does to the word of a live holder is
to set the waiters bit.
-/

namespace Interprocess

theorem Duration.nanos_shorter (d e : Duration) : (d.shorter e).nanos = min d.nanos e.nanos := by
  unfold shorter
  split <;> omega

namespace Guard

variable {p : GuardPolicy} {word : UInt32} {began now slack fuel : Nat} {spins : UInt32}

/-! ## Moves -/

abbrev runOut (p : GuardPolicy) (fuel : Nat) (phase : Phase) (q : Quiet) : Phase × Quiet :=
  runUntil p (fun _ => false) fuel phase q

theorem runOut_of_done {phase : Phase} (done : move p phase = .done) (fuel : Nat) (q : Quiet) :
    runOut p fuel phase q = (phase, q) := by
  cases fuel with
  | zero => rfl
  | succ fuel => simp [runOut, runUntil, done]

theorem runOut_of_ask {phase : Phase} {q : Quiet} {request : Request}
    {next : request.Reply → Phase} (asks : move p phase = .ask request next) :
    runOut p (fuel + 1) phase q =
      runOut p fuel (next (q.answer p.probe request).1) (q.answer p.probe request).2 := by
  simp only [runOut, runUntil, asks]
  rfl

/-! ## A pass of the loop -/

theorem runOut_look (held : word ≠ 0) :
    runOut p (fuel + 1) (.look began p.spinLimit) ⟨word, now, slack⟩ =
      runOut p fuel (.ask began p.spinLimit word) ⟨word, now, slack⟩ := by
  rw [runOut_of_ask rfl]
  simp only [Quiet.answer, seen, if_neg held, UInt32.lt_irrefl, if_false]

theorem runOut_spin (held : word ≠ 0) (few : spins ≤ p.spinLimit) :
    runOut p (p.spinLimit.toNat - spins.toNat + 1 + fuel) (.look began spins) ⟨word, now, slack⟩ =
      runOut p fuel (.ask began p.spinLimit word) ⟨word, now, slack⟩ := by
  generalize left : p.spinLimit.toNat - spins.toNat = looks
  -- on the number of looks that are left before the last one
  induction looks generalizing spins with
  | zero =>
    have last : spins = p.spinLimit := by
      rw [UInt32.le_iff_toNat_le] at few
      exact UInt32.toNat.inj (by omega)
    subst last
    rw [show 0 + 1 + fuel = fuel + 1 by omega, runOut_look held]
  | succ looks ih =>
    have more : spins < p.spinLimit := by
      rw [UInt32.lt_iff_toNat_lt]
      omega
    have next := toNat_add_one_of_lt more
    rw [show looks + 1 + 1 + fuel = looks + 1 + fuel + 1 by omega, runOut_of_ask rfl]
    simp only [Quiet.answer, seen, if_neg held, if_pos more]
    refine ih ?_ (by omega)
    rw [UInt32.le_iff_toNat_le]
    omega

theorem runOut_dead (dead : p.probe.isAlive (holderOf word) = false) :
    runOut p (fuel + 2) (.ask began spins word) ⟨word, now, slack⟩ =
      (.held (some (holderOf word)), ⟨takenOver p.holderId word, now, slack⟩) := by
  rw [runOut_of_ask rfl]
  simp only [Quiet.answer, dead, Bool.false_eq_true, if_false]
  rw [runOut_of_ask rfl]
  simp only [Quiet.answer, if_true]
  exact runOut_of_done rfl fuel _

theorem runOut_alive (alive : p.probe.isAlive (holderOf word) = true) (q : Quiet) :
    runOut p (fuel + 2) (.ask began spins word) q =
      runOut p fuel (measured p began spins word q.now) q := by
  rw [runOut_of_ask rfl]
  simp only [Quiet.answer, alive, if_true]
  rw [runOut_of_ask rfl]
  rfl

theorem runOut_late (alive : p.probe.isAlive (holderOf word) = true)
    (late : slice? p ⟨now - began⟩ = none) :
    runOut p (fuel + 2) (.ask began spins word) ⟨word, now, slack⟩ =
      (.timedOut (holderOf word) ⟨now - began⟩, ⟨word, now, slack⟩) := by
  rw [runOut_alive alive]
  simp only [measured, late]
  exact runOut_of_done rfl fuel _

section Parking

variable (alive : p.probe.isAlive (holderOf word) = true) {slice : Duration}
  (early : slice? p ⟨now - began⟩ = some slice) (fuel slack : Nat)

include alive early

theorem runOut_park (held : word ≠ 0) (waits : hasWaiters word = true) :
    runOut p (fuel + 4) (.ask began p.spinLimit word) ⟨word, now, slack⟩ =
      runOut p fuel (.ask began p.spinLimit word)
        ⟨word, now + max slice.nanos slack, slack⟩ := by
  rw [runOut_alive alive]
  simp only [measured, early, if_pos waits]
  rw [runOut_of_ask rfl]
  simp only [Quiet.answer, if_true]
  exact runOut_look held

theorem runOut_flag (alone : hasWaiters word = false) :
    runOut p (fuel + 5) (.ask began p.spinLimit word) ⟨word, now, slack⟩ =
      runOut p fuel (.ask began p.spinLimit (flagged word))
        ⟨flagged word, now + max slice.nanos slack, slack⟩ := by
  rw [runOut_alive alive]
  simp only [measured, early, alone, Bool.false_eq_true, if_false]
  rw [runOut_of_ask rfl]
  simp only [Quiet.answer, if_true]
  rw [runOut_of_ask rfl]
  simp only [Quiet.answer, if_true]
  exact runOut_look (flagged_ne_zero word)

theorem runOut_pass (held : word ≠ 0) :
    ∃ spare ≤ 1, runOut p (fuel + 5) (.ask began p.spinLimit word) ⟨word, now, slack⟩ =
      runOut p (fuel + spare) (.ask began p.spinLimit (flagged word))
        ⟨flagged word, now + max slice.nanos slack, slack⟩ := by
  cases waits : hasWaiters word with
  | true =>
    rw [flagged_of_hasWaiters waits]
    exact ⟨1, Nat.le_refl 1, runOut_park alive early (fuel + 1) slack held waits⟩
  | false => exact ⟨0, Nat.zero_le 1, runOut_flag alive early fuel slack waits⟩

end Parking

/-! ## Waits for a live holder -/

section Waits

variable (held : word ≠ 0) (alive : p.probe.isAlive (holderOf word) = true)

include held alive

/-- With a limit on the wait a contender gives up, once it has waited that long: it parks as often
as slices of the limit are left, and each time at least a slice goes by. -/
theorem runOut_limit {limit : Duration} (bounded : p.timeout = some limit) (since : began ≤ now)
    (slow : 0 < slack) {slices : Nat}
    (left : limit.nanos ≤ now - began + slices * max p.parkSlice.nanos 1) (fuel : Nat) :
    ∃ waited : Duration, limit.nanos ≤ waited.nanos ∧
      (runOut p (fuel + 5 * slices + 2) (.ask began p.spinLimit word) ⟨word, now, slack⟩).1 =
        .timedOut (holderOf word) waited ∧
      (runOut p (fuel + 5 * slices + 2) (.ask began p.spinLimit word) ⟨word, now, slack⟩).2.word =
        if limit.nanos ≤ now - began then word else flagged word := by
  induction slices generalizing word now fuel with
  | zero =>
    have passed : limit.nanos ≤ now - began := by omega
    have late : slice? p ⟨now - began⟩ = none := by simp only [slice?, bounded, if_pos passed]
    rw [runOut_late alive late, if_pos passed]
    exact ⟨_, passed, rfl, rfl⟩
  | succ slices ih =>
    by_cases passed : limit.nanos ≤ now - began
    · have late : slice? p ⟨now - began⟩ = none := by simp only [slice?, bounded, if_pos passed]
      rw [runOut_late alive late, if_pos passed]
      exact ⟨_, passed, rfl, rfl⟩
    · have early : slice? p ⟨now - began⟩ =
          some (p.parkSlice.shorter (limit.less ⟨now - began⟩)) := by
        simp only [slice?, bounded, if_neg passed]
      obtain ⟨spare, -, passes⟩ := runOut_pass alive early (fuel + 5 * slices + 2) slack held
      -- the slice is as long as the policy parks, or else all that is left of the limit
      have fewer : limit.nanos ≤
          now + max (p.parkSlice.shorter (limit.less ⟨now - began⟩)).nanos slack - began +
            slices * max p.parkSlice.nanos 1 := by
        rw [Nat.add_mul, Nat.one_mul] at left
        simp only [Duration.nanos_shorter, Duration.less]
        omega
      obtain ⟨waited, reached, ended, left'⟩ := ih (flagged_ne_zero word)
        ((holderOf_flagged word).symm ▸ alive) (Nat.le_add_right_of_le since) fewer (fuel + spare)
      rw [show fuel + 5 * (slices + 1) + 2 = fuel + 5 * slices + 2 + 5 by omega, passes,
        show fuel + 5 * slices + 2 + spare = fuel + spare + 5 * slices + 2 by omega, if_neg passed]
      refine ⟨waited, reached, ?_, ?_⟩
      · rw [ended, holderOf_flagged]
      · rw [left', flagged_flagged, ite_self]

theorem runOut_forever (unbounded : p.timeout = none) (began now slack : Nat) :
    (runOut p 9 (.ask began p.spinLimit word) ⟨word, now, slack⟩).1.ending = .parked ∧
      (runOut p 9 (.ask began p.spinLimit word) ⟨word, now, slack⟩).2.word = flagged word := by
  have early (waited : Duration) : slice? p waited = some p.parkSlice := by
    simp only [slice?, unbounded]
  obtain ⟨spare, few, passes⟩ := runOut_pass alive (early ⟨now - began⟩) 4 slack held
  have parks := runOut_park ((holderOf_flagged word).symm ▸ alive)
    (early ⟨now + max p.parkSlice.nanos slack - began⟩) spare slack (flagged_ne_zero word)
    (hasWaiters_flagged word)
  rw [passes, Nat.add_comm, parks]
  -- at most one more move is left, which asks for the holder
  rcases Nat.le_one_iff_eq_zero_or_eq_one.mp few with rfl | rfl
  · exact ⟨rfl, rfl⟩
  · rw [runOut_of_ask rfl]
    simp only [Quiet.answer, holderOf_flagged, alive, if_true]
    exact ⟨rfl, rfl⟩

end Waits

/-! ## How a claim ends -/

/-- How a contender that nobody disturbs ends at a word, and the word that it leaves. -/
inductive Settles (p : GuardPolicy) (word : UInt32) : Ending × UInt32 → Prop where
  /-- The word cannot carry the contender's number, and is not touched. -/
  | refused (invalid : p.canClaim = false) : Settles p word (.refused, word)
  | free (valid : p.canClaim = true) (free : word = 0) : Settles p word (.held none, p.holderId)
  | takenOver (valid : p.canClaim = true) (held : word ≠ 0)
      (dead : p.probe.isAlive (holderOf word) = false) :
      Settles p word (.held (some (holderOf word)), Guard.takenOver p.holderId word)
  /-- The holder lives, and was waited for as long as the policy says. -/
  | timedOut (valid : p.canClaim = true) (held : word ≠ 0)
      (alive : p.probe.isAlive (holderOf word) = true) {limit waited : Duration}
      (bounded : p.timeout = some limit) (reached : limit.nanos ≤ waited.nanos) :
      Settles p word
        (.timedOut (holderOf word) waited, if limit.nanos = 0 then word else flagged word)
  /-- The holder lives, and is waited for without a limit. -/
  | parked (valid : p.canClaim = true) (held : word ≠ 0)
      (alive : p.probe.isAlive (holderOf word) = true) (unbounded : p.timeout = none) :
      Settles p word (.parked, flagged word)

theorem settle_eq (p : GuardPolicy) (word : UInt32) :
    settle p word =
      ((runOut p (moveBound p) (Phase.start p) (.start word)).1.ending,
        (runOut p (moveBound p) (Phase.start p) (.start word)).2.word) := rfl

theorem settle_free (valid : p.canClaim = true) : settle p 0 = (.held none, p.holderId) := by
  have enough : 2 ≤ moveBound p := by
    simp only [moveBound]
    omega
  -- one move takes the word, and the next finds that nothing is left to do
  obtain ⟨fuel, enough⟩ := Nat.exists_eq_add_of_le' enough
  rw [settle_eq, enough, Phase.start, if_pos valid]
  rfl

theorem settle_held (valid : p.canClaim = true) (held : word ≠ 0) (fuel : Nat)
    (enough : moveBound p = p.spinLimit.toNat + 1 + fuel + 2) :
    settle p word =
      ((runOut p fuel (.ask 0 p.spinLimit word) (.start word)).1.ending,
        (runOut p fuel (.ask 0 p.spinLimit word) (.start word)).2.word) := by
  have lost : (Quiet.start word).answer p.probe (.exchange false 0 p.holderId) =
      (false, .start word) := if_neg held
  have begun : runOut p (p.spinLimit.toNat + 1 + fuel + 2) .attempt (.start word) =
      runOut p (p.spinLimit.toNat + 1 + fuel) (.look 0 0) (.start word) := by
    rw [runOut_of_ask rfl, lost]
    show runOut p _ .begin _ = _
    rw [runOut_of_ask rfl]
    rfl
  have spun : runOut p (p.spinLimit.toNat + 1 + fuel) (.look 0 0) (.start word) =
      runOut p fuel (.ask 0 p.spinLimit word) (.start word) :=
    runOut_spin held UInt32.zero_le
  rw [settle_eq, enough, Phase.start, if_pos valid, begun, spun]

/-- A contender that nobody disturbs takes the word, or is refused it, or waits for a live holder as
long as its policy says. -/
theorem settles (p : GuardPolicy) (word : UInt32) : Settles p word (settle p word) := by
  cases valid : p.canClaim with
  | false =>
    have untouched : settle p word = (.refused, word) := by
      rw [settle_eq, Phase.start, valid, if_neg Bool.false_ne_true, runOut_of_done rfl]
      rfl
    rw [untouched]
    exact .refused valid
  | true =>
    by_cases held : word = 0
    · rw [held, settle_free valid]
      exact .free valid rfl
    cases alive : p.probe.isAlive (holderOf word) with
    | false =>
      have enough : moveBound p =
          p.spinLimit.toNat + 1 + (moveBound p - (p.spinLimit.toNat + 5) + 2) + 2 := by
        simp only [moveBound]
        omega
      rw [settle_held valid held _ enough, Quiet.start, runOut_dead alive]
      exact .takenOver valid held alive
    | true =>
      cases bounded : p.timeout with
      | none =>
        have enough : moveBound p = p.spinLimit.toNat + 1 + 9 + 2 := by
          simp only [moveBound, bounded]
          omega
        obtain ⟨ended, left⟩ := runOut_forever held alive bounded 0 0 timerSlack
        rw [settle_held valid held 9 enough, Quiet.start, ended, left]
        exact .parked valid held alive bounded
      | some limit =>
        -- one more slice than fits into the limit, for what is left of it
        let slices := limit.nanos / max p.parkSlice.nanos 1 + 1
        have enough : moveBound p = p.spinLimit.toNat + 1 + (7 + 5 * slices + 2) + 2 := by
          simp only [moveBound, bounded, slices]
          omega
        have within : limit.nanos ≤ 0 - 0 + slices * max p.parkSlice.nanos 1 := by
          have some : 0 < max p.parkSlice.nanos 1 := by omega
          have below : limit.nanos < slices * max p.parkSlice.nanos 1 :=
            Nat.lt_mul_of_div_lt (Nat.lt_succ_self _) some
          omega
        obtain ⟨waited, reached, ended, left⟩ :=
          runOut_limit held alive bounded (Nat.le_refl 0) (show 0 < timerSlack by decide) within 7
        rw [settle_held valid held _ enough, Quiet.start, ended, left]
        simp only [Nat.sub_self, Nat.le_zero_eq]
        exact .timedOut valid held alive bounded reached

end Guard

end Interprocess
