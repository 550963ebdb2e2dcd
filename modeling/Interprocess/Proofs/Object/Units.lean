import Mathlib.Algebra.GroupWithZero.Nat
import Interprocess.Proofs.Object.History

/-!
# Units of a semaphore

The units of a semaphore are neither lost nor made: at every point of every run, what the semaphore
has is what it began with and what was given back, less what was taken, counted without a bound.
One call moves as many units as its answer says (`SemaphoreCall.step_balance`), an acquisition
through the wait for any object being one for a single unit; a run adds its calls up.
-/

namespace Interprocess

/-! ## Units that a history moves -/

def Call.onSemaphore? : Call → Option SemaphoreCall
  | semaphore c => some c
  | tryWait _ => some (.tryAcquire 1)
  | _ => none

namespace SemaphoreCall

def given : SemaphoreCall → Option Answer → Nat
  | release units, some (.level _) => units.toNat
  | _, _ => 0

def taken : SemaphoreCall → Option Answer → Nat
  | tryAcquire units, some (.acquisition .acquired) => units.toNat
  | _, _ => 0

end SemaphoreCall

def Entry.unitsGiven (e : Entry) : Nat := (e.call.onSemaphore?.map (·.given e.answer?)).getD 0

def Entry.unitsTaken (e : Entry) : Nat := (e.call.onSemaphore?.map (·.taken e.answer?)).getD 0

def unitsGiven (h : List Entry) : Nat := (h.map Entry.unitsGiven).sum

def unitsTaken (h : List Entry) : Nat := (h.map Entry.unitsTaken).sum

theorem unitsGiven_concat (h : List Entry) (e : Entry) :
    unitsGiven (h ++ [e]) = unitsGiven h + e.unitsGiven := by
  simp [unitsGiven]

theorem unitsTaken_concat (h : List Entry) (e : Entry) :
    unitsTaken (h ++ [e]) = unitsTaken h + e.unitsTaken := by
  simp [unitsTaken]

theorem Entry.units_of_silent {e : Entry} (silent : e.answer? = none) :
    e.unitsGiven = 0 ∧ e.unitsTaken = 0 := by
  simp only [unitsGiven, unitsTaken, silent]
  cases e.call.onSemaphore? with
  | none => exact ⟨rfl, rfl⟩
  | some c => cases c <;> exact ⟨rfl, rfl⟩

/-! ## One call -/

/-- The semaphore has room for its units. -/
def SemaphoreState.Bounded (s : SemaphoreState) : Prop := s.count.toNat ≤ s.maximum.toNat

/-- A call moves as many units as its answer says, whatever the words are. -/
theorem SemaphoreCall.step_balance (call : SemaphoreCall) (s : SemaphoreState) :
    (call.step s).2.count.toNat + call.taken (Outcome.ofExcept (call.step s).1).answer? =
      s.count.toNat + call.given (Outcome.ofExcept (call.step s).1).answer? := by
  cases call with
  | tryAcquire units =>
    simp only [step]
    split_ifs with nothing short
    · rfl
    · rfl
    · have enough : units ≤ s.count := UInt32.not_lt.mp short
      have fewer := UInt32.toNat_sub_of_le _ _ enough
      rw [UInt32.le_iff_toNat_le] at enough
      show (s.count - units).toNat + units.toNat = s.count.toNat + 0
      omega
  | release units =>
    simp only [step]
    split_ifs with nothing full
    · rfl
    · rfl
    · -- the sum is not above the maximum, which is a word, so it does not wrap around
      have room := Nat.not_lt.mp full
      show (s.count + units).toNat + 0 = s.count.toNat + units.toNat
      rw [UInt32.toNat_add]
      exact Nat.mod_eq_of_lt (room.trans_lt s.maximum.toNat_lt)
  | state => rfl

theorem SemaphoreCall.step_maximum (call : SemaphoreCall) (s : SemaphoreState) :
    (call.step s).2.maximum = s.maximum := by
  cases call with
  | tryAcquire | release =>
    simp only [step]
    split_ifs <;> rfl
  | state => rfl

theorem SemaphoreCall.step_bounded (call : SemaphoreCall) {s : SemaphoreState}
    (bounded : s.Bounded) : (call.step s).2.Bounded := by
  have moved := call.step_balance s
  have before : s.count.toNat ≤ s.maximum.toNat := bounded
  rw [SemaphoreState.Bounded, call.step_maximum]
  cases call with
  | tryAcquire units =>
    refine le_trans ?_ before
    exact (Nat.le_add_right _ _).trans_eq moved
  | release units =>
    simp only [step] at moved ⊢
    split_ifs at moved ⊢ with nothing full
    · exact before
    · exact before
    · have more : (s.count + units).toNat + 0 = s.count.toNat + units.toNat := moved
      show (s.count + units).toNat ≤ s.maximum.toNat
      omega
  | state => exact before

theorem Call.step_onSemaphore {call : Call} {sc : SemaphoreCall} {c : Contents}
    (kind : c.kind = .semaphore) (asks : call.onSemaphore? = some sc) :
    call.step c = ((sc.step c.semaphoreState).1, c.withSemaphore (sc.step c.semaphoreState).2) := by
  cases call with
  | semaphore c =>
    cases asks
    simp only [step, Contents.expect, kind, if_true]
  | tryWait requester =>
    cases asks
    simp only [step, Contents.wait, kind]
  | _ => cases asks

theorem Call.not_touches_semaphore {call : Call} (keeps : call ≠ .retire)
    (asks : call.onSemaphore? = none) : call.touches .semaphore = false := by
  cases call with
  | semaphore | tryWait => cases asks
  | retire => exact absurd rfl keeps
  | _ => rfl

/-! ## Runs -/

/-- A semaphore that began with `initial` units has those, and what a history gave back, less what
it took. -/
structure Conserves (initial maximum : UInt32) (h : List Entry) (c : Contents) : Prop where
  kind : c.kind = .semaphore
  balance : c.semaphoreState.count.toNat + unitsTaken h = initial.toNat + unitsGiven h
  maximum : c.semaphoreState.maximum = maximum
  bounded : c.semaphoreState.Bounded

namespace Conserves

variable {initial maximum : UInt32} {h : List Entry} {c : Contents}

theorem start {t : Turn} (made : t.call = .setUp (.semaphore initial maximum))
    (succeeded : (t.take .blank).1.outcome = .value .done) :
    Conserves initial maximum [] (t.take .blank).2 := by
  obtain ⟨-, state, first, left⟩ := Turn.take_of_created made succeeded
  rw [left]
  simp only [Blueprint.firstState, Semaphore.firstState] at first
  split_ifs at first with empty excess
  · cases first
  · cases first
  · cases first
    exact ⟨rfl, rfl, rfl, UInt32.le_iff_toNat_le.mp (UInt32.not_lt.mp excess)⟩

theorem turn (inv : Conserves initial maximum h c) {t : Turn} (keeps : t.call ≠ .retire) :
    Conserves initial maximum (h ++ [(t.take c).1]) (t.take c).2 := by
  rcases t.take_cases c with ran | ⟨silent, same⟩
  · rw [ran]
    cases asks : t.call.onSemaphore? with
    | some sc =>
      have moved := sc.step_balance c.semaphoreState
      rw [Call.step_onSemaphore inv.kind asks]
      refine ⟨inv.kind, ?_, (sc.step_maximum _).trans inv.maximum, sc.step_bounded inv.bounded⟩
      have before := inv.balance
      simp only [unitsGiven_concat, unitsTaken_concat, Entry.unitsGiven, Entry.unitsTaken, asks,
        Option.map_some, Option.getD_some, Entry.answer?]
      show (sc.step c.semaphoreState).2.count.toNat + _ = _
      omega
    | none =>
      have same : (t.call.step c).2 = c :=
        Call.step_of_not_touches inv.kind (by decide) (Call.not_touches_semaphore keeps asks)
      rw [same]
      refine ⟨inv.kind, ?_, inv.maximum, inv.bounded⟩
      simpa [unitsGiven_concat, unitsTaken_concat, Entry.unitsGiven, Entry.unitsTaken, asks]
        using inv.balance
  · obtain ⟨given, taken⟩ := Entry.units_of_silent silent
    rw [same]
    refine ⟨inv.kind, ?_, inv.maximum, inv.bounded⟩
    simpa [unitsGiven_concat, unitsTaken_concat, given, taken] using inv.balance

theorem run (inv : Conserves initial maximum [] c) {turns : List Turn}
    (keep : ∀ t ∈ turns, t.call ≠ .retire) :
    Conserves initial maximum (runTurns c turns).1 (runTurns c turns).2 :=
  runTurns_keeps inv fun t mem _ _ before => before.turn (keep t mem)

/-! ## What a call answers -/

theorem release_outcome (inv : Conserves initial maximum h c) {t : Turn} (enters : t.Enters)
    {units : UInt32} (some : units ≠ 0) (gives : t.call = .semaphore (.release units)) :
    (t.take c).1.outcome =
      if maximum.toNat < c.semaphoreState.count.toNat + units.toNat then
        .failed (.overflow .semaphore maximum)
      else .value (.level c.semaphoreState.count) := by
  rw [Turn.take_of_enters enters, gives, Call.step_onSemaphore inv.kind rfl]
  simp only [SemaphoreCall.step, some, if_false, inv.maximum]
  split <;> rfl

theorem acquire_outcome (inv : Conserves initial maximum h c) {t : Turn} (enters : t.Enters)
    {units : UInt32} (some : units ≠ 0)
    (takes : t.call.onSemaphore? = Option.some (.tryAcquire units)) :
    (t.take c).1.outcome =
      .value (.acquisition
        (if c.semaphoreState.count.toNat < units.toNat then .notAvailable else .acquired)) := by
  rw [Turn.take_of_enters enters, Call.step_onSemaphore inv.kind takes]
  simp only [SemaphoreCall.step, some, if_false, UInt32.lt_iff_toNat_lt]
  split <;> rfl

end Conserves

/-- From its creation until it is retired, a semaphore has at every point the units that it began
with and those given back, less those taken; they are never more than the maximum, which stays.
Units are given back just if there is room for them, and taken just if they are there; a call that
is refused leaves everything as it was. -/
theorem semaphore_conserves_units {initial maximum : UInt32} {creation : Turn}
    (made : creation.call = .setUp (.semaphore initial maximum))
    (succeeded : (creation.take .blank).1.outcome = .value .done) {turns : List Turn}
    (keep : ∀ t ∈ turns, t.call ≠ .retire) {h : List Entry} {c : Contents}
    (ran : runTurns (creation.take .blank).2 turns = (h, c)) :
    (c.semaphoreState.count.toNat : Int) = initial.toNat + unitsGiven h - unitsTaken h ∧
      c.semaphoreState.count.toNat ≤ maximum.toNat ∧
      c.semaphoreState.maximum = maximum ∧
      (∀ t : Turn, t.Enters → ∀ units, units ≠ 0 → t.call = .semaphore (.release units) →
        (t.take c).1.outcome =
          if maximum.toNat < c.semaphoreState.count.toNat + units.toNat then
            .failed (.overflow .semaphore maximum)
          else .value (.level c.semaphoreState.count)) ∧
      (∀ t : Turn, t.Enters → ∀ units, units ≠ 0 →
        t.call.onSemaphore? = some (.tryAcquire units) →
        (t.take c).1.outcome =
          .value (.acquisition
            (if c.semaphoreState.count.toNat < units.toNat then .notAvailable else .acquired))) ∧
      ∀ t : Turn, (t.take c).1.Refused → (t.take c).2 = c := by
  have inv : Conserves initial maximum h c := by
    simpa only [ran] using (Conserves.start made succeeded).run keep
  have balance := inv.balance
  refine ⟨by omega, ?_, inv.maximum, fun t enters _ => inv.release_outcome enters,
    fun t enters _ => inv.acquire_outcome enters, fun t => Turn.take_of_refused⟩
  rw [← inv.maximum]
  exact inv.bounded

/-- A semaphore is filled up to the greatest word, where one more unit would wrap around; a call
that finds the guard held by the living is refused. -/
theorem filled_to_last_word :
    ∃ (creation : Turn) (turns : List Turn) (h : List Entry) (c : Contents),
      (creation.call = .setUp (.semaphore 1 0xffffffff) ∧
        (creation.take .blank).1.outcome = .value .done ∧
        (∀ t ∈ turns, t.call ≠ .retire) ∧ runTurns (creation.take .blank).2 turns = (h, c)) ∧
      h.map Entry.answer? = [some (.level 1), none, some (.acquisition .acquired), none] ∧
      (c.semaphoreState.count, unitsGiven h, unitsTaken h) = (0xfffffffe, 0xfffffffe, 1) ∧
      (c.semaphoreState.count.toNat : Int) = (1 : UInt32).toNat + unitsGiven h - unitsTaken h := by
  have made : (Turn.mk 0 (Guard.hasty 7) (.setUp (.semaphore 1 0xffffffff))).call =
      .setUp (.semaphore 1 0xffffffff) := rfl
  have succeeded : ((Turn.mk 0 (Guard.hasty 7) (.setUp (.semaphore 1 0xffffffff))).take
      .blank).1.outcome = .value .done := rfl
  have ran : runTurns
      ((Turn.mk 0 (Guard.hasty 7) (.setUp (.semaphore 1 0xffffffff))).take .blank).2
      [⟨0, Guard.hasty 7, .semaphore (.release 0xfffffffe)⟩,
        ⟨0, Guard.hasty 8, .semaphore (.release 1)⟩, ⟨0, Guard.hasty 8, .tryWait ⟨5⟩⟩,
        ⟨9, Guard.hasty 7, .semaphore (.release 1)⟩] =
      ([⟨.semaphore (.release 0xfffffffe), .value (.level 1)⟩,
        ⟨.semaphore (.release 1), .failed (.overflow .semaphore 0xffffffff)⟩,
        ⟨.tryWait ⟨5⟩, .value (.acquisition .acquired)⟩,
        ⟨.semaphore (.release 1), .failed (.guardTimeout 9 ⟨0⟩)⟩],
        ⟨3, 0xfffffffe, 0xffffffff, 0⟩) := rfl
  have balance := (semaphore_conserves_units made succeeded (by simp) ran).1
  exact ⟨_, _, _, _, ⟨made, succeeded, by simp, ran⟩, rfl, rfl, balance⟩

end Interprocess
