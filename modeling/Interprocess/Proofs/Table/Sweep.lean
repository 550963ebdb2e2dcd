import Interprocess.Proofs.Object.Tenure
import Interprocess.Proofs.Table.Stores
import Interprocess.Proofs.Table.TableAccesses

/-!
# Visits of a sweep

A sweep looks at the bitmap and at the kinds of objects, and leaves everything as it is while it
looks. At the mutex that it is about to abandon it takes a turn like anybody else
(`Table.sweepTurn`), and it counts the mutex just if that turn abandoned it.
-/

namespace Interprocess

theorem Words.get_setRecord_record (m : Words) (i j : Nat) :
    (m.setRecord i (m.record i)).get j = m.get j := by
  by_cases outside : j < i ∨ i + 5 ≤ j
  · exact get_setRecord_of_outside _ outside
  · apply get_congr_of_record (record_setRecord_self m i (m.record i))
    · omega
    · omega

namespace Table

variable {t : Table} {owner : ThreadId} {m : Words}

/-- The turn that a sweep for `owner` takes at a record with a guard word. -/
def sweepTurn (t : Table) (owner : ThreadId) (guard : UInt32) : Turn :=
  ⟨guard, t.policy, .mutex (.abandonIfOwnedBy owner)⟩

/-! ## Looks -/

theorem get_kindAt (t : Table) (slot : UInt32) (m : Words) (j : Nat) :
    ((t.kindAt slot).result m).2.get j = m.get j :=
  Words.get_setRecord_record m (t.layout.recordIndex slot) j

theorem get_kindAt_bind {α : Type} {next : Kind → Op Words α}
    (looks : ∀ kind m, ((next kind).result m).2 = m) (slot : UInt32) (j : Nat) :
    ((t.kindAt slot >>= next).result m).2.get j = m.get j := by
  have seen : (t.kindAt slot).result m =
      (.value (m.record (t.layout.recordIndex slot)).contents.kind,
        ((t.kindAt slot).result m).2) := rfl
  rw [Op.result_bind_of_value seen, looks]
  exact get_kindAt t slot m j

theorem sweepStep_collect {index : Nat} (inside : index < t.layout.bitmapWords)
    (slots : List UInt32) :
    (t.sweepStep owner (.collect index slots)).result m =
      (.value (.next (.collect (index + 1)
        (slots ++ t.slotsOfWord index (t.bitmapWord m index)))), m) := by
  rw [sweepStep, Accesses.sweepStep, if_pos inside]
  rfl

theorem sweepStep_collect_past {index : Nat} (past : ¬ index < t.layout.bitmapWords)
    (slots : List UInt32) :
    (t.sweepStep owner (.collect index slots)).result m =
      (.value (.next (.look slots ⟨0, []⟩)), m) := by
  rw [sweepStep, Accesses.sweepStep, if_neg past]
  rfl

/-- What a sweep that has visited all slots answers. -/
def SweepTally.answer (tally : SweepTally) : Except SyncError Nat :=
  if tally.stuck.isEmpty then .ok tally.abandoned
  else .error (.sweepIncomplete tally.abandoned tally.stuck)

theorem report_result (owner : ThreadId) (tally : SweepTally) (m : Words) :
    (Accesses.report owner tally).perform.result m = (.ofExcept tally.answer, m) := by
  unfold Accesses.report SweepTally.answer
  split <;> split <;> rfl

theorem get_sweepStep {phase : SweepPhase}
    (looks : ∀ slot rest tally, phase ≠ .abandon slot rest tally) (j : Nat) :
    ((t.sweepStep owner phase).result m).2.get j = m.get j := by
  cases phase with
  | collect index slots =>
    by_cases inside : index < t.layout.bitmapWords
    · rw [sweepStep_collect inside]
    · rw [sweepStep_collect_past inside]
  | look slots tally =>
    cases slots with
    | nil => rw [sweepStep_look_nil_eq, Op.result_map, report_result]
    | cons slot rest =>
      rw [sweepStep_look_eq]
      refine get_kindAt_bind (fun kind m => ?_) slot j
      split <;> rfl
  | opening slot rest tally =>
    rw [sweepStep_opening_eq]
    refine get_kindAt_bind (fun kind m => ?_) slot j
    split <;> rfl
  | abandon slot rest tally => exact absurd rfl (looks slot rest tally)

/-! ## Turns -/

theorem recordVisit_result (owner : ThreadId) (slot : UInt32) (rest : List UInt32)
    (tally : SweepTally) (visit : Except SyncError Bool) (m : Words) :
    let next : Op Words (Op.Progress SweepPhase Nat) := do
      return .next (.look rest (← (Accesses.recordVisit owner slot tally visit).perform))
    (next.result m).2 = m ∧
      (visit = .ok true → (next.result m).1 =
        .value (.next (.look rest { tally with abandoned := tally.abandoned + 1 }))) ∧
      (visit ≠ .ok true → ∀ rest' tally',
        (next.result m).1 = .value (.next (.look rest' tally')) →
          tally'.abandoned = tally.abandoned) := by
  intro next
  simp only [next, Accesses.recordVisit]
  split
  case h_1 => exact ⟨rfl, fun _ => rfl, fun other => absurd rfl other⟩
  case h_5 => exact ⟨rfl, nofun, fun _ _ _ => nofun⟩
  all_goals
    refine ⟨rfl, nofun, ?_⟩
    rintro - _ _ ⟨rfl⟩
    rfl

theorem take_sweepTurn (t : Table) (owner : ThreadId) (r : Record) :
    (t.sweepTurn owner r.guard).take r.contents =
      (⟨.mutex (.abandonIfOwnedBy owner),
          ((Mutex.abandonIfOwnedBy t.policy owner).result r).1.map .flag⟩,
        ((Mutex.abandonIfOwnedBy t.policy owner).result r).2.contents) := by
  simp only [Turn.take, sweepTurn, Call.op, MutexCall.op, Op.result_map]

/-- At the mutex that it is about to abandon a sweep takes a turn, and it counts one more if the
turn abandoned the mutex. -/
theorem sweepStep_abandon (t : Table) (owner : ThreadId) (slot : UInt32) (rest : List UInt32)
    (tally : SweepTally) (m : Words) :
    let i := t.layout.recordIndex slot
    let turn := (t.sweepTurn owner (m.record i).guard).take (m.record i).contents
    let ran := (t.sweepStep owner (.abandon slot rest tally)).result m
    (∃ guard, ran.2 = m.setRecord i ⟨guard, turn.2⟩) ∧
      (turn.1.abandons = true →
        ran.1 = .value (.next (.look rest { tally with abandoned := tally.abandoned + 1 }))) ∧
      (turn.1.abandons = false → ∀ rest' tally', ran.1 = .value (.next (.look rest' tally')) →
        tally'.abandoned = tally.abandoned) := by
  intro i turn ran
  have stepped : ran = _ := congrArg (Op.result · m) (t.sweepStep_abandon_eq owner slot rest tally)
  have visit : (t.onRecord slot (Mutex.abandonIfOwnedBy t.policy owner)).result m =
      (((Mutex.abandonIfOwnedBy t.policy owner).result (m.record i)).1,
        m.setRecord i ((Mutex.abandonIfOwnedBy t.policy owner).result (m.record i)).2) := by
    rw [onRecord_eq, Words.onRecord, Op.result_within]
  have taken : turn = _ := take_sweepTurn t owner (m.record i)
  generalize (Mutex.abandonIfOwnedBy t.policy owner).result (m.record i) = after at visit taken
  obtain ⟨outcome, guard, c⟩ := after
  rw [taken]
  cases outcome with
  | value b =>
    obtain ⟨same, counts, stays⟩ := recordVisit_result owner slot rest tally (.ok b)
      (m.setRecord i ⟨guard, c⟩)
    have step := stepped.trans <| Op.result_bind_of_value (Op.result_attempt_of_value visit) _
    rw [step]
    refine ⟨⟨guard, same⟩, fun done => counts (congrArg Except.ok done), fun none => stays ?_⟩
    intro done
    rw [Except.ok.inj done] at none
    cases none
  | failed e =>
    obtain ⟨same, -, stays⟩ := recordVisit_result owner slot rest tally (.error e)
      (m.setRecord i ⟨guard, c⟩)
    have step := stepped.trans <| Op.result_bind_of_value (Op.result_attempt_of_failed visit) _
    rw [step]
    exact ⟨⟨guard, same⟩, nofun, fun _ => stays nofun⟩
  | blocked =>
    have step := stepped.trans <| Op.result_bind_of_blocked (Op.result_attempt_of_blocked visit) _
    rw [step]
    exact ⟨⟨guard, rfl⟩, nofun, fun _ _ _ => nofun⟩

theorem sweepStep_elsewhere {c : UInt32} (laidOut : t.layout = .ofCapacity c) {phase : SweepPhase}
    {slot : UInt32} (elsewhere : ∀ rest tally, phase ≠ .abandon slot rest tally) :
    (((t.sweepStep owner phase).result m).2.record (t.layout.recordIndex slot)).contents =
      (m.record (t.layout.recordIndex slot)).contents := by
  by_cases looks : ∀ slot rest tally, phase ≠ .abandon slot rest tally
  · exact congrArg Record.contents (Words.record_congr fun j _ _ => get_sweepStep looks j)
  · simp only [not_forall, not_not] at looks
    obtain ⟨visited, rest, tally, rfl⟩ := looks
    have other : slot ≠ visited := by
      rintro rfl
      exact elsewhere rest tally rfl
    obtain ⟨guard, left⟩ := (sweepStep_abandon t owner visited rest tally m).1
    rw [left, laidOut, record_setRecord_of_ne _ other]

/-- What a sweep does at the record of a slot: nothing until it comes to abandon the mutex there,
and then what a turn does. -/
structure SweepTakes (t : Table) (owner : ThreadId) (slot : UInt32) (m : Words)
    (turn : Entry × Contents) : Prop where
  elsewhere : ∀ phase, (∀ rest tally, phase ≠ .abandon slot rest tally) →
    (((t.sweepStep owner phase).result m).2.record (t.layout.recordIndex slot)).contents =
      (m.record (t.layout.recordIndex slot)).contents
  leaves : ∀ rest tally,
    (((t.sweepStep owner (.abandon slot rest tally)).result m).2.record
      (t.layout.recordIndex slot)).contents = turn.2
  counts : ∀ rest tally, turn.1.abandons = true →
    ((t.sweepStep owner (.abandon slot rest tally)).result m).1 =
      .value (.next (.look rest { tally with abandoned := tally.abandoned + 1 }))
  passes : ∀ rest tally, turn.1.abandons = false → ∀ rest' tally',
    ((t.sweepStep owner (.abandon slot rest tally)).result m).1 =
      .value (.next (.look rest' tally')) → tally'.abandoned = tally.abandoned

theorem sweep_takes {c : UInt32} (laidOut : t.layout = .ofCapacity c) (owner : ThreadId)
    (slot : UInt32) (m : Words) :
    t.SweepTakes owner slot m
      ((t.sweepTurn owner (m.record (t.layout.recordIndex slot)).guard).take
        (m.record (t.layout.recordIndex slot)).contents) where
  elsewhere _ := sweepStep_elsewhere laidOut
  leaves rest tally := by
    obtain ⟨guard, left⟩ := (sweepStep_abandon t owner slot rest tally m).1
    rw [left, Words.record_setRecord_self]
  counts rest tally := (sweepStep_abandon t owner slot rest tally m).2.1
  passes rest tally := (sweepStep_abandon t owner slot rest tally m).2.2

end Table

end Interprocess
