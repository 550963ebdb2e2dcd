import Interprocess.Proofs.Table.Custody
import Interprocess.Proofs.Table.SweepVisits
import Interprocess.Proofs.Table.Usage

/-!
# Sweeps among other calls

A sweep works from a list of slots that may be stale, and looks at the kinds of objects without
their guards, while slots are taken back and handed out again under it. What it abandons is checked
once more under the guard: so it abandons what its owner holds at that instant and nothing else
(`Sound`), it reports as many mutexes as it abandoned (`abandonments`), and it comes to every mutex
that the owner held when it began, unless the owner loses the mutex to somebody else before
(`Reckoned`). Where it does not wait for guards without a limit it is over after so many steps of its
own (`Budgeted`).
-/

namespace Interprocess

/-! ## How many mutexes a sweep abandons -/

def SlotView.rewritten (x y : SlotView) : Bool := x.contents ≠ y.contents

theorem SlotView.rewritten_self (x : SlotView) : x.rewritten x = false :=
  decide_eq_false (not_not.mpr rfl)

namespace Table.SweepPhase

def tally : SweepPhase → SweepTally
  | collect .. => ⟨0, []⟩
  | look _ tally | opening _ _ tally | abandon _ _ tally => tally

/-- The sweep has yet to come to the slot. -/
def Ahead (slot : UInt32) : SweepPhase → Prop
  | collect index slots => slot ∈ slots ∨ index ≤ wordOf slot
  | look slots _ => slot ∈ slots
  | opening first rest _ | abandon first rest _ => slot ∈ first :: rest

/-- How many steps a sweep has left at most, over a bitmap of so many words: one for each word that
it has yet to read, three for each slot that it has found or may yet find, and two more. -/
def stepsLeft (words : Nat) : SweepPhase → Nat
  | collect index slots => (words - index) * (1 + 3 * 64) + 3 * slots.length + 2
  | look slots _ => 3 * slots.length + 1
  | opening _ rest _ => 3 * rest.length + 3
  | abandon _ rest _ => 3 * rest.length + 2

theorem stepsLeft_pos (words : Nat) (phase : SweepPhase) : 0 < phase.stepsLeft words := by
  cases phase <;> exact Nat.succ_pos _

section

variable {words index : Nat} {slot : UInt32} {slots found rest : List UInt32}
  {tally : SweepTally}

/-- A word of the bitmap pays for the slots that it may hand out. -/
theorem stepsLeft_collect (inside : index < words) (few : found.length ≤ 64) :
    (collect (index + 1) (slots ++ found)).stepsLeft words <
      (collect index slots).stepsLeft words := by
  simp only [stepsLeft, List.length_append]
  omega

theorem stepsLeft_collected :
    (look slots tally).stepsLeft words < (collect index slots).stepsLeft words := by
  simp only [stepsLeft]
  omega

theorem stepsLeft_seen :
    (opening slot rest tally).stepsLeft words < (look (slot :: rest) tally).stepsLeft words := by
  simp only [stepsLeft, List.length_cons]
  omega

theorem stepsLeft_passed :
    (look rest tally).stepsLeft words < (opening slot rest tally).stepsLeft words := by
  simp only [stepsLeft]
  omega

end

end Table.SweepPhase

section Strides

variable {c : UInt32} {owner : ThreadId} {v v' : UInt32 → SlotView} {phase : Table.SweepPhase}
  {next : Op.Progress Table.SweepPhase (Except SyncError Nat)}

theorem Errand.Strides.of_sweeps {w : Errand} {progress : Op.Progress Errand Yield}
    {phase' : Table.SweepPhase} (h : w.Strides c v progress v')
    (goesOn : progress = .next (.sweeps owner phase')) :
    ∃ phase, w = .sweeps owner phase ∧
      (SweepStrides c owner v phase (.next phase') v' ∨ (phase = phase' ∧ v' = v)) := by
  cases h with
  | waits =>
    cases goesOn
    exact ⟨_, rfl, .inr ⟨rfl, rfl⟩⟩
  | @sweeps owner' phase next _ strides =>
    cases next <;> cases goesOn
    exact ⟨phase, rfl, .inl strides⟩
  | @full object | @counts object => cases object <;> cases goesOn
  | @fails b s own => cases own <;> cases goesOn
  | seeks | claims | makes | finds | misses | retires | refused | clears | freed => cases goesOn

theorem Errand.Strides.of_sweep {progress : Op.Progress Errand Yield}
    (h : (Errand.sweeps owner phase).Strides c v progress v') :
    (progress = .next (.sweeps owner phase) ∧ v' = v) ∨
      ∃ next, progress = next.map (.sweeps owner) (.swept owner) ∧
        SweepStrides c owner v phase next v' := by
  cases h with
  | waits => exact .inl ⟨rfl, rfl⟩
  | sweeps strides => exact .inr ⟨_, rfl, strides⟩

theorem Errand.Strides.of_swept {w : Errand} {progress : Op.Progress Errand Yield}
    {a : Except SyncError Nat} (h : w.Strides c v progress v')
    (answers : progress = .answer (.swept owner a)) :
    ∃ phase, w = .sweeps owner phase ∧ SweepStrides c owner v phase (.answer a) v' := by
  cases h with
  | @sweeps owner' phase next _ strides =>
    cases next <;> cases answers
    exact ⟨phase, rfl, strides⟩
  | @full object | @counts object => cases object <;> cases answers
  | @makes b s own | @fails b s own => cases own <;> cases answers
  | @misses s failure | @refused s failure | @freed s failure => cases failure <;> cases answers
  | waits | seeks | claims | finds | retires | clears => cases answers

theorem SweepStrides.tally {phase' : Table.SweepPhase} (fits : ∀ s ∈ Errand.ahead phase, s < c)
    (h : SweepStrides c owner v phase (.next phase') v') :
    phase'.tally.abandoned =
      phase.tally.abandoned + (slotsWhere c SlotView.rewritten v v').length := by
  cases h with
  | collects | collected | sees | opens | spares | stalls | waits =>
    rw [slotsWhere_self SlotView.rewritten_self]
    rfl
  | passes stands =>
    rw [slotsWhere_self SlotView.rewritten_self]
    rcases stands with rfl | rfl <;> rfl
  | @abandons slot rest tally held =>
    have changed : (v slot).rewritten
        ⟨(v slot).taken, (v slot).contents.withMutex .abandonedFree⟩ = true :=
      decide_eq_true held.changes.symm
    rw [slotsWhere_update SlotView.rewritten_self (fits slot List.mem_cons_self), if_pos changed]
    rfl

theorem SweepStrides.answer {a : Except SyncError Nat}
    (h : SweepStrides c owner v phase (.answer a) v') :
    v' = v ∧ a = phase.tally.answer := by
  cases h
  exact ⟨rfl, rfl⟩

theorem Table.SweepTally.answer_cases (t : Table.SweepTally) :
    t.answer = .ok t.abandoned ∨
      (t.stuck ≠ [] ∧ t.answer = .error (.sweepIncomplete t.abandoned t.stuck)) := by
  unfold answer
  split
  · exact .inl rfl
  · rename_i some
    exact .inr ⟨fun none => some (List.isEmpty_iff.mpr none), rfl⟩

/-- A sweep that has yet to come to a mutex that its owner holds goes on to do so, abandons it, or
finds its guard held. -/
theorem SweepStrides.nears {slot : UInt32}
    (h : SweepStrides c owner v phase next v') (ahead : phase.Ahead slot) (inside : slot < c)
    (taken : (v slot).taken = true) (held : (v slot).contents.HeldBy owner) :
    (∃ phase', next = .next phase' ∧ phase'.Ahead slot ∧ v' slot = v slot) ∨
      ((v slot).rewritten (v' slot) = true) ∨
      ∃ phase', next = .next phase' ∧ slot ∈ phase'.tally.stuck := by
  cases h with
  | @collects index slots found inside sees =>
    refine .inl ⟨_, rfl, ?_, rfl⟩
    rcases ahead with mem | later
    · exact .inl (List.mem_append_left _ mem)
    · rcases Nat.eq_or_lt_of_le later with same | later
      · exact .inl (List.mem_append_right _ (sees slot same.symm taken))
      · exact .inr later
  | collected past =>
    refine .inl ⟨_, rfl, ?_, rfl⟩
    rcases ahead with mem | later
    · exact mem
    · exact absurd (past slot inside) (Nat.not_lt.mpr later)
  | sees | opens | waits => exact .inl ⟨_, rfl, ahead, rfl⟩
  | @passes first rest tally phase stands kind =>
    refine .inl ⟨_, rfl, ?_, rfl⟩
    have mem : slot ∈ first :: rest := by
      rcases stands with rfl | rfl <;> exact ahead
    rcases List.mem_cons.mp mem with rfl | mem
    · exact absurd held.kind kind
    · exact mem
  | @abandons first rest tally held' =>
    by_cases same : slot = first
    · subst same
      right; left
      rw [Function.update_self]
      exact decide_eq_true held'.changes.symm
    · left
      refine ⟨_, rfl, (List.mem_cons.mp ahead).resolve_left same, ?_⟩
      rw [Function.update_of_ne same]
  | spares other =>
    refine .inl ⟨_, rfl, ?_, rfl⟩
    rcases List.mem_cons.mp ahead with rfl | mem
    · exact absurd held other
    · exact mem
  | @stalls first rest tally =>
    rcases List.mem_cons.mp ahead with rfl | mem
    · exact .inr (.inr ⟨_, rfl, List.mem_append_right _ (List.mem_singleton_self _)⟩)
    · exact .inl ⟨_, rfl, mem, rfl⟩
  | reports => cases ahead

theorem SweepStrides.stuck {slot : UInt32} (h : SweepStrides c owner v phase next v')
    (mem : slot ∈ phase.tally.stuck) :
    (∃ phase', next = .next phase' ∧ slot ∈ phase'.tally.stuck) ∨
      ∃ abandoned stuck, next = .answer (.error (.sweepIncomplete abandoned stuck)) ∧
        slot ∈ stuck := by
  cases h with
  | collects | collected => cases mem
  | sees | opens | abandons | spares | waits => exact .inl ⟨_, rfl, mem⟩
  | passes stands => rcases stands with rfl | rfl <;> exact .inl ⟨_, rfl, mem⟩
  | stalls => exact .inl ⟨_, rfl, List.mem_append_left _ mem⟩
  | @reports tally =>
    have some : tally.stuck.isEmpty = false :=
      List.isEmpty_eq_false_iff.mpr (List.ne_nil_of_mem mem)
    refine .inr ⟨tally.abandoned, tally.stuck, ?_, mem⟩
    rw [Table.SweepTally.answer, some]
    rfl

end Strides

/-! ## How long a sweep takes -/

/-- A step of a sweep ends it, or leaves it with fewer steps than before. -/
inductive Table.SweepPhase.Advances (words : Nat) (phase : Table.SweepPhase) :
    Op.Progress Table.SweepPhase (Except SyncError Nat) → Prop where
  | goesOn {phase' : Table.SweepPhase} (fewer : phase'.stepsLeft words < phase.stepsLeft words) :
      Advances words phase (.next phase')
  | ends (answer : Except SyncError Nat) : Advances words phase (.answer answer)

namespace Table

variable {t : Table}

theorem length_slotsOfWord_le (t : Table) (index : Nat) (word : UInt64) :
    (t.slotsOfWord index word).length ≤ 64 := by
  rw [slotsOfWord, List.length_map, Bitmap.setBits_eq_filter]
  have found := List.length_filter_le (Bitmap.isSet (word &&& t.mask index)) (List.range 64)
  rwa [List.length_range] at found

theorem recordVisit_ends (owner : ThreadId) (slot : UInt32) (tally : SweepTally)
    (visit : Except SyncError Bool) (m : Words) :
    (∃ tally', (Accesses.recordVisit owner slot tally visit).perform.result m =
        (.value tally', m)) ∨
      ∃ e, (Accesses.recordVisit owner slot tally visit).perform.result m = (.failed e, m) := by
  unfold Accesses.recordVisit
  split
  case h_5 => exact .inr ⟨_, rfl⟩
  all_goals exact .inl ⟨_, rfl⟩

theorem attempt_of_bounded (bounded : t.policy.timeout ≠ none) (owner : ThreadId) (slot : UInt32)
    (m : Words) :
    ∃ visit m', ((t.onRecord slot (Mutex.abandonIfOwnedBy t.policy owner)).attempt).result m =
      (.value visit, m') := by
  let r := m.record (t.layout.recordIndex slot)
  have ends := Call.ends_of_bounded bounded (.mutex (.abandonIfOwnedBy owner)) r
  have same : (Call.mutex (.abandonIfOwnedBy owner)).op t.policy =
      .flag <$> Mutex.abandonIfOwnedBy t.policy owner := rfl
  rw [same, Op.result_map] at ends
  have ran : ((t.onRecord slot (Mutex.abandonIfOwnedBy t.policy owner)).result m).1 =
      ((Mutex.abandonIfOwnedBy t.policy owner).result r).1 := by
    rw [onRecord_eq, Words.onRecord, Op.result_within]
  rw [← ran] at ends
  rcases visited : (t.onRecord slot (Mutex.abandonIfOwnedBy t.policy owner)).result m with
    ⟨b | e | _, m'⟩
  · exact ⟨_, _, Op.result_attempt_of_value visited⟩
  · exact ⟨_, _, Op.result_attempt_of_failed visited⟩
  · rw [visited] at ends
    exact absurd rfl ends

theorem sweepStep_advances (bounded : t.policy.timeout ≠ none) (owner : ThreadId)
    (phase : SweepPhase) (m : Words) :
    phase.Advances t.layout.bitmapWords
      (Op.Progress.among phase ((t.sweepStep owner phase).result m).1) := by
  cases phase with
  | collect index slots =>
    by_cases inside : index < t.layout.bitmapWords
    · rw [sweepStep_collect inside]
      exact .goesOn (SweepPhase.stepsLeft_collect inside (t.length_slotsOfWord_le index _))
    · rw [sweepStep_collect_past inside]
      exact .goesOn SweepPhase.stepsLeft_collected
  | look slots tally =>
    cases slots with
    | nil =>
      rw [sweepStep_look_nil_eq, Op.result_map, report_result]
      cases tally.answer <;> exact .ends _
    | cons slot rest =>
      rw [sweepStep_look_eq, Op.result_bind_of_value (kindAt_result t slot m)]
      split
      · exact .goesOn SweepPhase.stepsLeft_seen
      · exact .goesOn (SweepPhase.stepsLeft_passed.trans SweepPhase.stepsLeft_seen)
  | opening slot rest tally =>
    rw [sweepStep_opening_eq, Op.result_bind_of_value (kindAt_result t slot m)]
    split
    · exact .goesOn (Nat.lt_succ_self _)
    · exact .goesOn SweepPhase.stepsLeft_passed
  | abandon slot rest tally =>
    obtain ⟨visit, m', visited⟩ := attempt_of_bounded bounded owner slot m
    rw [sweepStep_abandon_eq, Op.result_bind_of_value visited]
    rcases recordVisit_ends owner slot tally visit m' with ⟨tally', recorded⟩ | ⟨e, recorded⟩
    · rw [Op.result_bind_of_value recorded]
      exact .goesOn (Nat.lt_succ_self _)
    · rw [Op.result_bind_of_failed recorded]
      exact .ends _

end Table

/-! ## Sweeps that run alone -/

section Alone

variable {c : UInt32} {t : Table} {m : Words} {o : ObjectMap c} {slot : UInt32} {owner : ThreadId}

theorem Table.Serves.abandonMutexes_result (serves : t.Serves c) (h : Represents m o)
    (only : o.slots = [slot]) (held : o.objectAt slot = .mutex (.heldBy owner))
    (named : owner ≠ .none) :
    ∃ m', (t.abandonMutexes owner).result m = (.value 1, m') := by
  have inside : slot < c :=
    ObjectMap.lt_of_holds (ObjectMap.mem_slots.mp (only ▸ List.mem_singleton_self slot))
  have found : t.slots m = [slot] := by
    rw [serves.slots_eq h, only]
  have record : t.recordAt m slot = ⟨0, .ofState (.mutex (.heldBy owner))⟩ := by
    unfold recordAt
    rw [serves.record_eq h inside, held]
  have gets : t.policy.Gets (t.recordAt m slot).guard := by
    rw [record]
    exact ⟨serves.canClaim, .inl rfl⟩
  have holds : (t.recordAt m slot).contents.HeldBy owner := by
    rw [record]
    exact ⟨rfl, (by decide : (1 : UInt32) ≠ 0), rfl, named⟩
  have passable : t.Passable m (t.slots m) := by
    intro _ other mem
    rw [found, List.mem_singleton] at mem
    rw [mem]
    exact gets
  obtain ⟨m', ran, -⟩ := serves.abandonMutexes_walks owner passable
  rw [found, tallyOf_singleton holds.kind, if_pos gets, if_pos holds] at ran
  exact ⟨m', ran⟩

end Alone

namespace Traffic

variable {ι : Type}

/-- What a sweep has abandoned is what it has counted. -/
def abandonments (c : UInt32) : Audit c SlotView.rewritten where
  during
    | .sweeps _ phase, done => done.length = phase.tally.abandoned
    | _, _ => True
  upon
    | .swept _ answer, done => answer = .ok done.length ∨
        ∃ stuck, stuck ≠ [] ∧ answer = .error (.sweepIncomplete done.length stuck)
    | _, _ => True
  starts starts := by
    cases starts <;> trivial
  goesOn {v v' w w' done} fits strides so := by
    cases w' with
    | handsOut | sets | takesBack => trivial
    | sweeps owner phase' =>
      obtain ⟨phase, rfl, sweep | ⟨rfl, rfl⟩⟩ := strides.of_sweeps rfl
      · show (done ++ _).length = _
        rw [List.length_append, sweep.tally fits, so]
      · rwa [slotsWhere_self SlotView.rewritten_self, List.append_nil]
  returns {v v' w y done} fits strides so := by
    cases y with
    | slot | filled | freed => trivial
    | swept owner answer =>
      obtain ⟨phase, rfl, sweep⟩ := strides.of_swept rfl
      obtain ⟨rfl, rfl⟩ := sweep.answer
      have so : done.length = phase.tally.abandoned := so
      rw [slotsWhere_self SlotView.rewritten_self, List.append_nil]
      rcases phase.tally.answer_cases with all | ⟨some, stuck⟩
      · exact .inl (so ▸ all)
      · exact .inr ⟨_, some, so ▸ stuck⟩

variable {s s' : Traffic ι} {c : UInt32} {rule : Rule}

/-! ## What a sweep changes -/

/-- A slot with a mutex that `owner` held, and the slot when the mutex is abandoned. -/
structure Abandoned (owner : ThreadId) (x y : SlotView) : Prop where
  taken : x.taken = true
  held : x.contents.HeldBy owner
  left : y = ⟨true, x.contents.withMutex .abandonedFree⟩

theorem abandoned_of_treats {owner : ThreadId} {phase : Table.SweepPhase} {slot : UInt32}
    {x y : SlotView} (treats : (Errand.sweeps owner phase).Treats slot x y)
    (clean : x.taken = false → x.contents = .blank) (changed : y ≠ x) : Abandoned owner x y := by
  cases treats with
  | leaves => exact absurd rfl changed
  | claims stands =>
    obtain ⟨object, index, current, bit, other⟩ := stands
    cases other
  | makes acquires => cases acquires
  | retires destroys => cases destroys
  | clears stands => cases stands
  | abandons stands held =>
    cases stands
    have taken : x.taken = true := by
      by_contra free
      have blank := clean (Bool.eq_false_of_not_eq_true free)
      exact Contents.not_heldBy_blank owner (blank ▸ held)
    exact ⟨taken, held, by rw [taken]⟩

/-- What the sweeps of a history have changed. -/
def Sound (h : List Footprint) : Prop :=
  ∀ f ∈ h, ∀ owner phase, f.errand = .sweeps owner phase →
    ∀ slot, f.after slot ≠ f.before slot → Abandoned owner (f.before slot) (f.after slot)

theorem Sound.move [DecidableEq ι] (h : Sound s.history) {i : ι} {o : Ongoing}
    {next : Op.Progress Errand Yield × Words} (clean : s.Clean c)
    (strides : o.errand.Strides c (s.views c) next.1 (slotViews c next.2)) :
    Sound (s.move c i o next).history := by
  intro f mem owner phase sweeps slot changed
  rcases mem_history_move.mp mem with old | rfl
  · exact h f old owner phase sweeps slot changed
  · have treats := strides.treats slot
    rw [show o.errand = _ from sweeps] at treats
    exact abandoned_of_treats treats (clean.blank slot) changed

theorem Sound.step [DecidableEq ι] (h : Sound s.history) (orderly : s.Orderly c)
    (clean : s.Clean c) (step : Step c rule s s') : Sound s'.history := by
  cases step with
  | begins | uses | guards => exact fun f mem => h f mem
  | moves busy fails => exact h.move clean (orderly.strides busy fails)

/-! ## What a sweep comes to -/

structure Holds (c : UInt32) (s : Traffic ι) (owner : ThreadId) (slot : UInt32) : Prop where
  taken : (s.views c slot).taken = true
  held : (s.views c slot).contents.HeldBy owner

/-- The participant is in a sweep for `owner` with the number `n`, and has yet to come to the
slot. -/
def Nears (s : Traffic ι) (i : ι) (n : Nat) (owner : ThreadId) (slot : UInt32) : Prop :=
  ∃ t phase, s.ongoing i = some ⟨n, t, .sweeps owner phase⟩ ∧ phase.Ahead slot

/-- In a step `owner` has lost the mutex to somebody, and the sweep had yet to come to it. -/
structure Loses (c : UInt32) (i : ι) (n : Nat) (owner : ThreadId) (slot : UInt32)
    (s s' : Traffic ι) : Prop where
  before : s.Nears i n owner slot
  after : s'.Nears i n owner slot
  held : s.Holds c owner slot
  lost : ¬ s'.Holds c owner slot

/-- Where a sweep with the number `n` stands with a mutex that `owner` held when it began, and what
steps have been taken since. -/
inductive Reckoned (c : UInt32) (i : ι) (n : Nat) (owner : ThreadId) (slot : UInt32)
    (steps : List (Traffic ι × Traffic ι)) (s : Traffic ι) : Prop where
  | nears (nears : s.Nears i n owner slot) (holds : s.Holds c owner slot)
  | abandoned (mem : slot ∈ s.doneBy c SlotView.rewritten n)
  | stuck {t : Table} {phase : Table.SweepPhase}
      (busy : s.ongoing i = some ⟨n, t, .sweeps owner phase⟩) (mem : slot ∈ phase.tally.stuck)
  | reported {abandoned : Nat} {stuck : List UInt32} (mem : slot ∈ stuck)
      (ended : (n, .swept owner (.error (.sweepIncomplete abandoned stuck))) ∈ s.ended)
  | lost {x y : Traffic ι} (mem : (x, y) ∈ steps) (loses : Loses c i n owner slot x y)

/-! ### Steps -/

section Reckoning

variable [DecidableEq ι] {i : ι} {n : Nat} {owner : ThreadId} {slot : UInt32}

theorem Step.ended (step : Step c rule s s') {x : Nat × Yield} (mem : x ∈ s.ended) :
    x ∈ s'.ended := by
  cases step with
  | begins | uses | guards => exact mem
  | moves => exact mem_ended_move.mpr (.inl mem)

theorem Step.doneBy {p : SlotView → SlotView → Bool} (step : Step c rule s s')
    (mem : slot ∈ s.doneBy c p n) : slot ∈ s'.doneBy c p n := by
  cases step with
  | begins => rwa [doneBy_begin]
  | uses | guards => rwa [doneBy_within]
  | @moves i o busy fails =>
    by_cases own : n = o.call
    · rw [own, doneBy_move]
      exact List.mem_append_left _ (own ▸ mem)
    · rwa [doneBy_move_of_ne own]

namespace Reckoned

variable {steps : List (Traffic ι × Traffic ι)}

theorem others (h : Reckoned c i n owner slot steps s) (step : Step c rule s s')
    (same : ∀ o, s.ongoing i = some o → s'.ongoing i = some o) :
    Reckoned c i n owner slot (steps ++ [(s, s')]) s' := by
  cases h with
  | nears nears holds =>
    have still : s'.Nears i n owner slot := by
      obtain ⟨t, phase, busy, ahead⟩ := nears
      exact ⟨t, phase, same _ busy, ahead⟩
    by_cases kept : s'.Holds c owner slot
    · exact .nears still kept
    · exact .lost (List.mem_append_right _ (List.mem_singleton_self _)) ⟨nears, still, holds, kept⟩
  | abandoned mem => exact .abandoned (step.doneBy mem)
  | stuck busy mem => exact .stuck (same _ busy) mem
  | reported mem ended => exact .reported mem (step.ended ended)
  | lost mem loses => exact .lost (List.mem_append_left _ mem) loses

theorem move (h : Reckoned c i n owner slot steps s) {o : Ongoing} (busy : s.ongoing i = some o)
    {next : Op.Progress Errand Yield × Words}
    (strides : o.errand.Strides c (s.views c) next.1 (slotViews c next.2))
    (step : Step c rule s (s.move c i o next)) :
    Reckoned c i n owner slot (steps ++ [(s, s.move c i o next)]) (s.move c i o next) := by
  have goesOn {t : Table} {phase phase' : Table.SweepPhase} (is : o = ⟨n, t, .sweeps owner phase⟩)
      (on : next.1 = .next (.sweeps owner phase')) :
      (s.move c i o next).ongoing i = some ⟨n, t, .sweeps owner phase'⟩ :=
    ongoing_move.mpr (.inl ⟨rfl, _, on, by rw [is]⟩)
  cases h with
  | nears nears holds =>
    obtain ⟨t, phase, is, ahead⟩ := nears
    obtain rfl := Option.some.inj (busy.symm.trans is)
    rcases strides.of_sweep with ⟨on, kept⟩ | ⟨next', on, sweep⟩
    · refine .nears ⟨t, phase, goesOn rfl on, ahead⟩ ⟨?_, ?_⟩
      · rw [views_move, kept]
        exact holds.taken
      · rw [views_move, kept]
        exact holds.held
    rcases sweep.nears ahead (lt_of_taken holds.taken) holds.taken holds.held with
      ⟨phase', rfl, ahead', same⟩ | changed | ⟨phase', rfl, mem⟩
    · refine .nears ⟨t, phase', goesOn rfl on, ahead'⟩ ⟨?_, ?_⟩
      · rw [views_move, same]
        exact holds.taken
      · rw [views_move, same]
        exact holds.held
    · refine .abandoned ?_
      rw [doneBy_move (o := ⟨n, t, .sweeps owner phase⟩)]
      exact List.mem_append_right _ (mem_slotsWhere.mpr ⟨lt_of_taken holds.taken, changed⟩)
    · exact .stuck (goesOn rfl on) mem
  | abandoned mem => exact .abandoned (step.doneBy mem)
  | stuck is mem =>
    obtain rfl := Option.some.inj (busy.symm.trans is)
    rcases strides.of_sweep with ⟨on, -⟩ | ⟨next', on, sweep⟩
    · exact .stuck (goesOn rfl on) mem
    · rcases sweep.stuck mem with ⟨phase', rfl, mem'⟩ | ⟨abandoned, stuck, rfl, mem'⟩
      · exact .stuck (goesOn rfl on) mem'
      · exact .reported mem' (mem_ended_move.mpr (.inr ⟨rfl, on⟩))
  | reported mem ended => exact .reported mem (step.ended ended)
  | lost mem loses => exact .lost (List.mem_append_left _ mem) loses

theorem step (h : Reckoned c i n owner slot steps s) (orderly : s.Orderly c)
    (step : Step c rule s s') : Reckoned c i n owner slot (steps ++ [(s, s')]) s' := by
  cases id step with
  | @begins j t w idle =>
    refine h.others step fun o busy => ?_
    have other : i ≠ j := by
      rintro rfl
      rw [idle] at busy
      cases busy
    exact (Function.update_of_ne other ..).trans busy
  | @moves j o busy fails =>
    by_cases own : i = j
    · subst own
      exact h.move busy (orderly.strides busy fails) step
    · exact h.others step fun o' busy' => (Function.update_of_ne own ..).trans busy'
  | uses | guards => exact h.others step fun _ busy => busy

omit [DecidableEq ι] in
/-- A sweep that is over has abandoned the mutex, or tells that it could not, unless the owner has
lost it before. -/
theorem settled (h : Reckoned c i n owner slot steps s) (orderly : s.Orderly c) {y : Yield}
    (ended : (n, y) ∈ s.ended) :
    slot ∈ s.doneBy c SlotView.rewritten n ∨
      (∃ abandoned stuck, (n, .swept owner (.error (.sweepIncomplete abandoned stuck))) ∈ s.ended ∧
        slot ∈ stuck) ∨ ∃ x y, (x, y) ∈ steps ∧ Loses c i n owner slot x y := by
  cases h with
  | nears nears =>
    obtain ⟨t, phase, busy, -⟩ := nears
    exact absurd rfl (orderly.call_ne_past busy ended)
  | abandoned mem => exact .inl mem
  | stuck busy => exact absurd rfl (orderly.call_ne_past busy ended)
  | reported mem ended => exact .inr (.inl ⟨_, _, ended, mem⟩)
  | lost mem loses => exact .inr (.inr ⟨_, _, mem, loses⟩)

end Reckoned

end Reckoning

/-! ### Steps that are left -/

/-- How many steps a call has taken. -/
def stepsOf (s : Traffic ι) (n : Nat) : Nat := s.history.countP fun f => f.call = n

/-- A sweep with the number `n` is over, or has steps left of as many as it may take. -/
inductive Budgeted (i : ι) (n : Nat) (t : Table) (owner : ThreadId) (budget : Nat)
    (s : Traffic ι) : Prop where
  | underway {phase : Table.SweepPhase} (busy : s.ongoing i = some ⟨n, t, .sweeps owner phase⟩)
      (left : s.stepsOf n + phase.stepsLeft t.layout.bitmapWords ≤ budget)
  | finished {answer : Except SyncError Nat} (ended : (n, .swept owner answer) ∈ s.ended)

section Progress

variable [DecidableEq ι] {i : ι} {n : Nat} {t : Table} {owner : ThreadId} {budget : Nat}
  {o : Ongoing} {next : Op.Progress Errand Yield × Words}

theorem stepsOf_move : (s.move c i o next).stepsOf o.call = s.stepsOf o.call + 1 := by
  rw [stepsOf, move, List.countP_append, List.countP_singleton, decide_eq_true rfl]
  rfl

theorem stepsOf_move_of_ne (other : n ≠ o.call) : (s.move c i o next).stepsOf n = s.stepsOf n := by
  rw [stepsOf, move, List.countP_append, List.countP_singleton, decide_eq_false (Ne.symm other)]
  rfl

omit [DecidableEq ι] in
theorem Budgeted.within (h : Budgeted i n t owner budget s) (m : Words) :
    Budgeted i n t owner budget { s with memory := m } := by
  cases h with
  | @underway phase busy left =>
    have same : stepsOf { s with memory := m } n = s.stepsOf n := rfl
    exact .underway busy (same ▸ left)
  | finished ended => exact .finished ended

theorem Budgeted.move {phase : Table.SweepPhase} (bounded : t.policy.timeout ≠ none)
    (left : s.stepsOf n + phase.stepsLeft t.layout.bitmapWords ≤ budget) (fails : Bool) :
    Budgeted i n t owner budget (s.move c i ⟨n, t, .sweeps owner phase⟩
      ((Errand.sweeps owner phase).step t fails s.memory)) := by
  have advances := Table.sweepStep_advances bounded owner phase s.memory
  rw [Errand.step]
  generalize (t.sweepStep owner phase).result s.memory = ran at advances
  obtain ⟨outcome, m⟩ := ran
  dsimp only at advances ⊢
  generalize Op.Progress.among phase outcome = progress at advances ⊢
  cases advances with
  | goesOn fewer =>
    refine .underway (ongoing_move.mpr (.inl ⟨rfl, _, rfl, rfl⟩)) ?_
    rw [stepsOf_move (o := ⟨n, t, .sweeps owner phase⟩)]
    show s.stepsOf n + 1 + _ ≤ budget
    omega
  | ends answer => exact .finished (mem_ended_move.mpr (.inr ⟨rfl, rfl⟩))

theorem Budgeted.step (h : Budgeted i n t owner budget s) (bounded : t.policy.timeout ≠ none)
    (orderly : s.Orderly c) (step : Step c rule s s') : Budgeted i n t owner budget s' := by
  cases id h with
  | finished ended => exact .finished (step.ended ended)
  | @underway phase busy left =>
    cases step with
    | @begins j t' w idle =>
      have other : i ≠ j := by
        rintro rfl
        rw [idle] at busy
        cases busy
      exact .underway ((Function.update_of_ne other ..).trans busy) left
    | @moves j o busy' fails =>
      by_cases own : i = j
      · subst own
        obtain rfl := Option.some.inj (busy'.symm.trans busy)
        exact .move bounded left fails
      · refine .underway (ongoing_move.mpr (.inr ⟨own, busy⟩)) ?_
        rwa [stepsOf_move_of_ne (orderly.call_ne busy' busy own)]
    | uses | guards => exact h.within _

end Progress

/-! ## Every run -/

/-- What the sweeps of a run do, and what they tell. -/
structure SweepsRight [DecidableEq ι] (c : UInt32) (s : Traffic ι) : Prop where
  /-- A sweep for `owner` turns mutexes that `owner` holds at that instant into abandoned ones, and
  changes nothing else. -/
  safe : ∀ f ∈ s.history, ∀ owner phase, f.errand = .sweeps owner phase →
    ∀ slot, f.after slot ≠ f.before slot → Abandoned owner (f.before slot) (f.after slot)
  /-- It tells how many records it has changed, with an error or without one. -/
  counts : ∀ n owner answer, (n, .swept owner answer) ∈ s.ended →
    answer = .ok (s.doneBy c SlotView.rewritten n).length ∨
      ∃ stuck, stuck ≠ [] ∧
        answer = .error (.sweepIncomplete (s.doneBy c SlotView.rewritten n).length stuck)
  /-- A mutex that `owner` holds when a sweep begins is abandoned by it once the sweep is over, or
  listed as one that it could not visit, or `owner` has lost it in one of the steps in between,
  before the sweep came to it. -/
  complete : ∀ i n t owner slot, s.ongoing i = some ⟨n, t, .sweeps owner (.collect 0 [])⟩ →
    s.Holds c owner slot → ∀ steps s', Run c .users s steps s' → ∀ y, (n, y) ∈ s'.ended →
      slot ∈ s'.doneBy c SlotView.rewritten n ∨
        (∃ abandoned stuck,
          (n, .swept owner (.error (.sweepIncomplete abandoned stuck))) ∈ s'.ended ∧
            slot ∈ stuck) ∨
          ∃ x y, (x, y) ∈ steps ∧ Loses c i n owner slot x y
  /-- A sweep that does not wait for guards without a limit is over once it has taken so many steps
  of its own, whatever the others do in between. -/
  ends : ∀ i n t owner, s.ongoing i = some ⟨n, t, .sweeps owner (.collect 0 [])⟩ →
    t.policy.timeout ≠ none → ∀ steps s', Run c .users s steps s' →
      (∃ answer, (n, .swept owner answer) ∈ s'.ended) ∨
        s'.stepsOf n < s.stepsOf n + t.sweepBound

theorem Steps.sweepsRight [DecidableEq ι] {m : Words}
    (run : Steps c .users (initial (Table.layOut (Layout.ofCapacity c) m)) s) :
    s.SweepsRight c := by
  have kept : Sound s.history ∧ (abandonments c).Agrees s := by
    induction run with
    | refl => exact ⟨fun f mem => absurd mem List.not_mem_nil, Audit.agrees_initial _ _⟩
    | tail before step ih =>
      obtain ⟨sound, agrees⟩ := ih
      obtain ⟨orderly, -, clean⟩ := Steps.custody before
      exact ⟨sound.step orderly clean step, agrees.step orderly step⟩
  obtain ⟨sound, agrees⟩ := kept
  refine ⟨sound, fun n owner answer ended => agrees.ended _ _ ended, ?_, ?_⟩
  · intro i n t owner slot busy holds steps s' later y ended
    have reckoned : Reckoned c i n owner slot steps s' := by
      clear ended
      induction later with
      | refl => exact .nears ⟨t, _, busy, .inr (Nat.zero_le _)⟩ holds
      | tail before step ih => exact ih.step (Steps.custody (run.trans before.steps)).1 step
    exact reckoned.settled (Steps.custody (run.trans later.steps)).1 ended
  · intro i n t owner busy bounded steps s' later
    have budgeted : Budgeted i n t owner (s.stepsOf n + t.sweepBound) s' := by
      induction later with
      | refl => exact .underway busy (Nat.le_refl _)
      | tail before step ih => exact ih.step bounded (Steps.custody (run.trans before.steps)).1 step
    cases budgeted with
    | finished ended => exact .inl ⟨_, ended⟩
    | @underway phase _ left =>
      have some := phase.stepsLeft_pos t.layout.bitmapWords
      exact .inr (by omega)

theorem Steps.abandoned [DecidableEq ι] {t : Table} (serves : t.Serves 2) (m : Words) {i j : ι} :
    ∃ s : Traffic ι, Steps 2 .users (initial (Table.layOut (Layout.ofCapacity 2) m)) s ∧
      s.ended = [(0, .slot (.ok 0)), (1, .swept ⟨5⟩ (.ok 1))] := by
  obtain ⟨s₁, creation, created, holds⟩ := StepsOf.creates (i := i)
    (s := (initial (Table.layOut (Layout.ofCapacity 2) m) : Traffic ι)) .users rfl serves
    (Table.represents_layOut 2 m) (.mutex (some ⟨5⟩))
  have held : ((.empty : ObjectMap 2).create (.mutex (some ⟨5⟩))).2.objectAt 0 =
      .mutex (.heldBy ⟨5⟩) := rfl
  obtain ⟨m₂, sweeps⟩ := serves.abandonMutexes_result holds rfl held (by decide)
  have permits : Rule.users.Permits s₁.lent (.sweeps ⟨5⟩ (.collect 0 [])) := nofun
  obtain ⟨s₂, sweep, swept, -⟩ := StepsOf.made (i := j) (congrFun created.ongoing j) serves
    (.sweep ⟨5⟩) permits (Errand.sweep_alone (a := .ok 1) sweeps)
  refine ⟨s₂, creation.steps.trans sweep.steps, ?_⟩
  rw [swept.ended, created.ended, created.begun]
  rfl

end Traffic

/-- From the moment that a table is made, however the steps of the calls on it are interleaved, if
slots are filled and taken back by those who have them: a sweep abandons mutexes that its owner
holds at that instant and nothing else, tells how many it has abandoned, and misses none that the
owner holds until the sweep comes to it; and unless it waits for guards without a limit it is over
after so many steps of its own. -/
theorem sweep_abandons_what_owner_holds {ι : Type} [DecidableEq ι] {region : Region}
    {settings : TableSettings} {m m₀ : Words} {t : Table}
    (made : (Table.create region settings).result m = (.value t, m₀)) {s : Traffic ι}
    (run : Traffic.Steps settings.capacity .users (.initial m₀) s) :
    s.SweepsRight settings.capacity := by
  obtain ⟨valid, fits⟩ := Table.of_create made
  rw [Table.create_result valid fits] at made
  cases made
  exact Traffic.Steps.sweepsRight run

open Traffic in
/-- One participant makes a mutex that a thread holds. The thread is gone, and another participant
sweeps for it. -/
theorem sweep_abandons_mutex_of_other :
    ∃ (region : Region) (settings : TableSettings) (t : Table) (m₀ : Words) (s : Traffic Bool),
      (Table.create region settings).result Words.zero = (.value t, m₀) ∧
      Steps settings.capacity .users (initial m₀) s ∧
      s.ended = [(0, .slot (.ok 0)), (1, .swept ⟨5⟩ (.ok 1))] ∧
      s.SweepsRight settings.capacity := by
  have made : (Table.create { (default : Region) with size := 128 } ⟨2, Guard.hasty 7⟩).result
      Words.zero = (.value ⟨_, _, _⟩, _) := Table.create_result rfl (by decide) Words.zero
  have serves : Table.Serves 2 ⟨default, .ofCapacity 2, Guard.hasty 7⟩ := ⟨rfl, rfl⟩
  obtain ⟨s, run, ended⟩ := Steps.abandoned serves Words.zero (i := true) (j := false)
  exact ⟨_, _, _, _, s, made, run, ended, sweep_abandons_what_owner_holds made run⟩

end Interprocess
