import Interprocess.Proofs.Table.Concurrency

/-!
# Tables that are found full

A call that hands out a slot reads the bitmap word by word, and finds the table full once every word
was full when it came to it. Nobody keeps the words from changing meanwhile, so this need not mean
that all slots were handed out at one time (`full_table_found_with_free_slot`). It means that they
were, or that the call was overtaken (`scan_finds_full_or_is_overtaken`): a slot was taken back
behind the call and behind another that hands out, and the other then took a slot that the call had
not come to.

What carries the proof: a slot that is free behind two calls was taken back after both had passed
it, since each found it handed out in passing. So whoever takes the last slot ahead of a call, while
a slot behind it is free, was past that slot, too.
-/

namespace Interprocess

def FullTable (c : UInt32) (m : Words) : Prop :=
  ∀ slot, slot < c.toNat → slotBit c m slot = true

def FullWord (c : UInt32) (m : Words) (index : Nat) : Prop :=
  ∀ slot, slot < c.toNat → slot / 64 = index → slotBit c m slot = true

/-! ## Where a call has come to -/

namespace Work

/-- The word of the bitmap that a call looks at that has no slot yet. -/
def position : Work → Option Nat
  | handsOut (.look index) | handsOut (.claim index _ _) => some index
  | _ => none

/-- What a step of a call that hands out a slot can be. -/
inductive Hands (t : Table) (m : Words) : Table.AllocPhase → Op.Progress Work Return × Words → Prop
  where
  | looks {index : Nat} : Hands t m (.look index)
      (.next (.handsOut (t.seen index (t.bitmapWord m index))), m)
  | passesLast {index : Nat} (past : t.layout.bitmapWords ≤ index) {e : SyncError} :
      Hands t m (.look index) (.answer (.handsOut (.error e)), m)
  | claims {index bit : Nat} {m' : Words} :
      Hands t m (.claim index (t.bitmapWord m index) bit)
        (.next (.handsOut (.count (Table.slotAt index bit))), m')
  | loses {index bit : Nat} {current : UInt64} : Hands t m (.claim index current bit)
      (.next (.handsOut (t.seen index (t.bitmapWord m index))), m)
  | counts {slot : UInt32} {m' : Words} :
      Hands t m (.count slot) (.answer (.handsOut (.ok slot)), m')

theorem hands (t : Table) (m : Words) (phase : Table.AllocPhase) (fails : Bool) :
    Hands t m phase ((handsOut phase).step t fails m) := by
  cases phase with
  | look index =>
    by_cases inside : index < t.layout.bitmapWords
    · rw [step_handsOut (Table.allocStep_look inside fails)]
      exact .looks
    · rw [step_handsOut (Table.allocStep_look_past inside fails)]
      exact .passesLast (Nat.le_of_not_lt inside)
  | claim index current bit =>
    by_cases exchanged : t.bitmapWord m index = current ∧ fails = false
    · obtain ⟨rfl, rfl⟩ := exchanged
      rw [step_handsOut (Table.allocStep_claim t m index bit)]
      exact .claims
    · have other : t.bitmapWord m index ≠ current ∨ fails = true := by
        rwa [not_and_or, Bool.not_eq_false] at exchanged
      rw [step_handsOut (Table.allocStep_claim_of_other other bit)]
      exact .loses
  | count slot =>
    rw [step_handsOut (Table.allocStep_count t m fails slot)]
    exact .counts

theorem step_takesBack_cases (t : Table) (slot : UInt32) (phase : Table.FreePhase) (fails : Bool)
    (m : Words) :
    (∃ phase', ((takesBack slot phase).step t fails m).1 = .next (takesBack slot phase')) ∨
      ∃ answer, ((takesBack slot phase).step t fails m).1 = .answer (.takesBack slot answer) := by
  rcases ended : (t.freeStep slot phase).result m with ⟨outcome, m'⟩
  rw [step_takesBack ended]
  rcases outcome with (phase' | answer) | e | _
  · exact .inl ⟨phase', rfl⟩
  · exact .inr ⟨.ok answer, rfl⟩
  · exact .inr ⟨.error e, rfl⟩
  · exact .inl ⟨phase, rfl⟩

end Work

section Positions

variable {c : UInt32} {t : Table} {m m' : Words} {index : Nat} {w : Work} {fails : Bool}

theorem Table.Serves.fullWord_of_seen (serves : t.Serves c)
    (passed : t.seen index (t.bitmapWord m index) = .look (index + 1)) : FullWord c m index := by
  intro slot inside word
  have own : index * 64 + slot % 64 = slot := by omega
  unfold seen at passed
  split at passed
  · cases passed
  · rename_i none
    have masked : Bitmap.isSet (t.mask index) (slot % 64) = true := by
      rw [serves.isSet_mask index (by omega), own]
      exact decide_eq_true inside
    have set := Bitmap.lowestClear_eq_none none masked
    rw [serves.isSet_bitmapWord index (by omega), own] at set
    exact set

theorem Table.Serves.position_seen (serves : t.Serves c) {next : Nat}
    (stands : (Work.handsOut (t.seen index (t.bitmapWord m index))).position = some next) :
    next = index ∨ next = index + 1 ∧ FullWord c m index := by
  rcases serves.seen_cases index (t.bitmapWord m index) with passed | ⟨bit, found, -⟩
  · rw [passed] at stands
    exact .inr ⟨(Option.some.inj stands).symm, serves.fullWord_of_seen passed⟩
  · rw [found] at stands
    exact .inl (Option.some.inj stands).symm

theorem Work.position_of_next (serves : t.Serves c) {w' : Work}
    (ran : w.step t fails m = (.next w', m')) {n next : Nat} (stands : w'.position = some next) :
    w.event n (.next w') = none ∧ ∃ index, w.position = some index ∧
      (next = index ∨ next = index + 1 ∧ FullWord c m index) := by
  cases w with
  | handsOut phase =>
    have hands := hands t m phase fails
    rw [ran] at hands
    cases hands with
    | looks => exact ⟨rfl, _, rfl, serves.position_seen stands⟩
    | claims => cases stands
    | @loses index bit current =>
      refine ⟨?_, index, rfl, serves.position_seen stands⟩
      rcases serves.seen_cases index (t.bitmapWord m index) with seen | ⟨bit', seen, -⟩
      · rw [seen]
        rfl
      · rw [seen]
        rfl
  | takesBack slot phase =>
    have goesOn := step_takesBack_cases t slot phase fails m
    rw [ran] at goesOn
    rcases goesOn with ⟨phase', same⟩ | ⟨answer, same⟩
    · cases same
      cases stands
    · cases same

theorem Work.position_of_claimed (fits : w.Fits c) {next : Op.Progress Work Return}
    (ran : w.step t fails m = (next, m')) {n o : Nat} {slot : UInt32}
    (claimed : w.event n next = some (.claimed o slot)) :
    o = n ∧ w.position = some (Table.wordOf slot) ∧ next = .next (.handsOut (.count slot)) := by
  unfold event at claimed
  split at claimed
  · rename_i index current bit slot'
    obtain ⟨rfl, rfl⟩ := SlotEvent.claimed.inj (Option.some.inj claimed)
    obtain ⟨small, -, inside⟩ := fits
    refine ⟨rfl, ?_, rfl⟩
    have hands := hands t m (.claim index current bit) fails
    rw [ran] at hands
    generalize counts : Op.Progress.next (handsOut (.count slot')) = next at hands
    cases hands with
    | claims =>
      cases counts
      have number : (Table.slotAt index bit).toNat = index * 64 + bit :=
        UInt32.toNat_ofNat_of_lt' (Nat.lt_trans inside c.toNat_lt)
      rw [position, Table.wordOf, number, Option.some.injEq]
      omega
    | loses =>
      rw [Table.seen] at counts
      split at counts <;> cases counts
  all_goals cases claimed

theorem Work.position_of_failed {e : SyncError}
    (ran : w.step t fails m = (.answer (.handsOut (.error e)), m')) :
    ∃ index, w.position = some index ∧ t.layout.bitmapWords ≤ index := by
  cases w with
  | handsOut phase =>
    have hands := hands t m phase fails
    rw [ran] at hands
    cases hands with
    | @passesLast index past => exact ⟨index, rfl, past⟩
  | takesBack slot phase =>
    have goesOn := step_takesBack_cases t slot phase fails m
    rw [ran] at goesOn
    rcases goesOn with ⟨phase', same⟩ | ⟨answer, same⟩ <;> cases same

end Positions

/-! ## Slots that change hands -/

namespace Effect

variable {c : UInt32} {m m' : Words} {e : Option SlotEvent} {slot : Nat}

theorem cleared_of_freed (effect : Effect c e m m') (inside : slot < c.toNat)
    (was : slotBit c m slot ≠ false) (free : slotBit c m' slot = false) :
    ∃ n slot', e = some (.cleared n slot') ∧ slot'.toNat = slot := by
  rw [effect.bits slot (Layout.word_lt inside)] at free
  cases e with
  | none => exact absurd free was
  | some e =>
    cases e with
    | cleared n slot' =>
      refine ⟨n, slot', rfl, ?_⟩
      by_contra other
      exact was ((if_neg (Ne.symm other)).symm.trans free)
    | claimed n slot' =>
      by_cases own : slot = slot'.toNat
      · exact absurd ((if_pos own).symm.trans free) Bool.noConfusion
      · exact absurd ((if_neg own).symm.trans free) was
    | missed | added | subtracted => exact absurd free was

theorem claimed_of_taken (effect : Effect c e m m') (inside : slot < c.toNat)
    (free : slotBit c m slot = false) (taken : slotBit c m' slot ≠ false) :
    ∃ n slot', e = some (.claimed n slot') ∧ slot'.toNat = slot ∧
      ∀ other, other < c.toNat → slotBit c m' other = false → slotBit c m other = false := by
  have bits := effect.bits
  rw [bits slot (Layout.word_lt inside)] at taken
  cases e with
  | none => exact absurd free taken
  | some e =>
    cases e with
    | claimed n slot' =>
      refine ⟨n, slot', rfl, ?_, ?_⟩
      · by_contra apart
        exact taken ((if_neg (Ne.symm apart)).trans free)
      · intro other small clear
        rw [bits other (Layout.word_lt small)] at clear
        by_cases own : other = slot'.toNat
        · exact absurd ((if_pos own).symm.trans clear) Bool.noConfusion
        · exact (if_neg own).symm.trans clear
    | cleared n slot' =>
      by_cases own : slot = slot'.toNat
      · exact absurd (if_pos own) taken
      · exact absurd ((if_neg own).trans free) taken
    | missed | added | subtracted => exact absurd free taken

end Effect

/-! ## Steps of a shared table -/

namespace SharedTable

variable {ι : Type} {c : UInt32} {m : Words} {s s' : SharedTable ι} {n : Nat}

/-- The call with number `n` looks for a slot and has come to this word of the bitmap. -/
def Stands (s : SharedTable ι) (n index : Nat) : Prop :=
  ∃ i task, s.task i = some task ∧ task.call = n ∧ task.work.position = some index

theorem Stands.lt_begun (h : s.Attributed c) {index : Nat} (stands : s.Stands n index) :
    n < s.begun := by
  obtain ⟨i, task, busy, rfl, -⟩ := stands
  exact h.apart.below i _ (Attributed.callOf_of_busy busy)

theorem Stands.unique (h : s.Attributed c) {index index' : Nat} (stands : s.Stands n index)
    (stands' : s.Stands n index') : index = index' := by
  obtain ⟨i, task, busy, rfl, position⟩ := stands
  obtain ⟨j, task', busy', same, position'⟩ := stands'
  by_cases own : j = i
  · subst own
    obtain rfl := Option.some.inj (busy.symm.trans busy')
    exact Option.some.inj (position.symm.trans position')
  · exact absurd same (h.call_ne busy busy' own)

/-- What a step does that logs an event, or none: where the calls stand after it that look for a
slot, and what those looked for that got one. -/
structure Passes (c : UInt32) (e : Option SlotEvent) (s s' : SharedTable ι) : Prop where
  log : s'.log = s.log ++ e.toList
  effect : Effect c e s.memory s'.memory
  begun : s.begun ≤ s'.begun
  stands : ∀ o index, s'.Stands o index → s.Stands o index ∨ o = s.begun ∧ index = 0 ∨
    e = none ∧ ∃ before, index = before + 1 ∧ s.Stands o before ∧ FullWord c s.memory before
  claims : ∀ o slot, e = some (.claimed o slot) →
    s.Stands o (Table.wordOf slot) ∧ ∀ index, ¬ s'.Stands o index

/-! ## What a scan finds out -/

/-- The step clears the bit of a slot in a word that the calls `n` and `o` have both passed. -/
def ClearsBehind (n o : Nat) (s s' : SharedTable ι) (word : Nat) : Prop :=
  ∃ call slot, s'.log = s.log ++ [.cleared call slot] ∧ Table.wordOf slot = word ∧
    (∃ index, s.Stands n index ∧ word < index) ∧ ∃ index, s.Stands o index ∧ word < index

/-- The call `n` is overtaken by the call `o`: after a slot behind both of them was taken back in
step `a`, the other claims a slot in step `b` that `n` has not passed. -/
structure Overtakes (n o : Nat) (states : Nat → SharedTable ι) (a b : Nat) : Prop where
  other : o ≠ n
  later : a < b
  clears : ∃ word, ClearsBehind n o (states a) (states (a + 1)) word
  claims : ∃ slot index, (states (b + 1)).log = (states b).log ++ [.claimed o slot] ∧
    (states b).Stands n index ∧ index ≤ Table.wordOf slot

/-- What a call has found out by step `k` when it has come to a word. -/
structure Found (c : UInt32) (n : Nat) (states : Nat → SharedTable ι) (k index : Nat) : Prop where
  /-- The words that it has passed were full when it passed them, one after another. -/
  words : ∃ seen : Nat → Nat,
    (∀ word, word < index → seen word < k ∧ FullWord c (states (seen word)).memory word) ∧
      ∀ word word', word ≤ word' → word' < index → seen word ≤ seen word'
  /-- A slot that is free behind it and behind another call was taken back behind both. -/
  behind : ∀ o other, o ≠ n → (states k).Stands o other → ∀ slot, slot < c.toNat →
    slotBit c (states k).memory slot = false → slot / 64 < index → slot / 64 < other →
      ∃ a, a < k ∧ ClearsBehind n o (states a) (states (a + 1)) (slot / 64)
  ahead : (∃ j, j ≤ k ∧ FullTable c (states j).memory) ∨
    (∃ o a b, b < k ∧ Overtakes n o states a b) ∨
      ∃ slot, slot < c.toNat ∧ slotBit c (states k).memory slot = false ∧ index ≤ slot / 64

namespace Found

variable {states : Nat → SharedTable ι} {k before index : Nat} {e : Option SlotEvent}

/-- How the call gets on in a step: it stays at its word, or finds it full and goes on. -/
def Goes (c : UInt32) (e : Option SlotEvent) (m : Words) (before index : Nat) : Prop :=
  index = before ∨ e = none ∧ index = before + 1 ∧ FullWord c m before

/-- A free slot that has its bit before the word that a call goes on to has it before the word that
the call comes from, since that one was full. -/
theorem Goes.lt_of_free {m : Words} (goes : Goes c e m before index) {slot : Nat}
    (inside : slot < c.toNat) (free : slotBit c m slot = false) :
    slot / 64 < index ↔ slot / 64 < before := by
  rcases goes with rfl | ⟨-, rfl, full⟩
  · exact Iff.rfl
  · have other : slot / 64 ≠ before := by
      intro same
      have set := full slot inside same
      rw [free] at set
      cases set
    omega

theorem start (c : UInt32) (n : Nat) (states : Nat → SharedTable ι) : Found c n states 0 0 := by
  refine ⟨⟨fun _ => 0, fun word below => absurd below (Nat.not_lt_zero _),
    fun _ _ _ _ => Nat.le_refl 0⟩, fun _ _ _ _ _ _ _ below => absurd below (Nat.not_lt_zero _), ?_⟩
  by_cases full : FullTable c (states 0).memory
  · exact .inl ⟨0, Nat.le_refl 0, full⟩
  · unfold FullTable at full
    push Not at full
    obtain ⟨slot, inside, free⟩ := full
    exact .inr (.inr ⟨slot, inside, Bool.eq_false_of_not_eq_true free, Nat.zero_le _⟩)

section Step

variable (found : Found c n states k before) (passes : Passes c e (states k) (states (k + 1)))
  (stood : (states k).Stands n before) (goes : Goes c e (states k).memory before index)

include found goes in
theorem words_step : ∃ seen : Nat → Nat,
    (∀ word, word < index → seen word < k + 1 ∧ FullWord c (states (seen word)).memory word) ∧
      ∀ word word', word ≤ word' → word' < index → seen word ≤ seen word' := by
  obtain ⟨seen, full, order⟩ := found.words
  rcases goes with rfl | ⟨-, rfl, passed⟩
  · refine ⟨seen, fun word below => ?_, order⟩
    exact ⟨Nat.lt_succ_of_lt (full word below).1, (full word below).2⟩
  · refine ⟨Function.update seen before k, ?_, ?_⟩
    · intro word below
      by_cases last : word = before
      · rw [last, Function.update_self]
        exact ⟨Nat.lt_succ_self k, passed⟩
      · have earlier : word < before := by omega
        rw [Function.update_of_ne last]
        exact ⟨Nat.lt_succ_of_lt (full word earlier).1, (full word earlier).2⟩
    · intro word word' le below
      by_cases last : word' = before
      · rw [last, Function.update_self]
        by_cases both : word = before
        · rw [both, Function.update_self]
        · rw [Function.update_of_ne both]
          exact Nat.le_of_lt (full word (by omega)).1
      · have earlier : word ≠ before := by omega
        rw [Function.update_of_ne last, Function.update_of_ne earlier]
        exact order word word' le (by omega)

include found passes stood goes in
theorem behind_step (o other : Nat) (apart : o ≠ n) (stands : (states (k + 1)).Stands o other)
    (slot : Nat) (inside : slot < c.toNat) (free : slotBit c (states (k + 1)).memory slot = false)
    (passed : slot / 64 < index) (passed' : slot / 64 < other) :
    ∃ a, a < k + 1 ∧ ClearsBehind n o (states a) (states (a + 1)) (slot / 64) := by
  -- where the other call was before this step
  obtain ⟨before', stood', goes'⟩ : ∃ before', (states k).Stands o before' ∧
      Goes c e (states k).memory before' other := by
    rcases passes.stands o other stands with same | ⟨-, rfl⟩ | ⟨silent, before', rfl, stood', full⟩
    · exact ⟨other, same, .inl rfl⟩
    · exact absurd passed' (Nat.not_lt_zero _)
    · exact ⟨before', stood', .inr ⟨silent, rfl, full⟩⟩
  by_cases was : slotBit c (states k).memory slot = false
  · rw [goes.lt_of_free inside was] at passed
    rw [goes'.lt_of_free inside was] at passed'
    obtain ⟨a, earlier, clears⟩ :=
      found.behind o before' apart stood' slot inside was passed passed'
    exact ⟨a, Nat.lt_succ_of_lt earlier, clears⟩
  · -- it was taken back just now, while both calls stayed where they were
    obtain ⟨call, slot', rfl, rfl⟩ := passes.effect.cleared_of_freed inside was free
    obtain rfl : index = before := goes.resolve_right nofun
    obtain rfl : other = before' := goes'.resolve_right nofun
    exact ⟨k, Nat.lt_succ_self k, call, slot', passes.log, rfl, ⟨_, stood, passed⟩,
      ⟨_, stood', passed'⟩⟩

include found passes stood goes in
theorem ahead_step (stands : (states (k + 1)).Stands n index) :
    (∃ j, j ≤ k + 1 ∧ FullTable c (states j).memory) ∨
      (∃ o a b, b < k + 1 ∧ Overtakes n o states a b) ∨
        ∃ slot, slot < c.toNat ∧ slotBit c (states (k + 1)).memory slot = false ∧
          index ≤ slot / 64 := by
  rcases found.ahead with ⟨j, past, full⟩ | ⟨o, a, b, past, overtakes⟩ | ⟨slot, inside, free, reach⟩
  · exact .inl ⟨j, Nat.le_succ_of_le past, full⟩
  · exact .inr (.inl ⟨o, a, b, Nat.lt_succ_of_lt past, overtakes⟩)
  · by_cases still : slotBit c (states (k + 1)).memory slot = false
    · have passed := goes.lt_of_free inside free
      exact .inr (.inr ⟨slot, inside, still, by omega⟩)
    obtain ⟨o, slot', rfl, rfl, others⟩ := passes.effect.claimed_of_taken inside free still
    obtain rfl : index = before := goes.resolve_right nofun
    obtain ⟨stood', gone⟩ := passes.claims o slot' rfl
    by_cases full : FullTable c (states (k + 1)).memory
    · exact .inl ⟨k + 1, Nat.le_refl _, full⟩
    unfold FullTable at full
    push Not at full
    obtain ⟨left, small, clear⟩ := full
    have clear := Bool.eq_false_of_not_eq_true clear
    by_cases ahead : index ≤ left / 64
    · exact .inr (.inr ⟨left, small, clear, ahead⟩)
    · -- a slot behind the call is free, and the other call has just taken one ahead of it
      have apart : o ≠ n := by
        rintro rfl
        exact gone index stands
      have word : Table.wordOf slot' = slot'.toNat / 64 := rfl
      obtain ⟨a, earlier, clears⟩ := found.behind o _ apart stood' left small
        (others left small clear) (by omega) (by omega)
      exact .inr (.inl ⟨o, a, k, Nat.lt_succ_self k, apart, earlier, ⟨_, clears⟩, slot', index,
        passes.log, stood, reach⟩)

end Step

theorem step (found : Found c n states k before)
    (passes : Passes c e (states k) (states (k + 1))) (stood : (states k).Stands n before)
    (goes : Goes c e (states k).memory before index) (stands : (states (k + 1)).Stands n index) :
    Found c n states (k + 1) index :=
  ⟨words_step found goes, behind_step found passes stood goes,
    ahead_step found passes stood goes stands⟩

end Found

/-! ## Single steps -/

variable [DecidableEq ι]

theorem stands_assign {i : ι} {task : Option Task} {index : Nat}
    (stands : (s.assign i task).Stands n index) :
    (∃ mine, task = some mine ∧ mine.call = n ∧ mine.work.position = some index) ∨
      ∃ j other, j ≠ i ∧ s.task j = some other ∧ other.call = n ∧
        other.work.position = some index := by
  obtain ⟨j, other, busy, call, position⟩ := stands
  by_cases own : j = i
  · rw [own, assign_task_self] at busy
    exact .inl ⟨other, busy, call, position⟩
  · rw [assign_task_of_ne _ _ own] at busy
    exact .inr ⟨j, other, own, busy, call, position⟩

theorem Step.passes (h : s.Attributed c) (step : Step c s s') : ∃ e, Passes c e s s' := by
  cases step with
  | @begins i t w idle serves starts =>
    refine ⟨none, (List.append_nil _).symm, .none (.refl c s.memory), Nat.le_succ _, ?_, nofun⟩
    intro o index stands
    rcases stands_assign stands with ⟨mine, same, rfl, position⟩ | ⟨j, other, -, rest⟩
    · cases same
      cases starts with
      | handsOut => exact .inr (.inl ⟨rfl, (Option.some.inj position).symm⟩)
      | takesBack slot => cases position
    · exact .inl ⟨j, other, rest⟩
  | @goesOn i task fails w m busy ran =>
    have moves := h.moves busy fails
    rw [ran] at moves
    obtain ⟨serves, fits, -⟩ := h.tasks i task busy
    refine ⟨_, rfl, moves.effect, Nat.le_refl _, ?_, ?_⟩
    · intro o index stands
      rcases stands_assign stands with ⟨mine, same, rfl, position⟩ | ⟨j, other, -, rest⟩
      · cases same
        obtain ⟨silent, before, stood, rfl | ⟨rfl, full⟩⟩ :=
          Work.position_of_next (n := task.call) serves ran position
        · exact .inl ⟨i, task, busy, rfl, stood⟩
        · exact .inr (.inr ⟨silent, before, rfl, ⟨i, task, busy, rfl, stood⟩, full⟩)
      · exact .inl ⟨j, other, rest⟩
    · intro o slot claimed
      obtain ⟨rfl, stood, counts⟩ := Work.position_of_claimed fits ran claimed
      refine ⟨⟨i, task, busy, rfl, stood⟩, fun index stands => ?_⟩
      rcases stands_assign stands with ⟨mine, same, -, position⟩ | ⟨j, other, apart, busy', same, -⟩
      · cases same
        cases counts
        cases position
      · exact h.call_ne busy busy' apart same
  | @returns i task fails r m busy ran =>
    have moves := h.moves busy fails
    rw [ran] at moves
    obtain ⟨-, fits, -⟩ := h.tasks i task busy
    refine ⟨_, rfl, moves.effect, Nat.le_refl _, ?_, ?_⟩
    · intro o index stands
      rcases stands_assign stands with ⟨mine, same, -⟩ | ⟨j, other, -, rest⟩
      · cases same
      · exact .inl ⟨j, other, rest⟩
    · intro o slot claimed
      obtain ⟨-, -, counts⟩ := Work.position_of_claimed fits ran claimed
      cases counts
  | others same =>
    exact ⟨none, (List.append_nil _).symm, .none same, Nat.le_refl _, fun _ _ => .inl, nofun⟩

theorem Step.position_of_failed (h : s.Attributed c) (step : Step c s s') {e : SyncError}
    (ended : s'.ended = s.ended ++ [(n, .handsOut (.error e))]) :
    ∃ index, s.Stands n index ∧ (Layout.ofCapacity c).bitmapWords ≤ index := by
  have more : s'.ended.length = s.ended.length + 1 := by
    rw [ended, List.length_append, List.length_singleton]
  cases step with
  | begins | goesOn | others => exact absurd more (Nat.ne_of_lt (Nat.lt_succ_self _))
  | @returns i task fails r m busy ran =>
    obtain ⟨rfl, rfl⟩ := Prod.mk.inj (List.singleton_inj.mp (List.append_cancel_left ended))
    obtain ⟨index, stood, past⟩ := Work.position_of_failed ran
    rw [(h.tasks i task busy).1.layout] at past
    exact ⟨index, ⟨i, task, busy, rfl, stood⟩, past⟩

/-! ## Scans of the bitmap -/

/-- A run in which the call with number `n`, which is about to look at the first word of the bitmap,
ends with the finding that the table is full. The call is in progress in the states up to `last`,
and ends in the step after that. -/
structure FindsFull (c : UInt32) (m : Words) (n : Nat) (states : Nat → SharedTable ι) (last : Nat) :
    Prop where
  reached : Reachable c m (states 0)
  steps : ∀ k, k ≤ last → Step c (states k) (states (k + 1))
  begins : ∃ i t, (states 0).task i = some ⟨n, t, .handsOut (.look 0)⟩
  ends : (states (last + 1)).ended =
    (states last).ended ++ [(n, .handsOut (.error (.tableFull c)))]

namespace FindsFull

variable {states : Nat → SharedTable ι} {last : Nat}

theorem reachable (h : FindsFull c m n states last) {k : Nat} (within : k ≤ last + 1) :
    Reachable c m (states k) := by
  induction k with
  | zero => exact h.reached
  | succ k ih => exact .step (ih (by omega)) (h.steps k (by omega))

theorem attributed (h : FindsFull c m n states last) {k : Nat} (within : k ≤ last + 1) :
    (states k).Attributed c :=
  (h.reachable within).attributed

theorem stands_first (h : FindsFull c m n states last) : (states 0).Stands n 0 := by
  obtain ⟨i, t, busy⟩ := h.begins
  exact ⟨i, _, busy, rfl, rfl⟩

theorem lt_begun (h : FindsFull c m n states last) {k : Nat} (within : k ≤ last + 1) :
    n < (states k).begun := by
  induction k with
  | zero => exact h.stands_first.lt_begun (h.attributed within)
  | succ k ih =>
    obtain ⟨e, passes⟩ := (h.steps k (by omega)).passes (h.attributed (by omega))
    exact Nat.lt_of_lt_of_le (ih (by omega)) passes.begun

end FindsFull

theorem FindsFull.found {states : Nat → SharedTable ι} {last : Nat}
    (h : FindsFull c m n states last) {k : Nat} (within : k ≤ last) {index : Nat}
    (stands : (states k).Stands n index) : Found c n states k index := by
  -- on the steps of the run, following the call from word to word
  induction k generalizing index with
  | zero =>
    rw [stands.unique (h.attributed (by omega)) h.stands_first]
    exact .start c n states
  | succ k ih =>
    obtain ⟨e, passes⟩ := (h.steps k (by omega)).passes (h.attributed (by omega))
    rcases passes.stands n index stands with stood | ⟨fresh, -⟩ | ⟨silent, before, rfl, stood, full⟩
    · exact (ih (by omega) stood).step passes stood (.inl rfl) stands
    · have begun := h.lt_begun (k := k) (by omega)
      omega
    · exact (ih (by omega) stood).step passes stood (.inr ⟨silent, rfl, full⟩) stands

/-! ## Runs of single steps -/

/-- A run from a state that is reached to another, all of whose states are so. -/
def Runs (c : UInt32) (m : Words) (p : SharedTable ι → Prop) (s s' : SharedTable ι) : Prop :=
  Reachable c m s ∧ ∃ (states : Nat → SharedTable ι) (last : Nat),
    states 0 = s ∧ states last = s' ∧ (∀ k, k < last → Step c (states k) (states (k + 1))) ∧
      ∀ k, k ≤ last → p (states k)

section Runs

variable {p : SharedTable ι → Prop} {s s' s'' : SharedTable ι}

theorem Runs.start (reached : Reachable c m s) (so : p s) : Runs c m p s s :=
  ⟨reached, fun _ => s, 0, rfl, rfl, fun _ below => absurd below (Nat.not_lt_zero _), fun _ _ => so⟩

theorem steps_update {states : Nat → SharedTable ι} {last : Nat}
    (steps : ∀ k, k < last → Step c (states k) (states (k + 1))) (step : Step c (states last) s'')
    (k : Nat) (within : k ≤ last) :
    Step c (Function.update states (last + 1) s'' k)
      (Function.update states (last + 1) s'' (k + 1)) := by
  rw [Function.update_of_ne (a := k) (by omega)]
  by_cases final : k = last
  · rw [final, Function.update_self]
    exact step
  · rw [Function.update_of_ne (by omega)]
    exact steps k (by omega)

theorem Runs.step (run : Runs c m p s s') (step : Step c s' s'') (so : p s'') :
    Runs c m p s s'' := by
  obtain ⟨reached, states, last, rfl, rfl, steps, all⟩ := run
  have same {k : Nat} (within : k ≤ last) :
      Function.update states (last + 1) s'' k = states k := Function.update_of_ne (by omega) ..
  refine ⟨reached, Function.update states (last + 1) s'', last + 1, same (Nat.zero_le _),
    Function.update_self .., ?_, ?_⟩
  · intro k below
    exact steps_update steps step k (by omega)
  · intro k within
    by_cases final : k = last + 1
    · rw [final, Function.update_self]
      exact so
    · rw [same (by omega)]
      exact all k (by omega)

theorem Runs.findsFull (run : Runs c m p s s') {i : ι} {t : Table}
    (begins : s.task i = some ⟨n, t, .handsOut (.look 0)⟩) (step : Step c s' s'')
    (ends : s''.ended = s'.ended ++ [(n, .handsOut (.error (.tableFull c)))]) :
    ∃ states last, FindsFull c m n states last ∧ ∀ k, k ≤ last → p (states k) := by
  obtain ⟨reached, states, last, rfl, rfl, steps, all⟩ := run
  have same {k : Nat} (within : k ≤ last) :
      Function.update states (last + 1) s'' k = states k := Function.update_of_ne (by omega) ..
  refine ⟨Function.update states (last + 1) s'', last,
    ⟨?_, steps_update steps step, ⟨i, t, ?_⟩, ?_⟩, ?_⟩
  · rw [same (Nat.zero_le _)]
    exact reached
  · rw [same (Nat.zero_le _)]
    exact begins
  · rw [Function.update_self, same (Nat.le_refl _)]
    exact ends
  · intro k within
    rw [same within]
    exact all k within

end Runs

/-! ## A call that is overtaken -/

section Overtaken

variable {t : Table}

theorem step_look_full (serves : t.Serves c) {index : Nat}
    (inside : index < (Layout.ofCapacity c).bitmapWords) (full : FullWord c m index) :
    (Work.handsOut (.look index)).step t false m = (.next (.handsOut (.look (index + 1))), m) := by
  have looked := Work.step_handsOut (Table.allocStep_look (m := m) (serves.layout ▸ inside) false)
  rcases serves.seen_cases index (t.bitmapWord m index) with passed | ⟨bit, -, small, clear, within⟩
  · rw [passed] at looked
    exact looked
  · have set := full (index * 64 + bit) within (by omega)
    rw [serves.isSet_bitmapWord index small, set] at clear
    cases clear

theorem Reachable.allocates (serves : t.Serves c) (reached : Reachable c m s)
    (idle : ∀ i, s.task i = none) (i : ι) (slot : Nat) (inside : slot < c.toNat)
    (first : slot / 64 = 0) (free : slotBit c s.memory slot = false)
    (below : ∀ other, other < slot → slotBit c s.memory other = true) :
    ∃ s' : SharedTable ι, Reachable c m s' ∧ (∀ i, s'.task i = none) ∧
      s'.memory = t.mark s.memory slot := by
  have look := serves.step_look_free inside free fun other less _ => below other less
  have claim := Work.step_handsOut (Table.allocStep_claim t s.memory (slot / 64) (slot % 64))
  have count := Work.step_handsOut (Table.allocStep_count t
    (s.memory.setLong (t.layout.bitmapIndex (slot / 64))
      (t.bitmapWord s.memory (slot / 64) ||| Bitmap.bit (slot % 64))) false
    (Table.slotAt (slot / 64) (slot % 64)))
  rw [first] at look claim count
  have begun : Reachable c m (assign { s with begun := s.begun + 1 } i
      (some ⟨s.begun, t, .handsOut (.look 0)⟩)) :=
    reached.step (.begins (idle i) serves .handsOut)
  have looked := begun.step (.goesOn (assign_task_self ..) look)
  have claimed := looked.step (.goesOn (assign_task_self ..) claim)
  have counted := claimed.step (.returns (assign_task_self ..) count)
  refine ⟨_, counted, fun j => ?_, ?_⟩
  · by_cases own : j = i
    · rw [own]
      exact assign_task_self ..
    · simp [assign_task_of_ne, own, idle j]
  · rw [Table.mark, first]
    rfl

theorem Reachable.fills (serves : t.Serves c) (m : Words) (i : ι) (count : Nat)
    (few : count ≤ c.toNat) (first : count ≤ 64) :
    ∃ s : SharedTable ι, Reachable c (Table.layOut (Layout.ofCapacity c) m) s ∧
      (∀ i, s.task i = none) ∧
      (∀ slot, slot < c.toNat → slotBit c s.memory slot = decide (slot < count)) ∧
      ∀ slot : UInt32, slot < c →
        s.memory.record ((Layout.ofCapacity c).recordIndex slot) = .blank := by
  induction count with
  | zero =>
    refine ⟨_, .initial, fun _ => rfl, fun slot inside => ?_, fun slot => Table.record_layOut c m⟩
    exact Table.slotBit_layOut c m (Layout.word_lt inside)
  | succ count ih =>
    obtain ⟨s, reached, idle, bits, blank⟩ := ih (by omega) (by omega)
    have number : (UInt32.ofNat count).toNat = count :=
      UInt32.toNat_ofNat_of_lt' (Nat.lt_trans (by omega) c.toNat_lt)
    have inside : UInt32.ofNat count < c := by
      rw [UInt32.lt_iff_toNat_lt, number]
      omega
    obtain ⟨s', reached', idle', memory⟩ := reached.allocates serves idle i count
      (by omega) (by omega) (by rw [bits _ (by omega)]; simp)
      (fun other less => by rw [bits _ (by omega)]; exact decide_eq_true less)
    rw [← number, serves.mark_eq] at memory
    refine ⟨s', reached', idle', fun slot within => ?_, fun slot within => ?_⟩
    · rw [memory, Table.slotBit_withMark, bits slot within, number]
      split
      · rename_i same
        exact (decide_eq_true (by omega)).symm
      · rw [decide_eq_decide]
        omega
    · rw [memory, withMark, Table.record_putWord inside, blank slot within]

/-- The first slot of a table of 65 is taken back where only the last is free, and the last slot is
handed out after that. The first word of the bitmap is full before, the other after. -/
theorem steps_of_overtaken (serves : t.Serves 65)
    (bits : ∀ slot, slot < 65 → slotBit 65 m slot = decide (slot < 64))
    (blank : m.record ((Layout.ofCapacity 65).recordIndex 0) = .blank) :
    ∃ kind slot m₁ m₂ m₃,
      ((Work.takesBack 0 .check).step t false m = (.next (.takesBack 0 .retire), m) ∧
        (Work.takesBack 0 .retire).step t false m = (.next (.takesBack 0 (.clear kind)), m₁) ∧
        (Work.takesBack 0 (.clear kind)).step t false m₁ =
          (.next (.takesBack 0 (.count kind)), m₂)) ∧
      ((Work.handsOut (.look 1)).step t false m₂ =
          (.next (.handsOut (.claim 1 (t.bitmapWord m₂ 1) 0)), m₂) ∧
        (Work.handsOut (.claim 1 (t.bitmapWord m₂ 1) 0)).step t false m₂ =
          (.next (.handsOut (.count slot)), m₃)) ∧
      FullWord 65 m 0 ∧ FullWord 65 m₁ 0 ∧ FullWord 65 m₃ 1 ∧
      ¬ FullTable 65 m₁ ∧ ¬ FullTable 65 m₂ ∧ ¬ FullTable 65 m₃ := by
  have inside : (0 : UInt32) < 65 := by decide
  obtain ⟨kind, m₁, m₂, check, retire, clear⟩ :=
    steps_of_free serves inside (bits 0 (by decide)) blank
  have retires := (Work.moves serves (w := .takesBack 0 .retire) inside 0 false m).effect
  have clears := (Work.moves serves (w := .takesBack 0 (.clear kind)) inside 0 false m₁).effect
  rw [retire] at retires
  rw [clear] at clears
  have bits₁ (slot : Nat) (small : slot < 65) : slotBit 65 m₁ slot = decide (slot < 64) :=
    (retires.bits slot (Layout.word_lt small)).trans (bits slot small)
  have bits₂ (slot : Nat) (small : slot < 65) :
      slotBit 65 m₂ slot = if slot = 0 then false else decide (slot < 64) := by
    rw [← bits₁ slot small]
    exact clears.bits slot (Layout.word_lt small)
  have looks : (Work.handsOut (.look 1)).step t false m₂ =
      (.next (.handsOut (.claim 1 (t.bitmapWord m₂ 1) 0)), m₂) :=
    serves.step_look_free (by decide) (bits₂ 64 (by decide))
      fun other less same => absurd same (by omega)
  have fits : (Work.handsOut (.claim 1 (t.bitmapWord m₂ 1) 0)).Fits 65 :=
    serves.fits_of_free (by decide) (bits₂ 64 (by decide))
  have takes := (Work.moves serves fits 0 false m₂).effect
  have claims := Work.step_handsOut (Table.allocStep_claim t m₂ 1 0)
  generalize m₂.setLong (t.layout.bitmapIndex 1) (t.bitmapWord m₂ 1 ||| Bitmap.bit 0) = m₃ at claims
  rw [claims] at takes
  have bits₃ (slot : Nat) (small : slot < 65) :
      slotBit 65 m₃ slot = if slot = 64 then true else slotBit 65 m₂ slot :=
    takes.bits slot (Layout.word_lt small)
  refine ⟨kind, _, m₁, m₂, m₃, ⟨check, retire, clear⟩, ⟨looks, claims⟩, ?_, ?_, ?_, ?_, ?_, ?_⟩
  · intro slot small word
    rw [bits slot small]
    exact decide_eq_true (by omega)
  · intro slot small word
    rw [bits₁ slot small]
    exact decide_eq_true (by omega)
  · intro slot small word
    have last : slot = 64 := by
      have bound : slot < 65 := small
      omega
    rw [bits₃ slot small]
    exact if_pos last
  · intro full
    have last := full 64 (by decide)
    rw [bits₁ 64 (by decide)] at last
    cases last
  · intro full
    have last := full 64 (by decide)
    rw [bits₂ 64 (by decide)] at last
    cases last
  · intro full
    have first := full 0 (by decide)
    rw [bits₃ 0 (by decide), bits₂ 0 (by decide)] at first
    cases first

/-- A table of 65 slots is found full in a run in which it never is: one call passes the full first
word, a slot is taken back there, and another call that had passed it, too, takes the last slot. -/
theorem Reachable.overtaken (serves : t.Serves 65) (m : Words) :
    ∃ (n : Nat) (states : Nat → SharedTable (Fin 3)) (last : Nat),
      FindsFull 65 (Table.layOut (Layout.ofCapacity 65) m) n states last ∧
        ∀ k, k ≤ last → ¬ FullTable 65 (states k).memory := by
  obtain ⟨s, reached, idle, bits, blank⟩ :=
    Reachable.fills serves m (0 : Fin 3) 64 (by decide) (by decide)
  obtain ⟨kind, slot, m₁, m₂, m₃, ⟨check, retire, clear⟩, ⟨looks, claims⟩, full, full₁, full₃,
    spare₁, spare₂, spare₃⟩ := steps_of_overtaken serves bits (blank 0 (by decide))
  generalize Table.layOut (Layout.ofCapacity 65) m = m₀ at reached ⊢
  have past : ¬ 2 < t.layout.bitmapWords := by
    rw [serves.layout]
    decide
  have fails := Work.step_handsOut (Table.allocStep_look_past (m := m₃) past false)
  rw [serves.layout] at fails
  -- another call is past the first word, and a third is about to clear a bit there
  have before := ((((reached.step (.begins (i := 1) (idle 1) serves .handsOut)).step
    (.goesOn (i := 1) rfl (step_look_full serves (by decide) full))).step
    (.begins (i := 2) (idle 2) serves (.takesBack 0))).step
    (.goesOn (i := 2) rfl check)).step
    (.goesOn (i := 2) rfl retire)
  have begun := before.step (.begins (i := 0) (idle 0) serves .handsOut)
  have run := (((((Runs.start (p := fun s => ¬ FullTable 65 s.memory) begun spare₁).step
    (.goesOn (i := 0) rfl (step_look_full serves (by decide) full₁)) spare₁).step
    (.goesOn (i := 2) rfl clear) spare₂).step
    (.goesOn (i := 1) rfl looks) spare₂).step
    (.goesOn (i := 1) rfl claims) spare₃).step
    (.goesOn (i := 0) rfl (step_look_full serves (by decide) full₃)) spare₃
  obtain ⟨states, last, finds, spare⟩ :=
    run.findsFull (assign_task_self ..) (.returns (i := 0) rfl fails) rfl
  exact ⟨_, states, last, finds, spare⟩

end Overtaken

/-! ## What it means that a table is found full -/

/-- What it means that a call finds the table full. -/
structure NotSpurious (c : UInt32) (n : Nat) (states : Nat → SharedTable ι) (last : Nat) : Prop
  where
  /-- Every word of the bitmap was full while the call was in progress, one after another. -/
  words : ∃ seen : Nat → Nat,
    (∀ word, word < (Layout.ofCapacity c).bitmapWords →
      seen word ≤ last ∧ FullWord c (states (seen word)).memory word) ∧
    ∀ word word', word ≤ word' → word' < (Layout.ofCapacity c).bitmapWords →
      seen word ≤ seen word'
  full : (∃ k, k ≤ last ∧ FullTable c (states k).memory) ∨
    ∃ o a b, b ≤ last ∧ Overtakes n o states a b
  /-- Where the bitmap is a single word, all slots were handed out at one time. -/
  oneWord : c.toNat ≤ 64 → ∃ k, k ≤ last ∧ FullTable c (states k).memory

/-- A call that finds the table full, however its steps are interleaved with those of calls that
hand out and take back: all slots were handed out at some time while it was in progress, or it was
overtaken by a call that was past a slot when that slot was taken back behind both of them, and that
then took one ahead. -/
theorem scan_finds_full_or_is_overtaken {states : Nat → SharedTable ι} {last : Nat}
    (h : FindsFull c m n states last) : NotSpurious c n states last := by
  have step := h.steps last (Nat.le_refl _)
  obtain ⟨index, stood, past⟩ := step.position_of_failed (h.attributed (by omega)) h.ends
  obtain ⟨⟨seen, full, order⟩, -, ahead⟩ := h.found (Nat.le_refl _) stood
  refine ⟨⟨seen, ?_, ?_⟩, ?_, ?_⟩
  · intro word has
    obtain ⟨early, passed⟩ := full word (by omega)
    exact ⟨Nat.le_of_lt early, passed⟩
  · intro word word' le has
    exact order word word' le (by omega)
  · rcases ahead with all | ⟨o, a, b, early, overtakes⟩ | ⟨slot, inside, -, beyond⟩
    · exact .inl all
    · exact .inr ⟨o, a, b, Nat.le_of_lt early, overtakes⟩
    · have has := Layout.word_lt inside
      omega
  · intro small
    by_cases some : 0 < index
    · obtain ⟨early, passed⟩ := full 0 some
      exact ⟨_, Nat.le_of_lt early, fun slot inside => passed slot inside (by omega)⟩
    · -- a table without slots
      refine ⟨0, Nat.zero_le _, fun slot inside => ?_⟩
      have has := Layout.word_lt inside
      omega

/-- A call is overtaken in a table of 65 slots. -/
theorem finds_full_when_overtaken :
    ∃ (n : Nat) (states : Nat → SharedTable (Fin 3)) (last : Nat),
      FindsFull 65 (Table.layOut (Layout.ofCapacity 65) Words.zero) n states last ∧
        NotSpurious 65 n states last ∧ ∃ o a b, b ≤ last ∧ Overtakes n o states a b := by
  have serves : Table.Serves 65 ⟨default, .ofCapacity 65, Guard.hasty 7⟩ := ⟨rfl, rfl⟩
  obtain ⟨n, states, last, finds, spare⟩ := Reachable.overtaken serves Words.zero
  have sound := scan_finds_full_or_is_overtaken finds
  refine ⟨n, states, last, finds, sound, sound.full.resolve_left ?_⟩
  rintro ⟨k, within, full⟩
  exact spare k within full

/-- A call finds the table full although at no time while it is in progress all slots are handed
out. -/
theorem full_table_found_with_free_slot :
    ∃ (t : Table) (m₀ : Words),
      (Table.create { (default : Region) with size := 2048 } ⟨65, Guard.hasty 7⟩).result
        Words.zero = (.value t, m₀) ∧
      ∃ (n : Nat) (states : Nat → SharedTable (Fin 3)) (last : Nat),
        FindsFull 65 m₀ n states last ∧ ∀ k, k ≤ last → ¬ FullTable 65 (states k).memory := by
  have made : (Table.create { (default : Region) with size := 2048 } ⟨65, Guard.hasty 7⟩).result
      Words.zero = (.value ⟨_, _, _⟩, _) := Table.create_result rfl (by decide) Words.zero
  have serves : Table.Serves 65
      ⟨{ (default : Region) with size := 2048 }, .ofCapacity 65, Guard.hasty 7⟩ := ⟨rfl, rfl⟩
  exact ⟨_, _, made, Reachable.overtaken serves Words.zero⟩

end SharedTable

end Interprocess
