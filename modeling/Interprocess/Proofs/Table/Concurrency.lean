import Interprocess.Proofs.Table.Attribution
import Interprocess.Proofs.Table.Usage

/-!
# No slot is handed out twice

What holds however the calls on the slots of a table are interleaved. The memory is what the log of
events says, and the log is lawful (`Booked`): one step of one call keeps this, since its event is
what became of the memory. All that is wanted is then read off the log. Two claims of one slot have
a clear between them, the claims outnumber the clears by the bits that are set, and once no call is
in progress every claim is counted and every clear counted off. While calls are in progress the
counter may be anything: it runs below zero when a slot is counted off before it is counted.
-/

namespace Interprocess

/-! ## The memory is what the log says -/

/-- A memory that the events of a log led to, from a table none of whose slots was handed out. -/
structure Booked (c : UInt32) (log : List SlotEvent) (m : Words) : Prop where
  lawful : SlotEvent.Lawful c log
  bits : ∀ slot, slot / 64 < (Layout.ofCapacity c).bitmapWords →
    slotBit c m slot = SlotEvent.replay log slot
  counter : m.get Header.allocatedIndex + UInt32.ofNat (log.countP SlotEvent.isSubtraction) =
    UInt32.ofNat (log.countP SlotEvent.isAddition)

namespace Booked

variable {c : UInt32} {log : List SlotEvent} {m m' : Words} {t : Table}

theorem start (c : UInt32) (m : Words) : Booked c [] (Table.layOut (Layout.ofCapacity c) m) where
  lawful := .nil
  bits _ inside := Table.slotBit_layOut c m inside
  counter := by
    rw [(Table.accounts_layOut c m).counter_eq, Table.handedOut_layOut]
    rfl

theorem step (h : Booked c log m) {e : Option SlotEvent} (effect : Effect c e m m') :
    Booked c (log ++ e.toList) m' := by
  refine ⟨?_, fun slot inside => ?_, ?_⟩
  · cases e with
    | none =>
      rw [Option.toList_none, List.append_nil]
      exact h.lawful
    | some e =>
      exact h.lawful.concat ((effect.finds e rfl).congr fun slot small =>
        (h.bits slot (Layout.word_lt small)).symm)
  · rw [effect.bits slot inside, h.bits slot inside]
    cases e with
    | none => rw [Option.toList_none, List.append_nil, Option.elim_none]
    | some e => exact (SlotEvent.replay_concat log e slot).symm
  · have moved := effect.counter
    have before := h.counter
    rw [List.countP_append, List.countP_append, UInt32.ofNat_add, UInt32.ofNat_add, ← before,
      UInt32.add_comm (UInt32.ofNat (log.countP _)), ← UInt32.add_assoc, moved, UInt32.add_assoc,
      UInt32.add_assoc, UInt32.add_comm (UInt32.ofNat (log.countP _))]

theorem bitsSet_eq (h : Booked c log m) (serves : t.Serves c) :
    t.bitsSet m = ((List.range ((Layout.ofCapacity c).bitmapWords * 64)).filter
      (SlotEvent.replay log)).length := by
  have marks : ∀ slot ∈ List.range ((Layout.ofCapacity c).bitmapWords * 64),
      slotBit c m slot = SlotEvent.replay log slot := by
    intro slot mem
    have small := List.mem_range.mp mem
    exact h.bits slot (by omega)
  rw [Table.bitsSet, Table.bitsSet_of_words, serves.marked_eq_slotBit, serves.layout,
    List.filter_congr marks]

theorem count_claims (h : Booked c log m) (serves : t.Serves c) :
    log.countP SlotEvent.isClaim = log.countP SlotEvent.isClear + t.bitsSet m := by
  have enough : c.toNat ≤ (Layout.ofCapacity c).bitmapWords * 64 := by
    rw [Layout.bitmapWords_ofCapacity]
    omega
  rw [h.bitsSet_eq serves, h.lawful.count_claims enough]

theorem bitsSet_le (h : Booked c log m) (serves : t.Serves c) : t.bitsSet m ≤ c.toNat := by
  have all := h.count_claims serves
  have inside := h.lawful.count_claims (Nat.le_refl c.toNat)
  have few := List.length_filter_le (SlotEvent.replay log) (List.range c.toNat)
  rw [List.length_range] at few
  omega

theorem counter_eq (h : Booked c log m) (serves : t.Serves c)
    (added : log.countP SlotEvent.isClaim = log.countP SlotEvent.isAddition)
    (subtracted : log.countP SlotEvent.isClear = log.countP SlotEvent.isSubtraction) :
    (m.get Header.allocatedIndex).toNat = t.bitsSet m := by
  have counter := h.counter
  rw [← added, ← subtracted, h.count_claims serves, UInt32.ofNat_add,
    UInt32.add_comm (UInt32.ofNat (log.countP _))] at counter
  rw [(UInt32.add_left_inj _).mp counter]
  exact UInt32.toNat_ofNat_of_lt' (Nat.lt_of_le_of_lt (h.bitsSet_le serves) c.toNat_lt)

end Booked

/-! ## Every run -/

namespace SharedTable

variable {ι : Type} [DecidableEq ι] {s : SharedTable ι} {c : UInt32} {m : Words}

theorem Reachable.booked (h : Reachable c (Table.layOut (Layout.ofCapacity c) m) s) :
    Booked c s.log s.memory := by
  induction h with
  | initial => exact .start c m
  | step before step booked =>
    have attributed := before.attributed
    cases step with
    | begins => exact booked
    | @goesOn i task fails w m busy ran =>
      have moves := attributed.moves busy fails
      rw [ran] at moves
      exact booked.step moves.effect
    | @returns i task fails r m busy ran =>
      have moves := attributed.moves busy fails
      rw [ran] at moves
      exact booked.step moves.effect
    | others same =>
      have kept := booked.step (.none same)
      rwa [Option.toList_none, List.append_nil] at kept

/-- What the log of a run says of the slots, of the counter, and of what the calls return. -/
structure Accounted (c : UInt32) (t : Table) (s : SharedTable ι) : Prop where
  /-- The bits are those that the claims and the clears of the log leave. -/
  replays : ∀ slot, slot / 64 < (Layout.ofCapacity c).bitmapWords →
    slotBit c s.memory slot = SlotEvent.replay s.log slot
  /-- Between two claims of a slot, a call that returns without an error cleared its bit. -/
  exclusive : ∀ {a b : Nat} {slot : UInt32} {past between since : List SlotEvent},
    s.log = past ++ .claimed a slot :: (between ++ .claimed b slot :: since) →
      ∃ k, .cleared k slot ∈ between ∧ s.Returns k (.takesBack slot (.ok ()))
  /-- The calls that hand out a slot are those that claimed it. -/
  claims : ∀ n slot, .claimed n slot ∈ s.log ↔ s.Returns n (.handsOut (.ok slot))
  bits : s.log.countP SlotEvent.isClaim = s.log.countP SlotEvent.isClear + t.bitsSet s.memory
  /-- A call that found the bit clear refuses the slot, and that is all that it did. -/
  misses : ∀ n slot, .missed n slot ∈ s.log →
    (n, .takesBack slot (.error (.invalidSlot slot))) ∈ s.ended ∧
      SlotEvent.doneBy n s.log = [.missed n slot]
  /-- Nothing changes the bitmap or the counter without an event of its own. -/
  quiet : ∀ s', Step c s s' →
    (∀ e, s'.log = s.log ++ [e] → ∃ n slot, e = .missed n slot) → SameSlots c s.memory s'.memory
  counter : (Header.load s.memory).allocated +
    UInt32.ofNat (s.log.countP SlotEvent.isSubtraction) =
      UInt32.ofNat (s.log.countP SlotEvent.isAddition)
  settled : (∀ i, s.task i = none) → (Header.load s.memory).allocated.toNat = t.bitsSet s.memory

theorem Reachable.accounted {t : Table} (serves : t.Serves c)
    (h : Reachable c (Table.layOut (Layout.ofCapacity c) m) s) : s.Accounted c t := by
  have booked := h.booked
  have attributed := h.attributed
  refine ⟨booked.bits, fun split => ?_, attributed.claimed_iff, booked.count_claims serves,
    fun _ _ => attributed.of_missed, fun _ => attributed.same_of_quiet, booked.counter,
    fun idle => ?_⟩
  · obtain ⟨k, mem⟩ := booked.lawful.cleared_between split
    refine ⟨k, mem, attributed.returns_of_mem (e := .cleared k _) ?_ rfl⟩
    rw [split]
    exact List.mem_append_right _ (List.mem_cons_of_mem _ (List.mem_append_left _ mem))
  · obtain ⟨added, subtracted⟩ := attributed.counted idle
    exact booked.counter_eq serves added subtracted

/-! ## Below zero -/

section

variable {t : Table} {slot : UInt32}

theorem steps_of_empty (serves : t.Serves c) (positive : 0 < c)
    (empty : slotBit c m 0 = false) :
    ∃ current bit slot m₁,
      (Work.handsOut (.look 0)).step t false m = (.next (.handsOut (.claim 0 current bit)), m) ∧
      (Work.handsOut (.claim 0 current bit)).step t false m =
        (.next (.handsOut (.count slot)), m₁) ∧
      slot < c ∧ slotBit c m₁ slot.toNat = true ∧
      ∀ s, m₁.record ((Layout.ofCapacity c).recordIndex s) =
        m.record ((Layout.ofCapacity c).recordIndex s) := by
  have first : 0 < c.toNat := UInt32.lt_iff_toNat_lt.mp positive
  have look := serves.step_look_free first empty fun other below => absurd below (Nat.not_lt_zero _)
  have fits : (Work.handsOut (.claim 0 (t.bitmapWord m 0) 0)).Fits c :=
    serves.fits_of_free first empty
  have words := Layout.bitmapWords_pos positive
  have claim := Work.step_handsOut (Table.allocStep_claim t m 0 0)
  have effect := (Work.moves serves fits 0 false m).effect
  rw [claim] at effect
  generalize Table.slotAt 0 0 = slot at claim effect
  have inside : slot < c := (effect.finds _ rfl).1
  refine ⟨_, 0, slot, _, look, claim, inside, ?_, fun s => ?_⟩
  · exact (effect.bits _ (Layout.wordOf_lt inside)).trans (if_pos rfl)
  · rw [serves.layout, Table.record_setLong words]

theorem steps_of_free (serves : t.Serves c) (inside : slot < c)
    (set : slotBit c m slot.toNat = true) {contents : Contents}
    (free : m.record ((Layout.ofCapacity c).recordIndex slot) = ⟨0, contents⟩) :
    ∃ kind m₁ m₂,
      (Work.takesBack slot .check).step t false m = (.next (.takesBack slot .retire), m) ∧
      (Work.takesBack slot .retire).step t false m = (.next (.takesBack slot (.clear kind)), m₁) ∧
      (Work.takesBack slot (.clear kind)).step t false m₁ =
        (.next (.takesBack slot (.count kind)), m₂) := by
  have checked := Table.Serves.freeStep_check_of_holds (serves.holds_iff.mpr ⟨inside, set⟩)
  have retired := serves.freeStep_retire_of_free free
  have still : slotBit c (m.setRecord ((Layout.ofCapacity c).recordIndex slot) .blank) slot.toNat =
      true := (Table.slotBit_setRecord slot .blank (Layout.wordOf_lt inside)).trans set
  have cleared := serves.freeStep_clear contents.kind still
  exact ⟨_, _, _, Work.step_takesBack checked false, Work.step_takesBack retired false,
    Work.step_takesBack cleared false⟩

end

/-- A slot is claimed, and taken back and counted off before it is counted. -/
theorem Reachable.subtracted_first {t : Table} (serves : t.Serves c) (positive : 0 < c) (m : Words)
    {i j : ι} (apart : j ≠ i) :
    ∃ (s : SharedTable ι) (slot : UInt32), Reachable c (Table.layOut (Layout.ofCapacity c) m) s ∧
      s.log = [.claimed 0 slot, .cleared 1 slot, .subtracted 1] := by
  obtain ⟨current, bit, slot, m₁, look, claim, inside, set, records⟩ :=
    steps_of_empty serves positive (Table.slotBit_layOut c m (Layout.bitmapWords_pos positive))
  have free := (records slot).trans (Table.record_layOut c m inside)
  obtain ⟨kind, m₂, m₃, check, retire, clear⟩ := steps_of_free serves inside set free
  have count := Work.step_takesBack (Table.Serves.freeStep_count t slot kind m₃) false
  generalize Table.layOut (Layout.ofCapacity c) m = m₀ at look claim ⊢
  have start : Reachable c m₀ (.initial m₀ : SharedTable ι) := .initial
  have begun := start.step (.begins (i := i) rfl serves .handsOut)
  have looked := begun.step (.goesOn (assign_task_self ..) look)
  have claimed := looked.step (.goesOn (assign_task_self ..) claim)
  have idle : (SharedTable.initial m₀ : SharedTable ι).task j = none := rfl
  have second := claimed.step (.begins (i := j)
    ((assign_task_of_ne _ _ apart).trans ((assign_task_of_ne _ _ apart).trans
      ((assign_task_of_ne _ _ apart).trans idle))) serves (.takesBack slot))
  have checked := second.step (.goesOn (assign_task_self ..) check)
  have retired := checked.step (.goesOn (assign_task_self ..) retire)
  have cleared := retired.step (.goesOn (assign_task_self ..) clear)
  have counted := cleared.step (.returns (assign_task_self ..) count)
  exact ⟨_, slot, counted, rfl⟩

theorem Reachable.below_zero {t : Table} (serves : t.Serves c) (positive : 0 < c) (m : Words)
    {i j : ι} (apart : i ≠ j) :
    ∃ s : SharedTable ι, Reachable c (Table.layOut (Layout.ofCapacity c) m) s ∧
      t.bitsSet s.memory = 0 ∧ (Header.load s.memory).allocated = 0xffffffff := by
  obtain ⟨s, slot, reached, log⟩ := subtracted_first serves positive m apart.symm
  obtain ⟨-, -, -, bits, -, -, counter, -⟩ := reached.accounted serves
  rw [log] at bits counter
  have bits : 1 + 0 = 1 + t.bitsSet s.memory := bits
  have wraps : UInt32.ofNat 0 = 0xffffffff + UInt32.ofNat 1 := by decide
  have below := (UInt32.add_left_inj (UInt32.ofNat 1)).mp (counter.trans wraps)
  exact ⟨s, reached, (Nat.add_left_cancel bits).symm, below⟩

end SharedTable

open SharedTable in
/-- From the moment that a table is made, whoever hands out its slots and takes them back, in
whatever order the steps of the calls are taken: between two claims of a slot its bit was cleared by
a call that succeeds, the claims outnumber the clears by the bits that are set, a call that finds
the bit clear refuses the slot and changes nothing, and the counter of the header is right whenever
no call is in progress. Between two participants it can run below zero meanwhile. -/
theorem slots_handed_out_exclusively {ι : Type} [DecidableEq ι] {region : Region}
    {settings : TableSettings} {m m₀ : Words} {t : Table}
    (made : (Table.create region settings).result m = (.value t, m₀)) :
    (∀ s : SharedTable ι, Reachable settings.capacity m₀ s →
        s.Accounted settings.capacity t) ∧
      ∀ i j : ι, i ≠ j → ∃ s : SharedTable ι, Reachable settings.capacity m₀ s ∧
        t.bitsSet s.memory = 0 ∧ (Header.load s.memory).allocated = 0xffffffff := by
  obtain ⟨valid, fits⟩ := Table.of_create made
  rw [Table.create_result valid fits] at made
  cases made
  have serves := (Stands.start region valid m).serve _ (List.mem_singleton_self _)
  refine ⟨fun s reached => Reachable.accounted serves reached, fun i j apart => ?_⟩
  exact Reachable.below_zero serves (TableSettings.capacity_pos valid) m apart

/-- A slot is taken back by one participant before the other has counted it. -/
theorem counter_runs_below_zero :
    ∃ (region : Region) (settings : TableSettings) (t : Table) (m₀ : Words),
      (Table.create region settings).result Words.zero = (.value t, m₀) ∧
      ∃ s : SharedTable Bool, SharedTable.Reachable settings.capacity m₀ s ∧
        s.Accounted settings.capacity t ∧ t.bitsSet s.memory = 0 ∧
        (Header.load s.memory).allocated = 0xffffffff := by
  have made : (Table.create { (default : Region) with size := 128 } ⟨2, Guard.hasty 7⟩).result
      Words.zero = (.value ⟨_, _, _⟩, _) := Table.create_result rfl (by decide) Words.zero
  obtain ⟨all, some⟩ := @slots_handed_out_exclusively Bool _ _ _ _ _ _ made
  obtain ⟨s, reached, below⟩ := some true false nofun
  exact ⟨_, _, _, _, made, s, reached, all s reached, below⟩

end Interprocess
