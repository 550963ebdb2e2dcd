import Interprocess.Proofs.Table.SlotEvents
import Interprocess.Proofs.Table.Upkeep

/-!
# Calls on the slots of one table, interleaved

Any number of participants hand out slots of one table and take them back, each through a handle of
its own. The steps of different calls are interleaved in any order: each look at a word of the
bitmap, each exchange, whether it fails without a cause or not, each bit that is cleared, each
addition to the counter, and the blanking of a record under its guard, which is one step here. Two
lists are kept on the side: the log of what the calls did to the bitmap and to the counter, and what
the calls that are over returned.

What one step of a call does is said once (`Work.moves`): the event that it logs is what became of
the memory, and the events of the call are those that its place in the code tells of.
-/

namespace Interprocess

/-! ## Calls -/

/-- Where a call on the slots of a table stands. -/
inductive Work where
  | handsOut (phase : Table.AllocPhase)
  | takesBack (slot : UInt32) (phase : Table.FreePhase)

/-- What such a call returns. -/
inductive Return where
  | handsOut (answer : Except SyncError UInt32)
  | takesBack (slot : UInt32) (answer : Except SyncError Unit)

/-- What a step among others leads to. A call that has to wait stays where it is. -/
def Op.Progress.among {φ α : Type} (phase : φ) :
    Outcome (Op.Progress φ α) → Op.Progress φ (Except SyncError α)
  | .value (.next phase) => .next phase
  | .value (.answer a) => .answer (.ok a)
  | .failed e => .answer (.error e)
  | .blocked => .next phase

def Op.Progress.map {φ ψ α β : Type} (f : φ → ψ) (g : α → β) : Op.Progress φ α → Op.Progress ψ β
  | .next phase => .next (f phase)
  | .answer a => .answer (g a)

namespace Work

/-- A call before its first step. -/
inductive Starts : Work → Prop where
  | handsOut : Starts (handsOut (.look 0))
  | takesBack (slot : UInt32) : Starts (takesBack slot .check)

def step (t : Table) (fails : Bool) (m : Words) : Work → Op.Progress Work Return × Words
  | handsOut phase =>
    let (outcome, m) := (t.allocStep fails phase).result m
    ((Op.Progress.among phase outcome).map handsOut .handsOut, m)
  | takesBack slot phase =>
    let (outcome, m) := (t.freeStep slot phase).result m
    ((Op.Progress.among phase outcome).map (takesBack slot) (.takesBack slot), m)

theorem step_handsOut {t : Table} {fails : Bool} {m m' : Words} {phase : Table.AllocPhase}
    {outcome : Outcome (Op.Progress Table.AllocPhase UInt32)}
    (h : (t.allocStep fails phase).result m = (outcome, m')) :
    (handsOut phase).step t fails m =
      ((Op.Progress.among phase outcome).map handsOut .handsOut, m') := by
  rw [step, h]

theorem step_takesBack {t : Table} {m m' : Words} {slot : UInt32} {phase : Table.FreePhase}
    {outcome : Outcome (Op.Progress Table.FreePhase Unit)}
    (h : (t.freeStep slot phase).result m = (outcome, m')) (fails : Bool) :
    (takesBack slot phase).step t fails m =
      ((Op.Progress.among phase outcome).map (takesBack slot) (.takesBack slot), m') := by
  rw [step, h]

/-- What a step of the call with number `n` does to the bitmap or to the counter. -/
def event (n : Nat) : Work → Op.Progress Work Return → Option SlotEvent
  | handsOut (.claim _ _ _), .next (handsOut (.count slot)) => some (.claimed n slot)
  | handsOut (.count _), .answer _ => some (.added n)
  | takesBack slot (.clear _), .next _ => some (.cleared n slot)
  | takesBack slot (.clear _), .answer _ => some (.missed n slot)
  | takesBack _ (.count _), .answer _ => some (.subtracted n)
  | _, _ => none

/-- The events of the call with number `n` up to where it stands. -/
def done (n : Nat) : Work → List SlotEvent
  | handsOut (.count slot) => [.claimed n slot]
  | takesBack slot (.count _) => [.cleared n slot]
  | _ => []

/-- What a call has made sure of where it stands. -/
def Fits (c : UInt32) : Work → Prop
  | handsOut (.claim index current bit) =>
    bit < 64 ∧ Bitmap.isSet current bit = false ∧ index * 64 + bit < c.toNat
  | takesBack slot .retire | takesBack slot (.clear _) | takesBack slot (.count _) => slot < c
  | _ => True

theorem call_of_event {n : Nat} {w : Work} {next : Op.Progress Work Return} {e : SlotEvent}
    (mem : e ∈ (w.event n next).toList) : e.call = n := by
  have found := Option.mem_toList.mp mem
  unfold event at found
  split at found <;> cases found <;> rfl

end Work

/-- The events of the call with number `n` are those of a call that returned so. -/
def Return.Explains (n : Nat) : Return → List SlotEvent → Prop
  | handsOut (.ok slot), events => events = [.claimed n slot, .added n]
  | handsOut (.error _), events => events = []
  | takesBack slot (.ok _), events => events = [.cleared n slot, .subtracted n]
  | takesBack slot (.error e), events =>
    events = [] ∨ e = .invalidSlot slot ∧ events = [.missed n slot]

/-- The events of the call with number `n` are those of a call that got so far. -/
def Op.Progress.Explains (n : Nat) : Op.Progress Work Return → List SlotEvent → Prop
  | .next w, events => events = w.done n
  | .answer r, events => r.Explains n events

def Op.Progress.Fits (c : UInt32) : Op.Progress Work Return → Prop
  | .next w => w.Fits c
  | .answer _ => True

/-! ## What a step does to the memory -/

/-- The second memory has the bitmap and the counter of the first. -/
structure SameSlots (c : UInt32) (m m' : Words) : Prop where
  words : ∀ index, index < (Layout.ofCapacity c).bitmapWords →
    m'.getLong ((Layout.ofCapacity c).bitmapIndex index) =
      m.getLong ((Layout.ofCapacity c).bitmapIndex index)
  counter : m'.get Header.allocatedIndex = m.get Header.allocatedIndex

/-- What becomes of a memory in a step with an event, or with none. -/
structure Effect (c : UInt32) (e : Option SlotEvent) (m m' : Words) : Prop where
  bits : ∀ slot, slot / 64 < (Layout.ofCapacity c).bitmapWords →
    slotBit c m' slot = e.elim (slotBit c m slot) (SlotEvent.bitAfter slot (slotBit c m slot))
  counter : m'.get Header.allocatedIndex + UInt32.ofNat (e.toList.countP SlotEvent.isSubtraction) =
    m.get Header.allocatedIndex + UInt32.ofNat (e.toList.countP SlotEvent.isAddition)
  finds : ∀ x ∈ e, x.Finds c (slotBit c m)
  same : (∀ x ∈ e, ∃ n slot, x = .missed n slot) → SameSlots c m m'

section Effects

variable {c : UInt32} {m m' : Words} {slot : UInt32}

theorem SameSlots.refl (c : UInt32) (m : Words) : SameSlots c m m := ⟨fun _ _ => rfl, rfl⟩

theorem SameSlots.setRecord (c : UInt32) (m : Words) (slot : UInt32) (r : Record) :
    SameSlots c m (m.setRecord ((Layout.ofCapacity c).recordIndex slot) r) :=
  ⟨fun _ inside => Table.bitmapWord_setRecord inside slot r,
    Table.get_allocated_setRecord c m slot r⟩

theorem SameSlots.slotBit (h : SameSlots c m m') {s : Nat}
    (inside : s / 64 < (Layout.ofCapacity c).bitmapWords) : slotBit c m' s = slotBit c m s := by
  rw [Interprocess.slotBit, h.words _ inside, Interprocess.slotBit]

namespace Effect

theorem none (same : SameSlots c m m') : Effect c none m m' :=
  ⟨fun _ inside => same.slotBit inside, congrArg (· + _) same.counter, nofun, fun _ => same⟩

theorem missed (same : SameSlots c m m') (n : Nat) (inside : slot < c)
    (clear : slotBit c m slot.toNat = false) : Effect c (some (.missed n slot)) m m' where
  bits _ word := same.slotBit word
  counter := congrArg (· + _) same.counter
  finds _ mem := Option.some.inj mem ▸ ⟨inside, clear⟩
  same _ := same

theorem of_event {e : SlotEvent}
    (bits : ∀ s, slotBit c m' s = SlotEvent.bitAfter s (slotBit c m s) e)
    (counter : m'.get Header.allocatedIndex + UInt32.ofNat ([e].countP SlotEvent.isSubtraction) =
      m.get Header.allocatedIndex + UInt32.ofNat ([e].countP SlotEvent.isAddition))
    (finds : e.Finds c (slotBit c m)) (moved : ∀ n s, e ≠ .missed n s) :
    Effect c (some e) m m' where
  bits s _ := bits s
  counter := counter
  finds _ mem := Option.some.inj mem ▸ finds
  same missed := by
    obtain ⟨n, s, wrong⟩ := missed e rfl
    exact absurd wrong (moved n s)

theorem claimed (n : Nat) (inside : slot < c) (clear : slotBit c m slot.toNat = false) :
    Effect c (some (.claimed n slot)) m
      (m.setLong ((Layout.ofCapacity c).bitmapIndex (Table.wordOf slot))
        (wordFor c m slot ||| Bitmap.bit (Table.bitOf slot))) :=
  .of_event (Table.slotBit_setBit c m slot) (congrArg (· + _) (Table.get_allocated_setLong c m _ _))
    ⟨inside, clear⟩ nofun

theorem cleared (n : Nat) (inside : slot < c) (set : slotBit c m slot.toNat = true) :
    Effect c (some (.cleared n slot)) m
      (m.setLong ((Layout.ofCapacity c).bitmapIndex (Table.wordOf slot))
        (wordFor c m slot &&& ~~~ Bitmap.bit (Table.bitOf slot))) :=
  .of_event (Table.slotBit_clearBit c m slot)
    (congrArg (· + _) (Table.get_allocated_setLong c m _ _)) ⟨inside, set⟩ nofun

theorem added (c : UInt32) (m : Words) (n : Nat) :
    Effect c (some (.added n)) m
      (m.set Header.allocatedIndex (m.get Header.allocatedIndex + 1)) := by
  refine .of_event (Table.slotBit_set_allocated c m _) ?_ trivial nofun
  rw [Words.get_set, if_pos rfl]
  exact UInt32.add_zero _

theorem subtracted (c : UInt32) (m : Words) (n : Nat) :
    Effect c (some (.subtracted n)) m
      (m.set Header.allocatedIndex (m.get Header.allocatedIndex + (-1))) := by
  have cancel : (-1 : UInt32) + 1 = 0 := by decide
  refine .of_event (Table.slotBit_set_allocated c m _) ?_ trivial nofun
  rw [Words.get_set, if_pos rfl, UInt32.add_assoc]
  exact congrArg (m.get Header.allocatedIndex + ·) cancel

end Effect

end Effects

/-! ## One step of a call -/

/-- A step of the call with number `n` leads from a memory to another. -/
structure Work.Moves (c : UInt32) (n : Nat) (w : Work) (m : Words)
    (next : Op.Progress Work Return × Words) : Prop where
  explains : next.1.Explains n (w.done n ++ (w.event n next.1).toList)
  fits : next.1.Fits c
  effect : Effect c (w.event n next.1) m next.2

namespace Table

variable {c : UInt32} {t : Table} {m : Words}

theorem Serves.isSet_bitmapWord (serves : Serves c t) (index : Nat) {k : Nat} (small : k < 64) :
    Bitmap.isSet (t.bitmapWord m index) k = slotBit c m (index * 64 + k) := by
  have word : (index * 64 + k) / 64 = index := by omega
  have place : (index * 64 + k) % 64 = k := by omega
  rw [slotBit, word, place, bitmapWord, serves.layout]

theorem Serves.isSet_mask (serves : Serves c t) (index : Nat) {k : Nat} (small : k < 64) :
    Bitmap.isSet (t.mask index) k = decide (index * 64 + k < c.toNat) := by
  rw [mask, Bitmap.isSet_mask small, serves.capacity]

theorem Serves.seen_cases (serves : Serves c t) (index : Nat) (current : UInt64) :
    t.seen index current = .look (index + 1) ∨
      ∃ bit, t.seen index current = .claim index current bit ∧
        (Work.handsOut (.claim index current bit)).Fits c := by
  unfold seen
  cases found : Bitmap.lowestClear current (t.mask index) with
  | none => exact .inl rfl
  | some bit =>
    obtain ⟨⟨small, masked, clear⟩, -⟩ := Bitmap.lowestClear_eq_some found
    rw [serves.isSet_mask index small] at masked
    exact .inr ⟨bit, rfl, small, clear, of_decide_eq_true masked⟩

theorem Serves.seen_of_lowest (serves : Serves c t) {slot : Nat} (inside : slot < c.toNat)
    (free : slotBit c m slot = false)
    (below : ∀ other, other < slot → other / 64 = slot / 64 → slotBit c m other = true) :
    t.seen (slot / 64) (t.bitmapWord m (slot / 64)) =
      .claim (slot / 64) (t.bitmapWord m (slot / 64)) (slot % 64) := by
  have own : slot / 64 * 64 + slot % 64 = slot := by omega
  have masked : Bitmap.isSet (t.mask (slot / 64)) (slot % 64) = true := by
    rw [serves.isSet_mask _ (by omega), own]
    exact decide_eq_true inside
  have clear : Bitmap.isSet (t.bitmapWord m (slot / 64)) (slot % 64) = false := by
    rw [serves.isSet_bitmapWord _ (by omega), own]
    exact free
  unfold seen
  cases found : Bitmap.lowestClear (t.bitmapWord m (slot / 64)) (t.mask (slot / 64)) with
  | none =>
    rw [Bitmap.lowestClear_eq_none found masked] at clear
    cases clear
  | some b =>
    obtain ⟨⟨small, -, lowest⟩, lower⟩ := Bitmap.lowestClear_eq_some found
    have first : b = slot % 64 := by
      rcases Nat.lt_trichotomy b (slot % 64) with less | same | more
      · rw [serves.isSet_bitmapWord _ small, below _ (by omega) (by omega)] at lowest
        cases lowest
      · exact same
      · rw [lower _ more masked] at clear
        cases clear
    rw [first]

theorem Serves.fits_of_free (serves : Serves c t) {slot : Nat} (inside : slot < c.toNat)
    (free : slotBit c m slot = false) :
    (Work.handsOut (.claim (slot / 64) (t.bitmapWord m (slot / 64)) (slot % 64))).Fits c := by
  have own : slot / 64 * 64 + slot % 64 = slot := by omega
  have small : slot % 64 < 64 := Nat.mod_lt _ (by decide)
  refine ⟨small, ?_, ?_⟩
  · rw [serves.isSet_bitmapWord _ small, own]
    exact free
  · rw [own]
    exact inside

theorem Serves.step_look_free (serves : Serves c t) {slot : Nat} (inside : slot < c.toNat)
    (free : slotBit c m slot = false)
    (below : ∀ other, other < slot → other / 64 = slot / 64 → slotBit c m other = true) :
    (Work.handsOut (.look (slot / 64))).step t false m =
      (.next (.handsOut (.claim (slot / 64) (t.bitmapWord m (slot / 64)) (slot % 64))), m) := by
  have has : slot / 64 < t.layout.bitmapWords := by
    rw [serves.layout]
    exact Layout.word_lt inside
  rw [Work.step_handsOut (allocStep_look has false), serves.seen_of_lowest inside free below]
  rfl

theorem Serves.moves_seen (serves : Serves c t) (n index : Nat) (current : UInt64) (m : Words)
    {phase : AllocPhase} (before : ∀ slot, phase ≠ .count slot) :
    (Work.handsOut phase).Moves c n m (.next (.handsOut (t.seen index current)), m) := by
  cases phase with
  | count slot => exact absurd rfl (before slot)
  | look i | claim i word b =>
    rcases serves.seen_cases index current with seen | ⟨bit, seen, fits⟩
    · rw [seen]
      exact ⟨rfl, trivial, .none (.refl c m)⟩
    · rw [seen]
      exact ⟨rfl, fits, .none (.refl c m)⟩

theorem Serves.moves_claim (serves : Serves c t) (n index bit : Nat) (m : Words)
    (fits : (Work.handsOut (.claim index (t.bitmapWord m index) bit)).Fits c) :
    (Work.handsOut (.claim index (t.bitmapWord m index) bit)).Moves c n m
      ((Work.handsOut (.claim index (t.bitmapWord m index) bit)).step t false m) := by
  obtain ⟨small, clear, inside⟩ := fits
  have number : (slotAt index bit).toNat = index * 64 + bit :=
    UInt32.toNat_ofNat_of_lt' (Nat.lt_trans inside c.toNat_lt)
  have word : wordOf (slotAt index bit) = index := by
    rw [wordOf, number]
    omega
  have place : bitOf (slotAt index bit) = bit := by
    rw [bitOf, number]
    omega
  have free : slotBit c m (slotAt index bit).toNat = false := by
    show Bitmap.isSet (wordFor c m (slotAt index bit)) (bitOf (slotAt index bit)) = false
    rw [wordFor, word, place, ← serves.layout]
    exact clear
  have effect := Effect.claimed n (UInt32.lt_iff_toNat_lt.mpr (number ▸ inside)) free
  rw [wordFor, word, place] at effect
  rw [Work.step_handsOut (allocStep_claim t m index bit), serves.layout]
  refine ⟨rfl, trivial, ?_⟩
  rw [bitmapWord, serves.layout]
  exact effect

theorem Serves.moves_alloc (serves : Serves c t) (n : Nat) {phase : AllocPhase}
    (fits : (Work.handsOut phase).Fits c) (fails : Bool) (m : Words) :
    (Work.handsOut phase).Moves c n m ((Work.handsOut phase).step t fails m) := by
  cases phase with
  | look index =>
    by_cases inside : index < t.layout.bitmapWords
    · rw [Work.step_handsOut (allocStep_look inside fails)]
      exact serves.moves_seen n index _ m nofun
    · rw [Work.step_handsOut (allocStep_look_past inside fails)]
      exact ⟨rfl, trivial, .none (.refl c m)⟩
  | claim index current bit =>
    by_cases exchanged : t.bitmapWord m index = current ∧ fails = false
    · obtain ⟨rfl, rfl⟩ := exchanged
      exact serves.moves_claim n index bit m fits
    · have other : t.bitmapWord m index ≠ current ∨ fails = true := by
        rwa [not_and_or, Bool.not_eq_false] at exchanged
      rw [Work.step_handsOut (allocStep_claim_of_other other bit)]
      exact serves.moves_seen n index _ m nofun
  | count slot =>
    rw [Work.step_handsOut (allocStep_count t m fails slot)]
    exact ⟨rfl, trivial, .added c m n⟩

theorem Serves.moves_clear (serves : Serves c t) (n : Nat) {slot : UInt32} (inside : slot < c)
    (kind : Kind) (fails : Bool) (m : Words) :
    (Work.takesBack slot (.clear kind)).Moves c n m
      ((Work.takesBack slot (.clear kind)).step t fails m) := by
  have place : bitOf slot < 64 := Nat.mod_lt _ (by decide)
  have cleared := freeStep_clear_result t slot kind m
  rw [bitmapWord, serves.layout, ← wordFor] at cleared
  by_cases set : Bitmap.isSet (wordFor c m slot) (bitOf slot) = true
  · rw [if_pos set] at cleared
    rw [Work.step_takesBack cleared]
    exact ⟨rfl, inside, .cleared n inside set⟩
  · -- the word is stored as it was
    have clear := Bool.eq_false_of_not_eq_true set
    rw [if_neg set, Bitmap.and_not_bit_of_clear place clear] at cleared
    rw [Work.step_takesBack cleared]
    refine ⟨.inr ⟨rfl, rfl⟩, trivial, .missed ⟨fun index _ => ?_, ?_⟩ n inside clear⟩
    · by_cases own : index = wordOf slot
      · rw [own, Words.getLong_setLong_self, wordFor]
      · exact Words.getLong_setLong_of_ne _ (Layout.bitmap_words_apart c (Ne.symm own))
    · exact get_allocated_setLong c m _ _

theorem Serves.moves_free (serves : Serves c t) (n : Nat) {slot : UInt32} {phase : FreePhase}
    (fits : (Work.takesBack slot phase).Fits c) (fails : Bool) (m : Words) :
    (Work.takesBack slot phase).Moves c n m ((Work.takesBack slot phase).step t fails m) := by
  cases phase with
  | check =>
    cases held : t.holds slot m with
    | false =>
      rw [Work.step_takesBack (freeStep_check_of_not_holds held)]
      exact ⟨.inl rfl, trivial, .none (.refl c m)⟩
    | true =>
      rw [Work.step_takesBack (freeStep_check_of_holds held)]
      exact ⟨rfl, (serves.holds_iff.mp held).1, .none (.refl c m)⟩
  | retire =>
    rcases serves.freeStep_retire_cases slot m with ⟨kind, retired⟩ | ⟨e, r, failed⟩ | ⟨r, waits⟩
    · rw [Work.step_takesBack retired]
      exact ⟨rfl, fits, .none (.setRecord c m slot _)⟩
    · rw [Work.step_takesBack failed]
      exact ⟨.inl rfl, trivial, .none (.setRecord c m slot _)⟩
    · rw [Work.step_takesBack waits]
      exact ⟨rfl, fits, .none (.setRecord c m slot _)⟩
  | clear kind => exact serves.moves_clear n fits kind fails m
  | count kind =>
    rw [Work.step_takesBack (freeStep_count t slot kind m)]
    exact ⟨rfl, trivial, .subtracted c m n⟩

end Table

theorem Work.moves {c : UInt32} {t : Table} (serves : t.Serves c) {w : Work} (fits : w.Fits c)
    (n : Nat) (fails : Bool) (m : Words) : w.Moves c n m (w.step t fails m) := by
  cases w with
  | handsOut phase => exact serves.moves_alloc n fits fails m
  | takesBack slot phase => exact serves.moves_free n fits fails m

/-! ## The table -/

/-- A call that a participant is in. -/
structure Task where
  call : Nat
  handle : Table
  work : Work

/-- A table whose slots participants hand out and take back. -/
structure SharedTable (ι : Type) where
  memory : Words
  task : ι → Option Task
  /-- How many calls were begun. -/
  begun : Nat
  log : List SlotEvent
  /-- The calls that are over, with what they returned. -/
  ended : List (Nat × Return)

namespace SharedTable

variable {ι : Type}

def initial (m : Words) : SharedTable ι where
  memory := m
  task _ := none
  begun := 0
  log := []
  ended := []

variable [DecidableEq ι]

def assign (s : SharedTable ι) (i : ι) (task : Option Task) : SharedTable ι :=
  { s with task := Function.update s.task i task }

@[simp]
theorem assign_task_self (s : SharedTable ι) (i : ι) (task : Option Task) :
    (s.assign i task).task i = task :=
  Function.update_self ..

theorem assign_task_of_ne (s : SharedTable ι) {i j : ι} (task : Option Task) (h : j ≠ i) :
    (s.assign i task).task j = s.task j :=
  Function.update_of_ne h ..

/-- One step of one participant, on a table with so many slots. -/
inductive Step (c : UInt32) : SharedTable ι → SharedTable ι → Prop where
  | begins {s : SharedTable ι} {i : ι} {t : Table} {w : Work} (idle : s.task i = none)
      (serves : t.Serves c) (starts : w.Starts) :
      Step c s (assign { s with begun := s.begun + 1 } i (some ⟨s.begun, t, w⟩))
  | goesOn {s : SharedTable ι} {i : ι} {task : Task} {fails : Bool} {w : Work} {m : Words}
      (busy : s.task i = some task)
      (ran : task.work.step task.handle fails s.memory = (.next w, m)) :
      Step c s (assign { s with
        memory := m
        log := s.log ++ (task.work.event task.call (.next w)).toList } i
        (some { task with work := w }))
  | returns {s : SharedTable ι} {i : ι} {task : Task} {fails : Bool} {r : Return} {m : Words}
      (busy : s.task i = some task)
      (ran : task.work.step task.handle fails s.memory = (.answer r, m)) :
      Step c s (assign { s with
        memory := m
        log := s.log ++ (task.work.event task.call (.answer r)).toList
        ended := s.ended ++ [(task.call, r)] } i none)
  /-- Somebody does something else with the table: records and their guards may change. -/
  | others {s : SharedTable ι} {m : Words} (same : SameSlots c s.memory m) :
      Step c s { s with memory := m }

/-- The states that a run reaches from a memory. -/
inductive Reachable (c : UInt32) (m : Words) : SharedTable ι → Prop where
  | initial : Reachable c m (initial m)
  | step {s s' : SharedTable ι} (before : Reachable c m s) (step : Step c s s') : Reachable c m s'

end SharedTable

end Interprocess
