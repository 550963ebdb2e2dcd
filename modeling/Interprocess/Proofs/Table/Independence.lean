import Interprocess.Proofs.Table.Retirement

/-!
# Calls on different slots

A call on one slot reads the bit and the record of the slot, and writes its record; a call that
takes the slot back also clears the bit and counts the slot off (`KeepsTo`). Records and bits of
different slots lie apart, and the counter goes down by one for each slot that is taken back, in
whatever order. So calls on different slots are independent (`Table.Given.slot_calls_independent`):
either order gives the same answers and the same words, whatever the memory holds.
-/

namespace Interprocess

/-! ## The part of a slot -/

/-- What the memory of a table has for one slot: whether its bit is set, and its record. -/
structure SlotPart where
  taken : Bool
  record : Record

/-- What a call leaves of the part of a slot: the record, and whether the slot is taken back. -/
structure SlotStore where
  record : Record
  takesBack : Bool

def slotPart (c : UInt32) (m : Words) (slot : UInt32) : SlotPart :=
  ⟨decide (slot < c) && slotBit c m slot.toNat,
    m.record ((Layout.ofCapacity c).recordIndex slot)⟩

/-- The memory after a call on a slot. -/
def storeSlot (c : UInt32) (m : Words) (slot : UInt32) (s : SlotStore) : Words :=
  let m := m.setRecord ((Layout.ofCapacity c).recordIndex slot) s.record
  if s.takesBack then withoutMark c m slot else m

/-- An operation that reads and writes the part of a slot only, and takes the slot back only if it
`mayTakeBack` slots and the slot is handed out. -/
def KeepsTo {α : Type} (c : UInt32) (slot : UInt32) (mayTakeBack : Prop) (op : Op Words α) :
    Prop :=
  ∃ act : SlotPart → Outcome α × SlotStore,
    (∀ part, (act part).2.takesBack = true → mayTakeBack ∧ part.taken = true) ∧
      ∀ m, (op.result m).1 = (act (slotPart c m slot)).1 ∧
        ∀ j, (op.result m).2.get j = (storeSlot c m slot (act (slotPart c m slot)).2).get j

namespace SlotPart

variable {α : Type}

def withObject (slot : UInt32) (op : Op Record α) (part : SlotPart) : Outcome α × SlotStore :=
  if part.taken then ((op.result part.record).1, ⟨(op.result part.record).2, false⟩)
  else (.failed (.invalidSlot slot), ⟨part.record, false⟩)

def free (p : GuardPolicy) (slot : UInt32) (part : SlotPart) : Outcome Unit × SlotStore :=
  if part.taken then
    match (Record.retire p).result part.record with
    | (.value _, r) => (.value (), ⟨r, true⟩)
    | (.failed e, r) => (.failed e, ⟨r, false⟩)
    | (.blocked, r) => (.blocked, ⟨r, false⟩)
  else (.failed (.invalidSlot slot), ⟨part.record, false⟩)

theorem withObject_takesNone (slot : UInt32) (op : Op Record α) (part : SlotPart) :
    (part.withObject slot op).2.takesBack = false := by
  unfold withObject
  split <;> rfl

theorem taken_of_free {p : GuardPolicy} {slot : UInt32} {part : SlotPart}
    (took : (part.free p slot).2.takesBack = true) : part.taken = true := by
  by_contra free
  rw [SlotPart.free, if_neg free] at took
  cases took

end SlotPart

/-! ## Memories with the same words -/

namespace Words

variable {m m' : Words} {i : Nat}

theorem get_congr_of_getLong (same : m'.getLong i = m.getLong i) :
    m'.get i = m.get i ∧ m'.get (i + 1) = m.get (i + 1) := by
  have low (m : Words) : (m.getLong i).toUInt32 = m.get i := by
    apply UInt32.eq_of_toBitVec_eq
    apply BitVec.eq_of_getLsbD_eq
    intro b hb
    simp [getLong, hb]
  have high (m : Words) : (m.getLong i >>> 32).toUInt32 = m.get (i + 1) := by
    apply UInt32.eq_of_toBitVec_eq
    apply BitVec.eq_of_getLsbD_eq
    intro b hb
    have upper : ¬ 32 + b < 32 := by omega
    have inside : 32 + b < 64 := by omega
    have small : b < 64 := by omega
    simp [getLong, hb, upper, inside, small]
  rw [← low m, ← low m', ← high m, ← high m', same]
  exact ⟨rfl, rfl⟩

end Words

section Stores

variable {c : UInt32} {m m' : Words} {slot other : UInt32} {s : SlotStore}

theorem slotPart_congr (same : ∀ j, m'.get j = m.get j) (slot : UInt32) :
    slotPart c m' slot = slotPart c m slot := by
  have long (i : Nat) : m'.getLong i = m.getLong i := Words.getLong_congr (same i) (same (i + 1))
  have record : m'.record ((Layout.ofCapacity c).recordIndex slot) =
      m.record ((Layout.ofCapacity c).recordIndex slot) := Words.record_congr fun j _ _ => same j
  rw [slotPart, slotPart, slotBit, slotBit, long, record]

/-! ## What a call leaves of the parts -/

theorem record_storeSlot_self (inside : s.takesBack = true → slot < c) :
    (storeSlot c m slot s).record ((Layout.ofCapacity c).recordIndex slot) = s.record := by
  unfold storeSlot
  dsimp only
  split
  · rename_i back
    rw [withoutMark, Table.record_putWord (inside back), Words.record_setRecord_self]
  · exact Words.record_setRecord_self ..

theorem record_storeSlot_of_ne (inside : s.takesBack = true → slot < c) (apart : other ≠ slot) :
    (storeSlot c m slot s).record ((Layout.ofCapacity c).recordIndex other) =
      m.record ((Layout.ofCapacity c).recordIndex other) := by
  unfold storeSlot
  dsimp only
  split
  · rename_i back
    rw [withoutMark, Table.record_putWord (inside back), Table.record_setRecord_of_ne _ apart]
  · exact Table.record_setRecord_of_ne _ apart

theorem getLong_storeSlot {index : Nat} (has : index < (Layout.ofCapacity c).bitmapWords)
    (m : Words) (slot : UInt32) (s : SlotStore) :
    (storeSlot c m slot s).getLong ((Layout.ofCapacity c).bitmapIndex index) =
      if s.takesBack = true ∧ index = Table.wordOf slot then
        m.getLong ((Layout.ofCapacity c).bitmapIndex index) &&& ~~~ Bitmap.bit (Table.bitOf slot)
      else m.getLong ((Layout.ofCapacity c).bitmapIndex index) := by
  unfold storeSlot
  dsimp only
  by_cases back : s.takesBack = true
  · rw [if_pos back, withoutMark, Table.bitmapWord_putWord]
    by_cases own : index = Table.wordOf slot
    · subst own
      rw [if_pos rfl, if_pos ⟨back, rfl⟩, wordFor, Table.bitmapWord_setRecord has]
    · rw [if_neg own, if_neg fun both => own both.2, Table.bitmapWord_setRecord has]
  · rw [if_neg back, if_neg fun both => back both.1, Table.bitmapWord_setRecord has]

theorem get_allocated_storeSlot (c : UInt32) (m : Words) (slot : UInt32) (s : SlotStore) :
    (storeSlot c m slot s).get Header.allocatedIndex =
      if s.takesBack = true then m.get Header.allocatedIndex + (-1)
      else m.get Header.allocatedIndex := by
  unfold storeSlot
  dsimp only
  split
  · rw [withoutMark, Table.get_allocated_putWord, Table.get_allocated_setRecord]
  · exact Table.get_allocated_setRecord ..

theorem get_storeSlot_of_outside {j : Nat}
    (record : j < (Layout.ofCapacity c).recordIndex slot ∨
      (Layout.ofCapacity c).recordIndex slot + 5 ≤ j)
    (bit : s.takesBack = true → j ≠ Header.allocatedIndex ∧
      (j < (Layout.ofCapacity c).bitmapIndex (Table.wordOf slot) ∨
        (Layout.ofCapacity c).bitmapIndex (Table.wordOf slot) + 2 ≤ j)) :
    (storeSlot c m slot s).get j = m.get j := by
  unfold storeSlot
  dsimp only
  split
  · rename_i back
    obtain ⟨counter, beside⟩ := bit back
    rw [withoutMark, Table.get_putWord_of_outside counter beside,
      Words.get_setRecord_of_outside _ record]
  · exact Words.get_setRecord_of_outside _ record

theorem get_storeSlot_same (c : UInt32) (m : Words) (slot : UInt32) (j : Nat) :
    (storeSlot c m slot ⟨m.record ((Layout.ofCapacity c).recordIndex slot), false⟩).get j =
      m.get j := by
  simp only [storeSlot, Bool.false_eq_true, if_false]
  exact Words.get_setRecord_record m _ j

theorem slotPart_storeSlot_of_ne (inside : s.takesBack = true → slot < c) (apart : other ≠ slot) :
    slotPart c (storeSlot c m slot s) other = slotPart c m other := by
  rw [slotPart, slotPart, record_storeSlot_of_ne inside apart]
  by_cases small : other < c
  · have bit : slotBit c (storeSlot c m slot s) other.toNat = slotBit c m other.toNat := by
      have has := Layout.wordOf_lt small
      have number : other.toNat ≠ slot.toNat := fun same => apart (UInt32.toNat_inj.mp same)
      unfold storeSlot
      dsimp only
      split
      · rw [Table.slotBit_withoutMark, if_neg number, Table.slotBit_setRecord slot _ has]
      · exact Table.slotBit_setRecord slot _ has
    rw [bit]
  · rw [decide_eq_false small, Bool.false_and, Bool.false_and]

/-- Two memories of a table are the same if the header, the words of the bitmap and the records
are, and all that lies between them. Records are compared as such for two slots only. -/
theorem get_congr_of_parts {a b : UInt32}
    (first : m'.record ((Layout.ofCapacity c).recordIndex a) =
      m.record ((Layout.ofCapacity c).recordIndex a))
    (second : m'.record ((Layout.ofCapacity c).recordIndex b) =
      m.record ((Layout.ofCapacity c).recordIndex b))
    (bitmap : ∀ index, index < (Layout.ofCapacity c).bitmapWords →
      m'.getLong ((Layout.ofCapacity c).bitmapIndex index) =
        m.getLong ((Layout.ofCapacity c).bitmapIndex index))
    (counter : m'.get Header.allocatedIndex = m.get Header.allocatedIndex)
    (elsewhere : ∀ j, j ≠ Header.allocatedIndex →
      (∀ index, index < (Layout.ofCapacity c).bitmapWords →
        j < (Layout.ofCapacity c).bitmapIndex index ∨
          (Layout.ofCapacity c).bitmapIndex index + 2 ≤ j) →
      (∀ slot, slot = a ∨ slot = b → j < (Layout.ofCapacity c).recordIndex slot ∨
        (Layout.ofCapacity c).recordIndex slot + 5 ≤ j) → m'.get j = m.get j) (j : Nat) :
    m'.get j = m.get j := by
  by_cases header : j = Header.allocatedIndex
  · rw [header, counter]
  by_cases words : ∀ index, index < (Layout.ofCapacity c).bitmapWords →
      j < (Layout.ofCapacity c).bitmapIndex index ∨ (Layout.ofCapacity c).bitmapIndex index + 2 ≤ j
  · by_cases records : ∀ slot, slot = a ∨ slot = b →
        j < (Layout.ofCapacity c).recordIndex slot ∨
          (Layout.ofCapacity c).recordIndex slot + 5 ≤ j
    · exact elsewhere j header words records
    · push Not at records
      obtain ⟨slot, rfl | rfl, low, high⟩ := records
      · exact Words.get_congr_of_record first low high
      · exact Words.get_congr_of_record second low high
  · push Not at words
    obtain ⟨index, has, low, high⟩ := words
    obtain ⟨lower, upper⟩ := Words.get_congr_of_getLong (bitmap index has)
    have half : j = (Layout.ofCapacity c).bitmapIndex index ∨
        j = (Layout.ofCapacity c).bitmapIndex index + 1 := by omega
    rcases half with rfl | rfl
    · exact lower
    · exact upper

theorem storeSlot_congr (same : ∀ j, m'.get j = m.get j)
    (inside : s.takesBack = true → slot < c) (j : Nat) :
    (storeSlot c m' slot s).get j = (storeSlot c m slot s).get j := by
  refine get_congr_of_parts (c := c) (a := slot) (b := slot) ?_ ?_ ?_ ?_ ?_ j
  · rw [record_storeSlot_self inside, record_storeSlot_self inside]
  · rw [record_storeSlot_self inside, record_storeSlot_self inside]
  · intro index has
    rw [getLong_storeSlot has, getLong_storeSlot has,
      Words.getLong_congr (same _) (same ((Layout.ofCapacity c).bitmapIndex index + 1))]
  · rw [get_allocated_storeSlot, get_allocated_storeSlot, same]
  · intro j counter words records
    have own := records slot (.inl rfl)
    have beside (back : s.takesBack = true) := words _ (Layout.wordOf_lt (inside back))
    rw [get_storeSlot_of_outside own fun back => ⟨counter, beside back⟩,
      get_storeSlot_of_outside own fun back => ⟨counter, beside back⟩, same]

theorem storeSlot_comm {s' : SlotStore} (apart : slot ≠ other)
    (inside : s.takesBack = true → slot < c) (inside' : s'.takesBack = true → other < c) (j : Nat) :
    (storeSlot c (storeSlot c m slot s) other s').get j =
      (storeSlot c (storeSlot c m other s') slot s).get j := by
  refine get_congr_of_parts (c := c) (a := slot) (b := other) ?_ ?_ ?_ ?_ ?_ j
  · rw [record_storeSlot_of_ne inside' apart, record_storeSlot_self inside,
      record_storeSlot_self inside]
  · rw [record_storeSlot_self inside', record_storeSlot_of_ne inside apart.symm,
      record_storeSlot_self inside']
  · intro index has
    simp only [getLong_storeSlot has]
    split_ifs
    · -- both bits lie in this word
      rw [UInt64.and_assoc, UInt64.and_comm (~~~ _), ← UInt64.and_assoc]
    all_goals rfl
  · simp only [get_allocated_storeSlot]
    split_ifs <;> rfl
  · intro j counter words records
    have own := records slot (.inl rfl)
    have own' := records other (.inr rfl)
    have bit (back : s.takesBack = true) := words _ (Layout.wordOf_lt (inside back))
    have bit' (back : s'.takesBack = true) := words _ (Layout.wordOf_lt (inside' back))
    rw [get_storeSlot_of_outside own' fun back => ⟨counter, bit' back⟩,
      get_storeSlot_of_outside own fun back => ⟨counter, bit back⟩,
      get_storeSlot_of_outside own fun back => ⟨counter, bit back⟩,
      get_storeSlot_of_outside own' fun back => ⟨counter, bit' back⟩]

end Stores

/-! ## Calls that keep to a slot -/

/-- Either order of two operations gives the same answers and the same words. -/
structure Independent {α β : Type} (op : Op Words α) (op' : Op Words β) (m : Words) : Prop where
  first : (op.result (op'.result m).2).1 = (op.result m).1
  second : (op'.result (op.result m).2).1 = (op'.result m).1
  words : ∀ j, (op'.result (op.result m).2).2.get j = (op.result (op'.result m).2).2.get j

namespace KeepsTo

variable {α β : Type} {c slot other : UInt32} {back back' : Prop} {op : Op Words α}

theorem map (h : KeepsTo c slot back op) (f : α → β) : KeepsTo c slot back (f <$> op) := by
  obtain ⟨act, takes, acts⟩ := h
  refine ⟨fun part => ((act part).1.map f, (act part).2), takes, ?_⟩
  intro m
  rw [Op.result_map, (acts m).1]
  exact ⟨rfl, (acts m).2⟩

theorem mono (h : KeepsTo c slot back op) (weaker : back → back') : KeepsTo c slot back' op := by
  obtain ⟨act, takes, acts⟩ := h
  exact ⟨act, fun part took => ⟨weaker (takes part took).1, (takes part took).2⟩, acts⟩

theorem lt_of_taken {m : Words} (taken : (slotPart c m slot).taken = true) : slot < c := by
  rw [slotPart, Bool.and_eq_true, decide_eq_true_iff] at taken
  exact taken.1

theorem elsewhere (h : KeepsTo c slot back op) {m : Words} {j : Nat}
    (record : j < (Layout.ofCapacity c).recordIndex slot ∨
      (Layout.ofCapacity c).recordIndex slot + 5 ≤ j)
    (bit : back → j ≠ Header.allocatedIndex ∧
      (j < (Layout.ofCapacity c).bitmapIndex (Table.wordOf slot) ∨
        (Layout.ofCapacity c).bitmapIndex (Table.wordOf slot) + 2 ≤ j)) :
    (op.result m).2.get j = m.get j := by
  obtain ⟨act, takes, acts⟩ := h
  rw [(acts m).2]
  exact get_storeSlot_of_outside record fun took => bit (takes _ took).1

theorem otherBits (h : KeepsTo c slot back op) (m : Words) {index b : Nat}
    (has : index < (Layout.ofCapacity c).bitmapWords) (small : b < 64)
    (apart : index * 64 + b ≠ slot.toNat) :
    Bitmap.isSet ((op.result m).2.getLong ((Layout.ofCapacity c).bitmapIndex index)) b =
      Bitmap.isSet (m.getLong ((Layout.ofCapacity c).bitmapIndex index)) b := by
  obtain ⟨act, takes, acts⟩ := h
  rw [Words.getLong_congr ((acts m).2 _) ((acts m).2 _), getLong_storeSlot has]
  split
  · rename_i own
    have inWord : Table.bitOf slot < 64 := Nat.mod_lt _ (by decide)
    have bitApart : Table.bitOf slot ≠ b := by
      have word := own.2
      rw [Table.wordOf] at word
      rw [Table.bitOf]
      omega
    rw [Bitmap.isSet_and_not_bit _ inWord small, decide_eq_false bitApart, Bool.not_false,
      Bool.and_true]
  · rfl

/-- What an operation answers, and what it leaves, is the same after an operation that keeps to
another slot. -/
theorem independent {op' : Op Words β} (h : KeepsTo c slot back op)
    (h' : KeepsTo c other back' op') (apart : slot ≠ other) (m : Words) :
    Independent op op' m := by
  obtain ⟨act, takes, acts⟩ := h
  obtain ⟨act', takes', acts'⟩ := h'
  have inside (took : (act (slotPart c m slot)).2.takesBack = true) : slot < c :=
    lt_of_taken (takes _ took).2
  have inside' (took : (act' (slotPart c m other)).2.takesBack = true) : other < c :=
    lt_of_taken (takes' _ took).2
  have part : slotPart c (op'.result m).2 slot = slotPart c m slot :=
    (slotPart_congr (acts' m).2 slot).trans (slotPart_storeSlot_of_ne inside' apart)
  have part' : slotPart c (op.result m).2 other = slotPart c m other :=
    (slotPart_congr (acts m).2 other).trans (slotPart_storeSlot_of_ne inside apart.symm)
  refine ⟨?_, ?_, ?_⟩
  · rw [(acts _).1, part, (acts m).1]
  · rw [(acts' _).1, part', (acts' m).1]
  · intro j
    rw [(acts' _).2, part', (acts _).2, part, storeSlot_congr (acts m).2 inside',
      storeSlot_congr (acts' m).2 inside]
    exact storeSlot_comm apart inside inside' j

end KeepsTo

namespace Table

variable {α : Type} {c : UInt32} {t : Table}

/-- What a handle or a view offers that is about one slot. -/
inductive SlotCall where
  | free
  | tryWait (requester : ThreadId)
  | snapshot
  /-- Opens a view of the object. -/
  | opens (k : Kind)
  /-- Uses a view that was opened before. -/
  | uses (call : ViewCall)

def SlotCall.op (t : Table) (slot : UInt32) : SlotCall → Op Words Reply
  | free => (HandleCall.free slot).op t
  | tryWait requester => (HandleCall.tryWait slot requester).op t
  | snapshot => (HandleCall.snapshot slot).op t
  | opens k => (HandleCall.check slot k).op t
  | uses call => (View.mk t slot).op call

namespace Serves

theorem slotPart_eq (serves : Serves c t) (m : Words) (slot : UInt32) :
    slotPart c m slot = ⟨t.holds slot m, m.record ((Layout.ofCapacity c).recordIndex slot)⟩ := by
  have told : (decide (slot < c) && slotBit c m slot.toNat) = t.holds slot m := by
    rw [Bool.eq_iff_iff, serves.holds_iff, Bool.and_eq_true, decide_eq_true_iff]
  rw [slotPart, told]

theorem keepsTo_onRecord (serves : Serves c t) (slot : UInt32) (op : Op Record α) :
    KeepsTo c slot False (t.onRecord slot op) := by
  refine ⟨fun part => ((op.result part.record).1, ⟨(op.result part.record).2, false⟩), nofun, ?_⟩
  intro m
  rw [serves.onRecord_eq, slotPart]
  exact ⟨rfl, fun _ => rfl⟩

theorem keepsTo_withObject (serves : Serves c t) (slot : UInt32)
    (op : GuardPolicy → Op Record α) : KeepsTo c slot False (t.withObject slot op) := by
  refine ⟨SlotPart.withObject slot (op t.policy), ?_, ?_⟩
  · intro part took
    rw [SlotPart.withObject_takesNone] at took
    cases took
  · intro m
    rw [serves.slotPart_eq, SlotPart.withObject]
    have required := require_result t slot m
    cases held : t.holds slot m with
    | true =>
      rw [if_pos held] at required
      rw [withObject_eq, Op.result_bind_of_value required, serves.onRecord_eq]
      exact ⟨rfl, fun _ => rfl⟩
    | false =>
      rw [held] at required
      rw [withObject_eq, Op.result_bind_of_failed required]
      exact ⟨rfl, fun j => (get_storeSlot_same c m slot j).symm⟩

theorem keepsTo_free (serves : Serves c t) (slot : UInt32) : KeepsTo c slot True (t.free slot) := by
  refine ⟨SlotPart.free t.policy slot, ?_, ?_⟩
  · intro part took
    exact ⟨trivial, SlotPart.taken_of_free took⟩
  · intro m
    rw [serves.slotPart_eq, SlotPart.free]
    cases held : t.holds slot m with
    | true =>
      rw [serves.free_of_holds held, if_pos rfl]
      generalize (Record.retire t.policy).result _ = ran
      obtain ⟨_ | _ | _, r⟩ := ran <;> exact ⟨rfl, fun _ => rfl⟩
    | false =>
      rw [Serves.free_of_not_holds t held]
      exact ⟨rfl, fun j => (get_storeSlot_same c m slot j).symm⟩

theorem slotCall_keepsTo (serves : Serves c t) (slot : UInt32) (call : SlotCall) :
    KeepsTo c slot (call = .free) (call.op t slot) := by
  cases call with
  | free => exact ((serves.keepsTo_free slot).map _).mono fun _ => rfl
  | tryWait requester =>
    exact (((serves.keepsTo_withObject slot _).map _).map _).mono False.elim
  | snapshot => exact (((serves.keepsTo_withObject slot _).map _).map _).mono False.elim
  | opens k => exact ((serves.keepsTo_withObject slot _).map _).mono False.elim
  | uses call => exact ((serves.keepsTo_onRecord slot _).map _).mono False.elim

end Serves

/-! ## Independence -/

/-- The second memory is the first after a call on a slot: all that may differ is the record of the
slot, and if it may be taken back its bit and the counter. -/
structure Confined (t : Table) (slot : UInt32) (call : SlotCall) (m m' : Words) : Prop where
  elsewhere : ∀ j, t.Outside slot j → (call = .free → t.BesideBit slot j) → m'.get j = m.get j
  otherBits : ∀ index b, index < t.layout.bitmapWords → b < 64 → index * 64 + b ≠ slot.toNat →
    Bitmap.isSet (t.bitmapWord m' index) b = Bitmap.isSet (t.bitmapWord m index) b

theorem Serves.confined (serves : Serves c t) (slot : UInt32) (call : SlotCall) (m : Words) :
    t.Confined slot call m ((call.op t slot).result m).2 := by
  have keeps := serves.slotCall_keepsTo slot call
  refine ⟨?_, ?_⟩
  · intro j record bit
    unfold Outside BesideBit at *
    rw [serves.layout] at record bit
    exact keeps.elsewhere record bit
  · intro index b has small apart
    rw [serves.layout] at has
    rw [bitmapWord, bitmapWord, serves.layout]
    exact keeps.otherBits m has small apart

/-- Calls on two slots of a table, through one handle or through two with policies of their own,
whatever the words of the memory are: each of them writes to the record of its slot, or to its bit
and the counter if it takes the slot back, and to no other word; and either order gives the same
answers, refusals among them, and the same words. -/
theorem Given.slot_calls_independent {t u : Table} (given : t.Given) (given' : u.Given)
    (same : u.layout = t.layout) {slot other : UInt32} (apart : slot ≠ other)
    (call call' : SlotCall) (m : Words) :
    t.Confined slot call m ((call.op t slot).result m).2 ∧
      u.Confined other call' m ((call'.op u other).result m).2 ∧
        Independent (call.op t slot) (call'.op u other) m := by
  have serves' := given'.serves
  refine ⟨given.serves.confined slot call m, serves'.confined other call' m, ?_⟩
  rw [same] at serves'
  exact (given.serves.slotCall_keepsTo slot call).independent
    (serves'.slotCall_keepsTo other call') apart m

/-- One mutex is taken back through one handle, and another is asked for through another handle
while somebody who lives keeps its guard. -/
theorem frees_slot_beside_held_guard :
    ∃ m, pair.Given ∧ Given { pair with policy := Guard.hasty 8 } ∧
      Independent (SlotCall.free.op pair 0)
        ((SlotCall.tryWait ⟨5⟩).op { pair with policy := Guard.hasty 8 } 1) m ∧
      pair.recordAt m 1 = ⟨9, .ofState (.mutex (.heldBy ⟨5⟩))⟩ ∧
      pair.Confined 0 .free m ((SlotCall.free.op pair 0).result m).2 ∧
      (SlotCall.free.op pair 0).result m = (.value .done, ((SlotCall.free.op pair 0).result m).2) ∧
      ((SlotCall.free.op pair 0).result (((SlotCall.tryWait ⟨5⟩).op
        { pair with policy := Guard.hasty 8 } 1).result m).2).1 = .value .done := by
  obtain ⟨m, taken, first, second⟩ := exists_pair_held
  have made : (Table.create pair.region ⟨2, Guard.hasty 8⟩).result Words.zero =
      (.value { pair with policy := Guard.hasty 8 }, _) :=
    Table.create_result rfl (by decide) Words.zero
  obtain ⟨confined, -, independent⟩ := given_pair.slot_calls_independent (.made made) rfl
    (show (0 : UInt32) ≠ 1 by decide) .free (.tryWait ⟨5⟩) m
  have has (slot : UInt32) (mem : slot ∈ pair.taken m) : pair.holds slot m = true :=
    (List.mem_filter.mp mem).2
  have freed : ((SlotCall.free.op pair 0).result m).1 = .value .done := by
    have gets : pair.policy.Gets (pair.recordAt m 0).guard := by
      rw [first]
      exact ⟨rfl, .inl rfl⟩
    have ended := given_pair.serves.free_of_gets (has 0 (by simp [taken])) gets
    rw [SlotCall.op, HandleCall.op, Op.result_map, ended]
    rfl
  exact ⟨m, given_pair, .made made, independent, second, confined, Prod.ext freed rfl,
    independent.first.trans freed⟩

end Table

end Interprocess
