import Interprocess.Proofs.Table.Retirement

/-!
# Searches for slots

Three searches read the bitmap: a scan for the lowest bit that is clear under a mask, a walk over
the bits that are set, and a test of a single bit. They agree with each other on every memory,
whatever bits are set past the last slot (`Table.Given.searches_right`): the walk lists the slots
that the test finds, each once and in ascending order, and the scan hands out the least slot that is
not listed, or finds that all are.
-/

namespace Interprocess

namespace Table

/-! ## What the searches find -/

/-- The bits of a word of the bitmap that stand for slots, and the numbers of these slots. -/
structure MaskFits (t : Table) (index : Nat) : Prop where
  /-- The word has the bit of some slot. -/
  some : index * 64 < t.capacity
  value : (t.mask index).toNat = 2 ^ min 64 (t.capacity - index * 64) - 1
  bits : ∀ b, Bitmap.isSet (t.mask index) b = true ↔ b < 64 ∧ index * 64 + b < t.capacity
  number : ∀ b, Bitmap.isSet (t.mask index) b = true → (slotAt index b).toNat = index * 64 + b

/-- The second memory has the words of the bitmap and the counter of the first. -/
structure SameBits (t : Table) (m m' : Words) : Prop where
  bitmap : ∀ index, index < t.layout.bitmapWords → t.bitmapWord m' index = t.bitmapWord m index
  counter : m'.get Header.allocatedIndex = m.get Header.allocatedIndex

/-- The second memory is the first with a slot handed out, the least that is not listed. -/
structure HandsOut (t : Table) (slot : UInt32) (m m' : Words) : Prop where
  inside : slot.toNat < t.capacity
  unlisted : slot ∉ t.slots m
  least : ∀ other, other < slot → other ∈ t.slots m
  bit : t.bitmapWord m' (wordOf slot) = t.bitmapWord m (wordOf slot) ||| Bitmap.bit (bitOf slot)
  otherWords : ∀ index, index < t.layout.bitmapWords → index ≠ wordOf slot →
    t.bitmapWord m' index = t.bitmapWord m index
  records : ∀ other, t.recordAt m' other = t.recordAt m other
  counter : m'.get Header.allocatedIndex = m.get Header.allocatedIndex + 1
  elsewhere : ∀ j, t.BesideBit slot j → m'.get j = m.get j
  /-- To take the slot back again undoes it, whatever its record went through meanwhile. -/
  undone : ∀ m₁ m₂, t.SameBits m' m₁ → (t.free slot).result m₁ = (.value (), m₂) →
    t.SameBits m m₂

/-- What the searches of the bitmap find in a memory. -/
structure SearchesRight (t : Table) (m : Words) : Prop where
  masks : ∀ index, index < t.layout.bitmapWords → t.MaskFits index
  lists : t.allocatedSlots.result m = (.value (t.slots m), m)
  ascending : (t.slots m).Pairwise (· < ·)
  mem_iff : ∀ slot, slot ∈ t.slots m ↔ slot.toNat < t.capacity ∧
    (t.bitmapWord m (slot.toNat / 64)).toNat.testBit (slot.toNat % 64) = true
  tests : ∀ slot, (t.isAllocated slot).result m = (.value (decide (slot ∈ t.slots m)), m)
  outside : ∀ slot, t.capacity ≤ slot.toNat → (t.isAllocated slot).result m = (.value false, m)
  full_iff : t.alloc.result m = (.failed (.tableFull t.layout.capacity), m) ↔
    (t.slots m).length = t.capacity
  handsOut : (t.slots m).length ≠ t.capacity →
    ∃ slot m', t.alloc.result m = (.value slot, m') ∧ t.HandsOut slot m m'

variable {c : UInt32} {t : Table} {m : Words} {slot : UInt32}

namespace Serves

/-! ## Masks -/

theorem maskFits (serves : Serves c t) {index : Nat} (has : index < t.layout.bitmapWords) :
    t.MaskFits index := by
  rw [serves.layout, Layout.bitmapWords_ofCapacity] at has
  have some : index * 64 < t.capacity := by
    rw [serves.capacity]
    omega
  have bits (b : Nat) :
      Bitmap.isSet (t.mask index) b = true ↔ b < 64 ∧ index * 64 + b < t.capacity := by
    by_cases small : b < 64
    · rw [mask, Bitmap.isSet_mask small, decide_eq_true_iff]
      exact ⟨fun inside => ⟨small, inside⟩, fun both => both.2⟩
    · have none : Bitmap.isSet (t.mask index) b = false := BitVec.getLsbD_of_ge _ b (by omega)
      rw [none]
      exact iff_of_false Bool.noConfusion fun both => small both.1
  refine ⟨some, ?_, bits, ?_⟩
  · apply Nat.eq_of_testBit_eq
    intro b
    rw [← Bitmap.isSet_eq_testBit, Nat.testBit_two_pow_sub_one, Bool.eq_iff_iff, bits b,
      decide_eq_true_iff]
    omega
  · intro b set
    have inside := ((bits b).mp set).2
    exact UInt32.toNat_ofNat_of_lt' (Nat.lt_trans inside t.layout.capacity.toNat_lt)

/-! ## Slots that are listed -/

theorem mem_slots (serves : Serves c t) : slot ∈ t.slots m ↔ t.holds slot m = true := by
  rw [serves.slots_eq_filter, List.mem_filter, ObjectMap.mem_all]
  constructor
  · exact fun both => both.2
  · exact fun held => ⟨(serves.holds_iff.mp held).1, held⟩

theorem pairwise_slots (serves : Serves c t) : (t.slots m).Pairwise (· < ·) := by
  rw [serves.slots_eq_filter]
  exact (ObjectMap.pairwise_all c).filter _

theorem length_slots_eq_iff (serves : Serves c t) :
    (t.slots m).length = t.capacity ↔ ∀ slot, slot < c → t.holds slot m = true := by
  have count : (ObjectMap.all c).length = t.capacity := by
    rw [ObjectMap.all, List.length_map, List.length_range, serves.capacity]
  rw [serves.slots_eq_filter, ← count, List.length_filter_eq_length_iff]
  constructor
  · exact fun all slot inside => all slot (ObjectMap.mem_all.mpr inside)
  · exact fun all slot mem => all slot (ObjectMap.mem_all.mp mem)

/-! ## Slots that are handed out -/

theorem lt_of_lowestFree (serves : Serves c t) (free : t.LowestFree m slot) : slot < c := by
  have inside := free.inside
  rwa [serves.layout] at inside

theorem undone (serves : Serves c t) (free : t.LowestFree m slot) {m₁ m₂ : Words}
    (same : t.SameBits (withMark c m slot) m₁)
    (freed : (t.free slot).result m₁ = (.value (), m₂)) : t.SameBits m m₂ := by
  have back := serves.takenBack_of_value freed
  have inside := serves.lt_of_lowestFree free
  have has : wordOf slot < t.layout.bitmapWords := by
    rw [serves.layout]
    exact Layout.wordOf_lt inside
  have clear : Bitmap.isSet (t.bitmapWord m (wordOf slot)) (bitOf slot) = false := by
    have without := free.free
    rw [holds_of_lt free.inside] at without
    exact without
  have small : bitOf slot < 64 := Nat.mod_lt _ (by decide)
  refine ⟨?_, ?_⟩
  · intro index within
    by_cases own : index = wordOf slot
    · have marked : t.bitmapWord (withMark c m slot) (wordOf slot) =
          t.bitmapWord m (wordOf slot) ||| Bitmap.bit (bitOf slot) := by
        rw [bitmapWord, bitmapWord, withMark, serves.layout, bitmapWord_putWord, if_pos rfl,
          wordFor]
      rw [own, back.bit, same.bitmap _ has, marked, Bitmap.or_bit_and_not_bit small clear]
    · rw [back.otherWords index within own, same.bitmap index within, bitmapWord, bitmapWord,
        withMark, serves.layout, bitmapWord_putWord, if_neg own]
  · rw [back.counter, same.counter, withMark, get_allocated_putWord, UInt32.add_sub_cancel]

theorem handsOut (serves : Serves c t) (free : t.LowestFree m slot) :
    t.HandsOut slot m (withMark c m slot) := by
  have inside := serves.lt_of_lowestFree free
  refine ⟨?_, ?_, ?_, ?_, ?_, ?_, ?_, ?_, ?_⟩
  · rw [serves.capacity, ← UInt32.lt_iff_toNat_lt]
    exact inside
  · rw [serves.mem_slots, free.free]
    exact Bool.noConfusion
  · intro other below
    exact serves.mem_slots.mpr (free.before other below)
  · rw [bitmapWord, bitmapWord, withMark, serves.layout, bitmapWord_putWord, if_pos rfl, wordFor]
  · intro index _ other
    rw [bitmapWord, bitmapWord, withMark, serves.layout, bitmapWord_putWord, if_neg other]
  · intro other
    rw [recordAt, recordAt, withMark, serves.layout, Table.record_putWord inside]
  · rw [withMark, get_allocated_putWord]
  · rintro j ⟨counter, beside⟩
    rw [serves.layout] at beside
    rw [withMark, get_putWord_of_outside counter beside]
  · intro m₁ m₂ same freed
    exact serves.undone free same freed

end Serves

/-- The searches of the bitmap agree on every memory, also where bits are set that stand for no
slot: the slots that are listed are those whose bits are set, each once and in ascending order; the
test of a slot tells whether it is listed; and a call that nobody disturbs hands out the least slot
that is not listed and changes one bit and the counter, or finds the table full just if as many
slots are listed as there are. To take that slot back again restores the bitmap and the counter. -/
theorem Given.searches_right {t : Table} (given : t.Given) (m : Words) : t.SearchesRight m := by
  have serves := given.serves
  have tests (slot : UInt32) :
      (t.isAllocated slot).result m = (.value (decide (slot ∈ t.slots m)), m) := by
    have told : t.holds slot m = decide (slot ∈ t.slots m) := by
      rw [Bool.eq_iff_iff, decide_eq_true_iff, serves.mem_slots]
    rw [← told, isAllocated_eq, Op.result_read]
  have lists : t.allocatedSlots.result m = (.value (t.slots m), m) := by
    rw [allocatedSlots_eq, Op.result_read]
  have mem_iff (slot : UInt32) : slot ∈ t.slots m ↔ slot.toNat < t.capacity ∧
      (t.bitmapWord m (slot.toNat / 64)).toNat.testBit (slot.toNat % 64) = true := by
    rw [serves.mem_slots, holds, Bool.and_eq_true, decide_eq_true_iff, UInt32.lt_iff_toNat_lt]
    rfl
  have full := serves.length_slots_eq_iff (m := m)
  have ends := serves.alloc_lowest m
  refine ⟨fun index has => serves.maskFits has, lists, serves.pairwise_slots, mem_iff, tests, ?_, ?_,
    ?_⟩
  · intro slot past
    rw [tests slot, decide_eq_false]
    intro listed
    have inside := ((mem_iff slot).mp listed).1
    omega
  · rw [full]
    rcases ends with ⟨all, fails⟩ | ⟨slot, free, hands⟩
    · exact iff_of_true fails all
    · rw [hands]
      apply iff_of_false
      · intro fails
        cases (Prod.mk.inj fails).1
      · intro all
        have taken := all slot free.inside
        rw [free.free] at taken
        cases taken
  · rw [Ne, full]
    intro some
    rcases ends with ⟨all, -⟩ | ⟨slot, free, hands⟩
    · exact absurd all some
    · exact ⟨slot, _, hands, serves.handsOut free⟩

/-- Of two slots the first is handed out, and two more bits are set that stand for no slot. -/
theorem hands_out_between_stray_bits :
    ∃ m m', pair.Given ∧ pair.bitmapWord m 0 = 0b100101 ∧ pair.slots m = [0] ∧
      pair.alloc.result m = (.value 1, m') ∧ pair.HandsOut 1 m m' := by
  have word : pair.bitmapWord (Words.zero.setLong (pair.layout.bitmapIndex 0) 0b100101) 0 =
      0b100101 := Words.getLong_setLong_self ..
  generalize Words.zero.setLong (pair.layout.bitmapIndex 0) 0b100101 = m at word
  have whole := given_pair.searches_right m
  have slots : pair.slots m = [0] := by
    have first : pair.holds 0 m = true := by
      rw [holds, show wordOf 0 = 0 from rfl, word]
      decide
    have second : pair.holds 1 m = false := by
      rw [holds, show wordOf 1 = 0 from rfl, word]
      decide
    rw [given_pair.serves.slots_eq_filter, show ObjectMap.all pair.layout.capacity = [0, 1] from rfl]
    simp [first, second]
  obtain ⟨slot, m', ran, hands⟩ := whole.handsOut (by rw [slots]; decide)
  have other : slot = 1 := by
    have inside : slot.toNat < 2 := hands.inside
    have unlisted : slot ≠ 0 := by
      rintro rfl
      exact hands.unlisted (by rw [slots]; exact List.mem_singleton_self _)
    rw [Ne, ← UInt32.toNat_inj] at unlisted
    rw [← UInt32.toNat_inj]
    have zero : (0 : UInt32).toNat = 0 := rfl
    have one : (1 : UInt32).toNat = 1 := rfl
    omega
  rw [other] at ran hands
  exact ⟨m, m', given_pair, word, slots, ran, hands⟩

end Table

end Interprocess
