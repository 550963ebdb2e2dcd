import Interprocess.Proofs.Memory.Words
import Interprocess.Proofs.Table.Bitmap
import Interprocess.Proofs.Table.Layout

/-!
# What stores in a table leave

The memory of a table changes by stores of two sorts: a record is stored, or a word of the bitmap
together with the counter of the header. What each of them leaves of the header, of the bits and of
the records is said here once.
-/

namespace Interprocess

def slotBit (c : UInt32) (m : Words) (slot : Nat) : Bool :=
  Bitmap.isSet (m.getLong ((Layout.ofCapacity c).bitmapIndex (slot / 64))) (slot % 64)

def wordFor (c : UInt32) (m : Words) (slot : UInt32) : UInt64 :=
  m.getLong ((Layout.ofCapacity c).bitmapIndex (Table.wordOf slot))

/-- The memory with another word of the bitmap for a slot and another count. -/
def putWord (c : UInt32) (m : Words) (slot : UInt32) (word : UInt64) (n : UInt32) : Words :=
  (m.setLong ((Layout.ofCapacity c).bitmapIndex (Table.wordOf slot)) word).set
    Header.allocatedIndex n

/-- The memory with the bit for a slot set and the slot counted. -/
def withMark (c : UInt32) (m : Words) (slot : UInt32) : Words :=
  putWord c m slot (wordFor c m slot ||| Bitmap.bit (Table.bitOf slot))
    (m.get Header.allocatedIndex + 1)

/-- The memory with the bit for a slot cleared and the slot counted off. -/
def withoutMark (c : UInt32) (m : Words) (slot : UInt32) : Words :=
  putWord c m slot (wordFor c m slot &&& ~~~ Bitmap.bit (Table.bitOf slot))
    (m.get Header.allocatedIndex + (-1))

/-! ## Headers -/

namespace Header

variable {m m' : Words}

theorem load_congr (h : ∀ i, i < 8 → m.get i = m'.get i) : load m = load m' := by
  have magic : m.getLong 0 = m'.getLong 0 :=
    Words.getLong_congr (h 0 (by decide)) (h 1 (by decide))
  simp only [load, allocatedIndex, magic]
  rw [h 2 (by decide), h 3 (by decide), h 4 (by decide), h 5 (by decide), h 6 (by decide),
    h 7 (by decide)]

theorem load_set_allocated (m : Words) (n : UInt32) :
    load (m.set allocatedIndex n) = { load m with allocated := n } := by
  simp [load, allocatedIndex, Words.getLong, Words.get_set]

theorem load_setRecord (c : UInt32) (m : Words) (slot : UInt32) (r : Record) :
    load (m.setRecord ((Layout.ofCapacity c).recordIndex slot) r) = load m := by
  have before := Layout.header_before_records c slot
  exact load_congr fun i hi => Words.get_setRecord_of_outside r (by omega)

theorem load_putWord (c : UInt32) (m : Words) (slot : UInt32) (word : UInt64) (n : UInt32) :
    load (putWord c m slot word n) = { load m with allocated := n } := by
  have early := Layout.header_before_bitmap c (Table.wordOf slot)
  rw [putWord, load_set_allocated,
    load_congr fun i hi => Words.get_setLong_of_outside word (by omega)]

end Header

namespace Table

variable {c : UInt32} {m : Words} {slot : UInt32}

/-! ## Records -/

theorem record_setRecord_of_ne {s : UInt32} (r : Record) (h : s ≠ slot) :
    (m.setRecord ((Layout.ofCapacity c).recordIndex slot) r).record
      ((Layout.ofCapacity c).recordIndex s) = m.record ((Layout.ofCapacity c).recordIndex s) := by
  have apart := Layout.records_apart c h
  exact Words.record_congr fun i low high => Words.get_setRecord_of_outside r (by omega)

theorem record_setLong {index : Nat} (inside : index < (Layout.ofCapacity c).bitmapWords)
    (word : UInt64) (s : UInt32) :
    (m.setLong ((Layout.ofCapacity c).bitmapIndex index) word).record
      ((Layout.ofCapacity c).recordIndex s) = m.record ((Layout.ofCapacity c).recordIndex s) := by
  have before := Layout.bitmap_before_records inside s
  exact Words.record_congr fun i low high => Words.get_setLong_of_outside _ (by omega)

theorem record_putWord (inside : slot < c) (word : UInt64) (n : UInt32) (s : UInt32) :
    (putWord c m slot word n).record ((Layout.ofCapacity c).recordIndex s) =
      m.record ((Layout.ofCapacity c).recordIndex s) := by
  have later := Layout.header_before_records c s
  refine Eq.trans (Words.record_congr fun i low high => ?_)
    (record_setLong (Layout.wordOf_lt inside) word s)
  have counter : ¬ Header.allocatedIndex = i := by
    rw [Header.allocatedIndex]
    omega
  rw [putWord, Words.get_set, if_neg counter]

/-! ## Counter -/

theorem get_allocated_setLong (c : UInt32) (m : Words) (index : Nat) (word : UInt64) :
    (m.setLong ((Layout.ofCapacity c).bitmapIndex index) word).get Header.allocatedIndex =
      m.get Header.allocatedIndex := by
  have early := Layout.header_before_bitmap c index
  refine Words.get_setLong_of_outside _ ?_
  rw [Header.allocatedIndex]
  omega

theorem get_allocated_setRecord (c : UInt32) (m : Words) (slot : UInt32) (r : Record) :
    (m.setRecord ((Layout.ofCapacity c).recordIndex slot) r).get Header.allocatedIndex =
      m.get Header.allocatedIndex := by
  have later := Layout.header_before_records c slot
  refine Words.get_setRecord_of_outside r ?_
  rw [Header.allocatedIndex]
  omega

/-! ## Single words -/

theorem get_putWord_of_outside {j : Nat} (counter : j ≠ Header.allocatedIndex)
    (outside : j < (Layout.ofCapacity c).bitmapIndex (wordOf slot) ∨
      (Layout.ofCapacity c).bitmapIndex (wordOf slot) + 2 ≤ j) (word : UInt64) (n : UInt32) :
    (putWord c m slot word n).get j = m.get j := by
  rw [putWord, Words.get_set, if_neg (Ne.symm counter), Words.get_setLong_of_outside word outside]

theorem get_allocated_putWord (c : UInt32) (m : Words) (slot : UInt32) (word : UInt64)
    (n : UInt32) : (putWord c m slot word n).get Header.allocatedIndex = n := by
  rw [putWord, Words.get_set, if_pos rfl]

/-! ## Bits -/

theorem bitmapWord_setRecord {index : Nat} (inside : index < (Layout.ofCapacity c).bitmapWords)
    (slot : UInt32) (r : Record) :
    (m.setRecord ((Layout.ofCapacity c).recordIndex slot) r).getLong
      ((Layout.ofCapacity c).bitmapIndex index) =
        m.getLong ((Layout.ofCapacity c).bitmapIndex index) := by
  have before := Layout.bitmap_before_records inside slot
  exact Words.getLong_congr (Words.get_setRecord_of_outside r (by omega))
    (Words.get_setRecord_of_outside r (by omega))

theorem bitmapWord_set_allocated (c : UInt32) (m : Words) (n : UInt32) (index : Nat) :
    (m.set Header.allocatedIndex n).getLong ((Layout.ofCapacity c).bitmapIndex index) =
      m.getLong ((Layout.ofCapacity c).bitmapIndex index) := by
  have early := Layout.header_before_bitmap c index
  have away : ∀ i, 8 ≤ i → (m.set Header.allocatedIndex n).get i = m.get i := by
    intro i low
    have counter : ¬ Header.allocatedIndex = i := by
      rw [Header.allocatedIndex]
      omega
    rw [Words.get_set, if_neg counter]
  exact Words.getLong_congr (away _ early) (away _ (by omega))

theorem bitmapWord_putWord (c : UInt32) (m : Words) (slot : UInt32) (word : UInt64) (n : UInt32)
    (index : Nat) :
    (putWord c m slot word n).getLong ((Layout.ofCapacity c).bitmapIndex index) =
      if index = wordOf slot then word
      else m.getLong ((Layout.ofCapacity c).bitmapIndex index) := by
  rw [putWord, bitmapWord_set_allocated]
  split
  · rename_i own
    rw [own, Words.getLong_setLong_self]
  · rename_i other
    exact Words.getLong_setLong_of_ne word (Layout.bitmap_words_apart c (Ne.symm other))

theorem slotBit_setRecord (slot : UInt32) (r : Record) {s : Nat}
    (inside : s / 64 < (Layout.ofCapacity c).bitmapWords) :
    slotBit c (m.setRecord ((Layout.ofCapacity c).recordIndex slot) r) s = slotBit c m s := by
  rw [slotBit, bitmapWord_setRecord inside, slotBit]

theorem slotBit_set_allocated (c : UInt32) (m : Words) (n : UInt32) (s : Nat) :
    slotBit c (m.set Header.allocatedIndex n) s = slotBit c m s := by
  rw [slotBit, bitmapWord_set_allocated, slotBit]

theorem slotBit_setLong {word : UInt64} {b : Bool} (own : Bitmap.isSet word (bitOf slot) = b)
    (others : ∀ k, k < 64 → k ≠ bitOf slot →
      Bitmap.isSet word k = Bitmap.isSet (wordFor c m slot) k) (s : Nat) :
    slotBit c (m.setLong ((Layout.ofCapacity c).bitmapIndex (wordOf slot)) word) s =
      if s = slot.toNat then b else slotBit c m s := by
  rw [slotBit]
  by_cases word : s / 64 = wordOf slot
  · rw [word, Words.getLong_setLong_self]
    by_cases same : s = slot.toNat
    · rw [if_pos same, same]
      exact own
    · -- two slots of one word differ in their bits
      have apart : s % 64 ≠ bitOf slot := by
        rw [wordOf] at word
        rw [bitOf]
        omega
      rw [if_neg same, others _ (by omega) apart, slotBit, word, wordFor]
  · have other : s ≠ slot.toNat := by
      rintro rfl
      exact word rfl
    rw [if_neg other, slotBit,
      Words.getLong_setLong_of_ne _ (Layout.bitmap_words_apart c (Ne.symm word))]

theorem slotBit_setBit (c : UInt32) (m : Words) (slot : UInt32) (s : Nat) :
    slotBit c (m.setLong ((Layout.ofCapacity c).bitmapIndex (wordOf slot))
      (wordFor c m slot ||| Bitmap.bit (bitOf slot))) s =
        if s = slot.toNat then true else slotBit c m s := by
  have inWord : bitOf slot < 64 := Nat.mod_lt _ (by decide)
  refine slotBit_setLong ?_ (fun k _ apart => ?_) s
  · rw [Bitmap.isSet_or_bit _ inWord, decide_eq_true rfl, Bool.or_true]
  · rw [Bitmap.isSet_or_bit _ inWord, decide_eq_false (Ne.symm apart), Bool.or_false]

theorem slotBit_clearBit (c : UInt32) (m : Words) (slot : UInt32) (s : Nat) :
    slotBit c (m.setLong ((Layout.ofCapacity c).bitmapIndex (wordOf slot))
      (wordFor c m slot &&& ~~~ Bitmap.bit (bitOf slot))) s =
        if s = slot.toNat then false else slotBit c m s := by
  have inWord : bitOf slot < 64 := Nat.mod_lt _ (by decide)
  refine slotBit_setLong ?_ (fun k small apart => ?_) s
  · rw [Bitmap.isSet_and_not_bit _ inWord inWord, decide_eq_true rfl, Bool.not_true,
      Bool.and_false]
  · rw [Bitmap.isSet_and_not_bit _ inWord small, decide_eq_false (Ne.symm apart), Bool.not_false,
      Bool.and_true]

theorem slotBit_withMark (c : UInt32) (m : Words) (slot : UInt32) (s : Nat) :
    slotBit c (withMark c m slot) s = if s = slot.toNat then true else slotBit c m s := by
  rw [withMark, putWord, slotBit_set_allocated, slotBit_setBit]

theorem slotBit_withoutMark (c : UInt32) (m : Words) (slot : UInt32) (s : Nat) :
    slotBit c (withoutMark c m slot) s = if s = slot.toNat then false else slotBit c m s := by
  rw [withoutMark, putWord, slotBit_set_allocated, slotBit_clearBit]

end Table

end Interprocess
