import Interprocess.Table.Basic

/-!
# Parts of a table lie apart

The header, the words of the bitmap and the records of a table do not overlap, and all of them lie
in the part of the region that belongs to the table. Indices count words of 32 bits.
-/

namespace Interprocess

namespace Layout

variable {c : UInt32} {index : Nat} {slot slot' : UInt32}

theorem bitmapIndex_ofCapacity (c : UInt32) (index : Nat) :
    (ofCapacity c).bitmapIndex index = 8 + 2 * index := by
  simp [bitmapIndex, ofCapacity, headerSize]

theorem recordIndex_ofCapacity (c slot : UInt32) :
    (ofCapacity c).recordIndex slot = (ofCapacity c).slotsOffset / 4 + 5 * slot.toNat := rfl

theorem bitmapWords_ofCapacity (c : UInt32) :
    (ofCapacity c).bitmapWords = (c.toNat + 63) / 64 := rfl

theorem bitmapWords_pos (h : 0 < c) : 0 < (ofCapacity c).bitmapWords := by
  rw [UInt32.lt_iff_toNat_lt] at h
  rw [bitmapWords_ofCapacity]
  omega

theorem slotsOffset_ofCapacity (c : UInt32) :
    32 + 8 * (ofCapacity c).bitmapWords ≤ (ofCapacity c).slotsOffset ∧
      (ofCapacity c).slotsOffset % 4 = 0 := by
  simp only [ofCapacity, roundUp, slotAlignment, headerSize]
  omega

theorem totalSize_ofCapacity (c : UInt32) :
    (ofCapacity c).totalSize / 4 = (ofCapacity c).slotsOffset / 4 + 5 * c.toNat := by
  have aligned := (slotsOffset_ofCapacity c).2
  have total : (ofCapacity c).totalSize = (ofCapacity c).slotsOffset + c.toNat * 20 := rfl
  omega

theorem word_lt {slot : Nat} (h : slot < c.toNat) : slot / 64 < (ofCapacity c).bitmapWords := by
  rw [bitmapWords_ofCapacity]
  omega

theorem wordOf_lt (h : slot < c) : Table.wordOf slot < (ofCapacity c).bitmapWords :=
  word_lt (UInt32.lt_iff_toNat_lt.mp h)

theorem header_before_bitmap (c : UInt32) (index : Nat) : 8 ≤ (ofCapacity c).bitmapIndex index := by
  rw [bitmapIndex_ofCapacity]
  omega

theorem bitmap_before_records (h : index < (ofCapacity c).bitmapWords) (slot : UInt32) :
    (ofCapacity c).bitmapIndex index + 2 ≤ (ofCapacity c).recordIndex slot := by
  have after := (slotsOffset_ofCapacity c).1
  rw [bitmapIndex_ofCapacity, recordIndex_ofCapacity]
  omega

theorem header_before_records (c slot : UInt32) : 8 ≤ (ofCapacity c).recordIndex slot := by
  have after := (slotsOffset_ofCapacity c).1
  rw [recordIndex_ofCapacity]
  omega

theorem bitmap_words_apart (c : UInt32) {index' : Nat} (h : index ≠ index') :
    (ofCapacity c).bitmapIndex index + 2 ≤ (ofCapacity c).bitmapIndex index' ∨
      (ofCapacity c).bitmapIndex index' + 2 ≤ (ofCapacity c).bitmapIndex index := by
  rw [bitmapIndex_ofCapacity, bitmapIndex_ofCapacity]
  omega

theorem records_apart (c : UInt32) (h : slot ≠ slot') :
    (ofCapacity c).recordIndex slot + 5 ≤ (ofCapacity c).recordIndex slot' ∨
      (ofCapacity c).recordIndex slot' + 5 ≤ (ofCapacity c).recordIndex slot := by
  have apart : slot.toNat ≠ slot'.toNat := fun same => h (UInt32.toNat_inj.mp same)
  rw [recordIndex_ofCapacity, recordIndex_ofCapacity]
  omega

theorem record_inside (h : slot < c) :
    (ofCapacity c).recordIndex slot + 5 ≤ (ofCapacity c).totalSize / 4 := by
  rw [UInt32.lt_iff_toNat_lt] at h
  rw [totalSize_ofCapacity, recordIndex_ofCapacity]
  omega

theorem bitmap_inside (h : index < (ofCapacity c).bitmapWords) :
    (ofCapacity c).bitmapIndex index + 2 ≤ (ofCapacity c).totalSize / 4 := by
  have after := (slotsOffset_ofCapacity c).1
  rw [totalSize_ofCapacity, bitmapIndex_ofCapacity]
  omega

/-- The largest table takes less than 2^37 bytes. -/
theorem totalSize_lt (c : UInt32) : (ofCapacity c).totalSize < Nat.pow 2 37 := by
  have bounded := c.toNat_lt
  show _ < 137438953472
  simp only [ofCapacity, roundUp, slotAlignment, headerSize, Record.size]
  omega

theorem offsets_fit (c : UInt32) :
    (UInt32.ofNat (ofCapacity c).bitmapOffset).toNat = (ofCapacity c).bitmapOffset ∧
      (UInt32.ofNat (ofCapacity c).slotsOffset).toNat = (ofCapacity c).slotsOffset := by
  have bounded := c.toNat_lt
  refine ⟨rfl, ?_⟩
  simp only [ofCapacity, roundUp, slotAlignment, headerSize, UInt32.toNat_ofNat']
  exact Nat.mod_eq_of_lt (by omega)

end Layout

end Interprocess
