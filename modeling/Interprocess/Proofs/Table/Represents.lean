import Interprocess.Proofs.Table.ObjectMap
import Interprocess.Proofs.Table.Stores

/-!
# Memories that represent maps

A memory represents a map from slots to objects if its header is the one of a table with as many
slots handed out, the bit of a slot is set just if the slot is handed out, and every record, handed
out or not, has a free guard and the words of the object in its slot.
-/

namespace Interprocess

/-- The header of a table with so many slots handed out. -/
def Header.ofTable (c allocated : UInt32) : Header :=
  { ((default : Header).prepare (Layout.ofCapacity c)).publish with allocated := allocated }

/-- A memory that stands for a map. -/
structure Represents {c : UInt32} (m : Words) (o : ObjectMap c) : Prop where
  header : Header.load m = Header.ofTable c (UInt32.ofNat o.slots.length)
  bits : ∀ slot, slot < c →
    Bitmap.isSet (m.getLong ((Layout.ofCapacity c).bitmapIndex (Table.wordOf slot)))
      (Table.bitOf slot) = o.holds slot
  records : ∀ slot, slot < c →
    m.record ((Layout.ofCapacity c).recordIndex slot) = ⟨0, .ofState (o.objectAt slot)⟩

/-! ## Headers -/

namespace Header

theorem load_storeMagic (m : Words) (magic : UInt64) :
    load (storeMagic magic m) = { load m with magic := magic } := by
  simp [load, storeMagic, allocatedIndex, Words.get_setLong_of_outside]

theorem load_storeFields (h : Header) (m : Words) :
    load (h.storeFields m) = { h with magic := m.getLong 0 } := by
  simp [load, storeFields, allocatedIndex, Words.store, Words.getLong, Words.get_set]

theorem validate_ofTable {c n : UInt32} {size : Nat}
    (fits : (Layout.ofCapacity c).totalSize ≤ size) :
    (ofTable c n).validate size = .ok (Layout.ofCapacity c) := by
  obtain ⟨bitmap, slots⟩ := Layout.offsets_fit c
  have room : ¬ size < (Layout.ofCapacity c).totalSize := by omega
  have words : (UInt32.ofNat Record.size).toNat = Record.size := rfl
  have capacity : (Layout.ofCapacity c).capacity = c := rfl
  simp only [validate, ofTable, prepare, publish, capacity, bitmap, slots, words, room, ne_eq,
    not_true_eq_false, or_self, if_false]

end Header

namespace Represents

variable {c : UInt32} {m : Words} {o o' : ObjectMap c} {slot : UInt32}

theorem setRecord (h : Represents m o) (slot : UInt32) (o' : ObjectMap c)
    (holds : ∀ s, o'.holds s = o.holds s) (others : ∀ s, s ≠ slot → o'.objectAt s = o.objectAt s) :
    Represents
      (m.setRecord ((Layout.ofCapacity c).recordIndex slot) ⟨0, .ofState (o'.objectAt slot)⟩)
      o' := by
  have slots : o'.slots = o.slots := List.filter_congr fun s _ => holds s
  refine ⟨?_, fun s hs => ?_, fun s hs => ?_⟩
  · rw [slots, Header.load_setRecord, h.header]
  · rw [holds, ← h.bits s hs]
    exact Table.slotBit_setRecord slot _ (Layout.wordOf_lt hs)
  · by_cases same : s = slot
    · rw [same, Words.record_setRecord_self]
    · rw [Table.record_setRecord_of_ne _ same, others s same, h.records s hs]

theorem keep (h : Represents m o) (slot : UInt32) :
    Represents
      (m.setRecord ((Layout.ofCapacity c).recordIndex slot) ⟨0, .ofState (o.objectAt slot)⟩) o :=
  h.setRecord slot o (fun _ => rfl) (fun _ _ => rfl)

theorem put (h : Represents m o) (held : o.holds slot = true) (object : ObjectState) :
    Represents (m.setRecord ((Layout.ofCapacity c).recordIndex slot) ⟨0, .ofState object⟩)
      (o.put slot (some object)) := by
  have inside := ObjectMap.lt_of_holds held
  have own : (o.put slot (some object)).objectAt slot = object := by
    rw [ObjectMap.objectAt_put_self inside, Option.getD_some]
  have next := h.setRecord slot (o.put slot (some object)) (fun other => ?_)
    (fun other apart => ObjectMap.objectAt_put_of_ne apart _)
  · rwa [own] at next
  · by_cases same : other = slot
    · rw [same, held, ObjectMap.holds_put_self inside, Option.isSome_some]
    · exact ObjectMap.holds_put_of_ne same _

theorem setBit (h : Represents m o) (inside : slot < c) {word : UInt64} {n : UInt32}
    (bits : ∀ s, slotBit c (putWord c m slot word n) s =
      if s = slot.toNat then o'.holds slot else slotBit c m s)
    (counted : n = UInt32.ofNat o'.slots.length)
    (others : ∀ s, s ≠ slot → o'.holds s = o.holds s)
    (objects : ∀ s, o'.objectAt s = o.objectAt s) :
    Represents (putWord c m slot word n) o' := by
  refine ⟨?_, fun s hs => (bits s.toNat).trans ?_, fun s hs => ?_⟩
  · rw [Header.load_putWord, h.header, counted]
    rfl
  · by_cases same : s = slot
    · rw [same, if_pos rfl]
    · have apart : s.toNat ≠ slot.toNat := fun e => same (UInt32.toNat_inj.mp e)
      rw [if_neg apart, others s same]
      exact h.bits s hs
  · rw [Table.record_putWord inside, objects, h.records s hs]

end Represents

/-! ## A table that is laid out -/

namespace Table

variable {c : UInt32}

theorem get_layOut (c : UInt32) (m : Words) {i : Nat} (low : 8 ≤ i)
    (high : i < (Layout.ofCapacity c).totalSize / 4) :
    (layOut (Layout.ofCapacity c) m).get i = 0 := by
  have start : (Layout.ofCapacity c).bitmapOffset / 4 = 8 := by
    simp [Layout.ofCapacity, headerSize]
  simp only [layOut, Header.storeMagic, Header.storeFields, start]
  rw [Words.get_setLong_of_outside _ (by omega),
    Words.get_store_of_outside _ (.inr (by simpa using low)), Words.get_clear, if_pos ⟨low, high⟩]

theorem load_layOut (c : UInt32) (m : Words) :
    Header.load (layOut (Layout.ofCapacity c) m) = Header.ofTable c 0 := by
  rw [layOut, Header.load_storeMagic, Header.load_storeFields]
  rfl

theorem represents_layOut (c : UInt32) (m : Words) :
    Represents (layOut (Layout.ofCapacity c) m) (.empty : ObjectMap c) := by
  have holds : ∀ slot, (ObjectMap.empty : ObjectMap c).lookup slot = none := fun slot => by
    simp [ObjectMap.lookup, ObjectMap.empty]
  have none : (ObjectMap.empty : ObjectMap c).slots = [] := by
    simp [ObjectMap.slots, ObjectMap.holds, holds]
  refine ⟨?_, fun slot inside => ?_, fun slot inside => ?_⟩
  · rw [load_layOut, none]
    rfl
  · have low := Layout.header_before_bitmap c (wordOf slot)
    have high := Layout.bitmap_inside (Layout.wordOf_lt inside)
    rw [Words.getLong, get_layOut c m (by omega) (by omega), get_layOut c m (by omega) (by omega)]
    simp [Bitmap.isSet, ObjectMap.holds, holds]
  · have low := Layout.header_before_records c slot
    have high := Layout.record_inside inside
    simp only [Words.record]
    rw [get_layOut c m (by omega) (by omega), get_layOut c m (by omega) (by omega),
      get_layOut c m (by omega) (by omega), get_layOut c m (by omega) (by omega),
      get_layOut c m (by omega) (by omega), ObjectMap.objectAt, holds]
    rfl

end Table

end Interprocess
