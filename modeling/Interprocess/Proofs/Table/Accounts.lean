import Interprocess.Proofs.Table.Operations

/-!
# Accounts of a table

Which slots are handed out is written in two places, the bitmap and the counter of the header, and
the records of all other slots are blank. A memory where these agree has its accounts in order
(`Accounts`), whatever the words of its guards are. It changes in three ways only: a record is
stored, a bit is set and counted, or a bit is cleared and counted off. Each of them keeps the
accounts on a condition of its own.
-/

namespace Interprocess

/-! ## The accounts -/

/-- The slots whose bits are set. -/
def handedOut (c : UInt32) (m : Words) : List Nat := (List.range c.toNat).filter (slotBit c m)

/-- The counter counts the bits that are set, they stand for slots of the table, and the records of
all other slots are blank. -/
structure Accounts (c : UInt32) (m : Words) : Prop where
  header : Header.load m = Header.ofTable c (UInt32.ofNat (handedOut c m).length)
  inside : ∀ slot, slot / 64 < (Layout.ofCapacity c).bitmapWords → slotBit c m slot = true →
    slot < c.toNat
  blank : ∀ slot : UInt32, slot < c → slotBit c m slot.toNat = false →
    (m.record ((Layout.ofCapacity c).recordIndex slot)).contents = .blank

namespace Accounts

variable {c : UInt32} {m : Words} {slot : UInt32}

theorem handedOut_setRecord (m : Words) (slot : UInt32) (r : Record) :
    handedOut c (m.setRecord ((Layout.ofCapacity c).recordIndex slot) r) = handedOut c m := by
  refine List.filter_congr fun s mem => Table.slotBit_setRecord slot r ?_
  exact Layout.word_lt (List.mem_range.mp mem)

theorem setRecord (h : Accounts c m) (slot : UInt32) {r : Record}
    (blank : slot < c → slotBit c m slot.toNat = false → r.contents = .blank) :
    Accounts c (m.setRecord ((Layout.ofCapacity c).recordIndex slot) r) := by
  refine ⟨?_, fun s inside set => ?_, fun s inside clear => ?_⟩
  · rw [handedOut_setRecord, Header.load_setRecord, h.header]
  · rw [Table.slotBit_setRecord slot r inside] at set
    exact h.inside s inside set
  · rw [Table.slotBit_setRecord slot r (Layout.wordOf_lt inside)] at clear
    by_cases own : s = slot
    · subst own
      rw [Words.record_setRecord_self]
      exact blank inside clear
    · rw [Table.record_setRecord_of_ne r own]
      exact h.blank s inside clear

theorem setRecord_of_set (h : Accounts c m) {slot : UInt32} (set : slotBit c m slot.toNat = true)
    (r : Record) : Accounts c (m.setRecord ((Layout.ofCapacity c).recordIndex slot) r) := by
  refine h.setRecord slot fun _ clear => ?_
  rw [set] at clear
  cases clear

/-- A bit is stored, and the counter with it; the record must be blank if the bit is cleared. -/
theorem put (h : Accounts c m) (inside : slot < c) {word : UInt64} {n : UInt32} {b : Bool}
    (bits : ∀ s, slotBit c (putWord c m slot word n) s =
      if s = slot.toNat then b else slotBit c m s)
    (blank : b = false → (m.record ((Layout.ofCapacity c).recordIndex slot)).contents = .blank)
    (counted : n = UInt32.ofNat (handedOut c (putWord c m slot word n)).length) :
    Accounts c (putWord c m slot word n) := by
  refine ⟨?_, fun s word set => ?_, fun s small clear => ?_⟩
  · rw [← counted, Header.load_putWord, h.header]
    rfl
  · rw [bits s] at set
    split at set
    · rename_i same
      rw [same]
      exact UInt32.lt_iff_toNat_lt.mp inside
    · exact h.inside s word set
  · rw [Table.record_putWord inside]
    rw [bits s.toNat] at clear
    split at clear
    · rename_i own
      rw [UInt32.toNat_inj.mp own]
      exact blank clear
    · exact h.blank s small clear

theorem counter_eq (h : Accounts c m) :
    m.get Header.allocatedIndex = UInt32.ofNat (handedOut c m).length :=
  congrArg Header.allocated h.header

theorem mark (h : Accounts c m) (inside : slot < c) (clear : slotBit c m slot.toNat = false) :
    Accounts c (withMark c m slot) ∧ slotBit c (withMark c m slot) slot.toNat = true := by
  have bits := Table.slotBit_withMark c m slot
  have own := (bits slot.toNat).trans (if_pos rfl)
  have more : (handedOut c (withMark c m slot)).length = (handedOut c m).length + 1 :=
    length_filter_succ List.nodup_range (List.mem_range.mpr (UInt32.lt_iff_toNat_lt.mp inside))
      clear own fun s apart => (bits s).trans (if_neg apart)
  refine ⟨h.put inside bits nofun ?_, own⟩
  show _ = UInt32.ofNat (handedOut c (withMark c m slot)).length
  rw [more, h.counter_eq, UInt32.ofNat_add]
  rfl

theorem unmark (h : Accounts c m) (inside : slot < c) (set : slotBit c m slot.toNat = true)
    (blank : (m.record ((Layout.ofCapacity c).recordIndex slot)).contents = .blank) :
    Accounts c (withoutMark c m slot) := by
  have bits := Table.slotBit_withoutMark c m slot
  have own := (bits slot.toNat).trans (if_pos rfl)
  have fewer : (handedOut c m).length = (handedOut c (withoutMark c m slot)).length + 1 :=
    length_filter_succ List.nodup_range (List.mem_range.mpr (UInt32.lt_iff_toNat_lt.mp inside))
      own set fun s apart => ((bits s).trans (if_neg apart)).symm
  refine h.put inside bits (fun _ => blank) ?_
  show _ = UInt32.ofNat (handedOut c (withoutMark c m slot)).length
  rw [h.counter_eq, fewer, UInt32.ofNat_add, UInt32.add_assoc]
  exact UInt32.add_zero _

end Accounts

namespace Table

theorem slotBit_layOut (c : UInt32) (m : Words) {s : Nat}
    (word : s / 64 < (Layout.ofCapacity c).bitmapWords) :
    slotBit c (layOut (Layout.ofCapacity c) m) s = false := by
  have low := Layout.header_before_bitmap c (s / 64)
  have high := Layout.bitmap_inside word
  rw [slotBit, Words.getLong, get_layOut c m (by omega) (by omega),
    get_layOut c m (by omega) (by omega)]
  simp [Bitmap.isSet]

theorem handedOut_layOut (c : UInt32) (m : Words) :
    handedOut c (layOut (Layout.ofCapacity c) m) = [] := by
  refine List.filter_eq_nil_iff.mpr fun s mem => ?_
  rw [slotBit_layOut c m (Layout.word_lt (List.mem_range.mp mem))]
  exact Bool.false_ne_true

theorem record_layOut (c : UInt32) (m : Words) {slot : UInt32} (inside : slot < c) :
    (layOut (Layout.ofCapacity c) m).record ((Layout.ofCapacity c).recordIndex slot) = .blank := by
  rw [(represents_layOut c m).records slot inside, ObjectMap.objectAt_of_not_holds]
  · rfl
  · simp [ObjectMap.holds, ObjectMap.lookup, ObjectMap.empty]

theorem accounts_layOut (c : UInt32) (m : Words) :
    Accounts c (layOut (Layout.ofCapacity c) m) := by
  refine ⟨?_, fun s word set => ?_, fun s inside _ => ?_⟩
  · rw [handedOut_layOut]
    exact load_layOut c m
  · rw [slotBit_layOut c m word] at set
    cases set
  · rw [record_layOut c m inside]
    rfl

end Table

end Interprocess
