import Interprocess.Proofs.Memory.Bytes
import Interprocess.Proofs.Table.Layout
import Interprocess.Table.Part

/-!
# Where the parts of a region lie

What a part loads depends on its own words only, and what it stores shows nothing of what stood
there before (`Part.load_congr`, `Part.get_store_inside`, `Part.get_store_outside`).
-/

namespace Interprocess

theorem Header.Field.index_bounds (f : Header.Field) : 2 ≤ f.index ∧ f.index < 8 := by
  cases f <;> decide

theorem Header.Field.index_injective {f f' : Header.Field} (same : f.index = f'.index) :
    f = f' := by
  cases f <;> cases f' <;> first | rfl | cases same

namespace Part

def first : Part → Nat
  | magic => 0
  | field f => f.index
  | word l index => l.bitmapIndex index
  | record l slot => l.recordIndex slot
  | body l => l.bitmapOffset / 4

def past : Part → Nat
  | magic => 2
  | field f => f.index + 1
  | word l index => l.bitmapIndex index + 2
  | record l slot => l.recordIndex slot + Record.words
  | body l => l.totalSize / 4

def start (p : Part) : Nat := 4 * p.first

def stop (p : Part) : Nat := 4 * p.past

variable {p : Part} {m m' : Words} {n j : Nat}

theorem load_congr (same : ∀ j, p.first ≤ j → j < p.past → m.get j = m'.get j) :
    p.load m = p.load m' := by
  cases p with
  | magic =>
    have low := same 0 (by decide) (by decide)
    have high := same 1 (by decide) (by decide)
    exact Words.getLong_congr low high
  | field f => exact same f.index (Nat.le_refl _) (Nat.lt_succ_self _)
  | word l index =>
    have low := same (l.bitmapIndex index) (Nat.le_refl _) (Nat.lt_add_of_pos_right (by decide))
    have high := same (l.bitmapIndex index + 1) (Nat.le_succ _) (Nat.lt_succ_self _)
    exact Words.getLong_congr low high
  | record l slot => exact Words.record_congr same
  | body l => rfl

theorem get_store_outside (c : p.Content) (outside : j < p.first ∨ p.past ≤ j) :
    (p.store c m).get j = m.get j := by
  cases p with
  | magic => exact Words.get_setLong_of_outside c outside
  | field f =>
    simp only [first, past] at outside
    exact (Words.get_set ..).trans (if_neg (by omega))
  | word l index => exact Words.get_setLong_of_outside c outside
  | record l slot => exact Words.get_setRecord_of_outside c outside
  | body l =>
    simp only [first, past] at outside
    exact (Words.get_clear ..).trans (if_neg (by omega))

theorem get_setLong_inside (index : Nat) (w : UInt64) (low : index ≤ j) (high : j < index + 2) :
    (m.setLong index w).get j = (m'.setLong index w).get j := by
  simp only [Words.setLong, Words.get_set]
  by_cases second : index + 1 = j
  · rw [if_pos second, if_pos second]
  · have start : index = j := by omega
    rw [if_neg second, if_neg second, if_pos start, if_pos start]

theorem get_store_inside (c : p.Content) (low : p.first ≤ j) (high : j < p.past) :
    (p.store c m).get j = (p.store c m').get j := by
  cases p with
  | magic => exact get_setLong_inside 0 c low high
  | field f =>
    have same : f.index = j := by
      simp only [first, past] at low high
      omega
    exact (Words.get_set ..).trans ((if_pos same).trans
      ((Words.get_set ..).trans (if_pos same)).symm)
  | word l index => exact get_setLong_inside _ c low high
  | record l slot =>
    have same := (Words.record_setRecord_self m (l.recordIndex slot) c).trans
      (Words.record_setRecord_self m' (l.recordIndex slot) c).symm
    exact Words.get_congr_of_record same low high
  | body l =>
    have inside : l.bitmapOffset / 4 ≤ j ∧ j < l.totalSize / 4 := ⟨low, high⟩
    exact (Words.get_clear ..).trans ((if_pos inside).trans
      ((Words.get_clear ..).trans (if_pos inside)).symm)

end Part

theorem Layout.headerSize_le_totalSize (c : UInt32) : headerSize ≤ (ofCapacity c).totalSize := by
  have after := (slotsOffset_ofCapacity c).1
  have total : (ofCapacity c).totalSize = (ofCapacity c).slotsOffset + c.toNat * Record.size := rfl
  rw [headerSize]
  omega

/-! ## Parts of a table -/

namespace Part

/-- The parts that a table with the layout has. -/
inductive Of (l : Layout) : Part → Prop where
  | magic : Of l .magic
  | field (f : Header.Field) : Of l (.field f)
  | word {index : Nat} (inside : index < l.bitmapWords) : Of l (.word l index)
  | record {slot : UInt32} (inside : slot < l.capacity) : Of l (.record l slot)

/-- The parts that a handle with the layout reads and writes once it is there. -/
inductive Served (l : Layout) : Part → Prop where
  | counter : Served l (.field .allocated)
  | word {index : Nat} (inside : index < l.bitmapWords) : Served l (.word l index)
  | record {slot : UInt32} (inside : slot < l.capacity) : Served l (.record l slot)

/-- What an address of a part is a multiple of. -/
def alignment : Part → Nat
  | magic => 8
  | word .. => 8
  | _ => 4

def Apart (p p' : Part) : Prop := p.stop ≤ p'.start ∨ p'.stop ≤ p.start

/-- The index of a word is one of the bitmap, and the slot of a record is one of the table. -/
def InRange : Part → Prop
  | word l index => index < l.bitmapWords
  | record l slot => slot < l.capacity
  | _ => True

/-- A part in range that ends inside a region of the size. -/
def Within (size : Nat) (p : Part) : Prop := p.InRange ∧ p.stop ≤ size

inductive InHeader : Part → Prop where
  | magic : InHeader .magic
  | field (f : Header.Field) : InHeader (.field f)

variable {c : UInt32} {p p' : Part} {size : Nat}

theorem Served.of {l : Layout} (served : p.Served l) : p.Of l := by
  cases served with
  | counter => exact .field _
  | word inside => exact .word inside
  | record inside => exact .record inside

theorem Of.inRange {l : Layout} (h : p.Of l) : p.InRange := by
  cases h with
  | magic | field => trivial
  | word inside => exact inside
  | record inside => exact inside

theorem InHeader.stop_le (h : p.InHeader) : p.stop ≤ headerSize := by
  cases h with
  | magic => decide
  | field f =>
    have bounds := f.index_bounds
    simp only [stop, past, headerSize]
    omega

theorem InHeader.inRange (h : p.InHeader) : p.InRange := by
  cases h <;> trivial

theorem Of.stop_le (h : p.Of (Layout.ofCapacity c)) :
    p.stop ≤ (Layout.ofCapacity c).totalSize := by
  have header := Layout.headerSize_le_totalSize c
  cases h with
  | magic => exact Nat.le_trans InHeader.magic.stop_le header
  | field f => exact Nat.le_trans (InHeader.field f).stop_le header
  | word inside =>
    have last := Layout.bitmap_inside inside
    simp only [stop, past]
    omega
  | @record slot inside =>
    have last := Layout.record_inside (show slot < c from inside)
    simp only [stop, past, Record.words]
    omega

theorem Of.aligned (h : p.Of (Layout.ofCapacity c)) {base : Nat} (page : 4096 ∣ base) :
    p.alignment ∣ base + p.start := by
  cases h with
  | magic =>
    simp only [alignment, start, first]
    omega
  | field f =>
    simp only [alignment, start, first]
    omega
  | word inside =>
    simp only [alignment, start, first, Layout.bitmapIndex_ofCapacity]
    omega
  | record inside =>
    simp only [alignment, start, first]
    omega

/-! ## Parts lie apart -/

theorem Apart.symm (h : p.Apart p') : p'.Apart p := Or.symm h

theorem InHeader.apart (h : p.InHeader) (h' : p'.InHeader) (different : p ≠ p') : p.Apart p' := by
  simp only [Apart, stop, past, start]
  cases h with
  | magic =>
    cases h' with
    | magic => exact absurd rfl different
    | field f =>
      have bounds := f.index_bounds
      simp only [first]
      omega
  | field f =>
    have bounds := f.index_bounds
    cases h' with
    | magic =>
      simp only [first]
      omega
    | field f' =>
      have apart : f.index ≠ f'.index := fun same =>
        different (congrArg Part.field (Header.Field.index_injective same))
      simp only [first]
      omega

theorem word_after_header (c : UInt32) (index : Nat) :
    headerSize ≤ (word (Layout.ofCapacity c) index).start := by
  have after := Layout.header_before_bitmap c index
  simp only [start, first, headerSize]
  omega

theorem record_after_header (c : UInt32) (slot : UInt32) :
    headerSize ≤ (record (Layout.ofCapacity c) slot).start := by
  have after := Layout.header_before_records c slot
  simp only [start, first, headerSize]
  omega

theorem word_before_record {index : Nat} (inside : index < (Layout.ofCapacity c).bitmapWords)
    (slot : UInt32) :
    (word (Layout.ofCapacity c) index).stop ≤ (record (Layout.ofCapacity c) slot).start := by
  have before := Layout.bitmap_before_records inside slot
  simp only [stop, past, start, first]
  omega

theorem words_apart (c : UInt32) {index index' : Nat} (different : index ≠ index') :
    (word (Layout.ofCapacity c) index).Apart (word (Layout.ofCapacity c) index') := by
  have apart := Layout.bitmap_words_apart c different
  simp only [Apart, stop, past, start, first]
  omega

theorem records_apart (c : UInt32) {slot slot' : UInt32} (different : slot ≠ slot') :
    (record (Layout.ofCapacity c) slot).Apart (record (Layout.ofCapacity c) slot') := by
  have apart := Layout.records_apart c different
  simp only [Apart, stop, past, start, first, Record.words]
  omega

theorem InHeader.apart_of (h : p.InHeader) (h' : p'.Of (Layout.ofCapacity c))
    (different : p ≠ p') : p.Apart p' := by
  cases h' with
  | magic => exact h.apart .magic different
  | field f => exact h.apart (.field f) different
  | word => exact .inl (Nat.le_trans h.stop_le (word_after_header c _))
  | record => exact .inl (Nat.le_trans h.stop_le (record_after_header c _))

theorem Of.apart (h : p.Of (Layout.ofCapacity c)) (h' : p'.Of (Layout.ofCapacity c))
    (different : p ≠ p') : p.Apart p' := by
  cases h with
  | magic => exact InHeader.magic.apart_of h' different
  | field f => exact (InHeader.field f).apart_of h' different
  | word inside =>
    cases h' with
    | magic => exact (InHeader.magic.apart_of (.word inside) different.symm).symm
    | field f => exact ((InHeader.field f).apart_of (.word inside) different.symm).symm
    | word => exact words_apart c fun same => different (congrArg _ same)
    | record => exact .inl (word_before_record inside _)
  | record inside =>
    cases h' with
    | magic => exact (InHeader.magic.apart_of (.record inside) different.symm).symm
    | field f => exact ((InHeader.field f).apart_of (.record inside) different.symm).symm
    | word inside' => exact .inr (word_before_record inside' _)
    | record => exact records_apart c fun same => different (congrArg _ same)

end Part

/-! ## Two memories -/

namespace Words.SameBelow

variable {p : Part} {m m' : Words} {n : Nat}

theorem load (same : SameBelow n m m') (within : p.stop ≤ n) : p.load m = p.load m' := by
  apply Part.load_congr
  intro j _ high
  apply same.get
  rw [Part.stop] at within
  omega

theorem store (same : SameBelow n m m') (c : p.Content) :
    SameBelow n (p.store c m) (p.store c m') := by
  intro i below
  by_cases inside : p.first ≤ i / 4 ∧ i / 4 < p.past
  · exact byte_congr (Part.get_store_inside c inside.1 inside.2)
  · have outside : i / 4 < p.first ∨ p.past ≤ i / 4 := by omega
    calc (p.store c m).byte i = m.byte i := byte_congr (Part.get_store_outside c outside)
      _ = m'.byte i := same i below
      _ = (p.store c m').byte i := (byte_congr (Part.get_store_outside c outside)).symm

end Words.SameBelow

end Interprocess
