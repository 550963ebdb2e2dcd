import Interprocess.Object.Record

/-!
# Layout of a table

Where the parts of a table lie in its region: a header of 32 bytes, a bitmap with a bit for each
slot in words of 64 bits, and from the next multiple of 64 on the records of the slots.
-/

namespace Interprocess

def headerSize : Nat := 32

def slotAlignment : Nat := 64

/-- The least multiple of `step` that is not below `n`. -/
def roundUp (step n : Nat) : Nat := (n + step - 1) / step * step

/-- Where the parts of a table lie, in bytes from the start of the region. -/
structure Layout where
  capacity : UInt32
  bitmapOffset : Nat
  bitmapWords : Nat
  slotsOffset : Nat
  totalSize : Nat
  deriving DecidableEq, Repr, Inhabited

namespace Layout

def ofCapacity (capacity : UInt32) : Layout :=
  let bitmapWords := (capacity.toNat + 63) / 64
  let slotsOffset := roundUp slotAlignment (headerSize + bitmapWords * 8)
  { capacity := capacity
    bitmapOffset := headerSize
    bitmapWords := bitmapWords
    slotsOffset := slotsOffset
    totalSize := slotsOffset + capacity.toNat * Record.size }

/-- The index of the 32-bit word at which a word of the bitmap begins. -/
def bitmapIndex (l : Layout) (index : Nat) : Nat := l.bitmapOffset / 4 + 2 * index

/-- The index of the 32-bit word at which the record of a slot begins. -/
def recordIndex (l : Layout) (slot : UInt32) : Nat :=
  l.slotsOffset / 4 + Record.words * slot.toNat

end Layout

end Interprocess
