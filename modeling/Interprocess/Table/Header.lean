import Interprocess.Memory.Words
import Interprocess.Table.Layout

/-!
# Header of a table

The first 32 bytes of a table say that it is one and how it lies in the region. The magic number is
written last, so a header that is not complete is not taken for one.
-/

namespace Interprocess

def tableMagic : UInt64 := 0x53484D53594E4301

def tableVersion : UInt32 := 1

/-- The fields of a header. -/
structure Header where
  magic : UInt64
  version : UInt32
  capacity : UInt32
  recordSize : UInt32
  allocated : UInt32
  bitmapOffset : UInt32
  slotsOffset : UInt32
  deriving DecidableEq, Repr, Inhabited

namespace Header

/-- Fills in every field but the magic number. -/
def prepare (h : Header) (l : Layout) : Header :=
  { h with
    version := tableVersion
    capacity := l.capacity
    recordSize := UInt32.ofNat Record.size
    allocated := 0
    bitmapOffset := UInt32.ofNat l.bitmapOffset
    slotsOffset := UInt32.ofNat l.slotsOffset }

def publish (h : Header) : Header := { h with magic := tableMagic }

/-- The layout of the table that a header begins, if the header is a table's and the table fits into
a region of the size. -/
def validate (h : Header) (regionSize : Nat) : Except SyncError Layout :=
  if h.magic ≠ tableMagic then
    .error (.invalidLayout ("Bad table magic " ++ hex h.magic.toNat))
  else if h.version ≠ tableVersion then
    .error (.invalidLayout ("Unsupported table version " ++ toString h.version.toNat))
  else if h.recordSize.toNat ≠ Record.size then
    .error (.invalidLayout ("Record size " ++ toString h.recordSize.toNat ++ " does not match " ++
      toString Record.size))
  else
    let layout := Layout.ofCapacity h.capacity
    if layout.bitmapOffset ≠ h.bitmapOffset.toNat ∨ layout.slotsOffset ≠ h.slotsOffset.toNat then
      .error (.invalidLayout "Section offsets do not match capacity")
    else if regionSize < layout.totalSize then
      .error (.invalidLayout ("Table needs " ++ toString layout.totalSize ++
        " bytes, region has " ++ toString regionSize))
    else .ok layout

/-! ## The header in memory -/

def allocatedIndex : Nat := 5

/-- The header at the start of a memory. -/
def load (m : Words) : Header where
  magic := m.getLong 0
  version := m.get 2
  capacity := m.get 3
  recordSize := m.get 4
  allocated := m.get allocatedIndex
  bitmapOffset := m.get 6
  slotsOffset := m.get 7

def storeMagic (magic : UInt64) (m : Words) : Words := m.setLong 0 magic

end Header

end Interprocess
