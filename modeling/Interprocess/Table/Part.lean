import Interprocess.Table.Header

/-!
# Parts of a region

What a table reads or writes at once: a field of the header, a word of the bitmap, a record, or all
that lies behind the header when it is wiped.
-/

namespace Interprocess

/-- A field of a header that is one word of 32 bits. -/
inductive Header.Field where
  | version
  | capacity
  | recordSize
  | allocated
  | bitmapOffset
  | slotsOffset
  deriving DecidableEq, Repr

/-- The index of the word that a field is. -/
def Header.Field.index : Header.Field → Nat
  | version => 2
  | capacity => 3
  | recordSize => 4
  | allocated => Header.allocatedIndex
  | bitmapOffset => 6
  | slotsOffset => 7

/-- What is read or written at once. -/
inductive Part where
  /-- The magic number of the header. -/
  | magic
  | field (f : Header.Field)
  /-- A word of the bitmap of a table with the layout. -/
  | word (l : Layout) (index : Nat)
  | record (l : Layout) (slot : UInt32)
  /-- All that a table with the layout has behind its header. -/
  | body (l : Layout)
  deriving DecidableEq

namespace Part

/-- What a part holds. The body of a table is only ever wiped. -/
@[reducible]
def Content : Part → Type
  | magic => UInt64
  | field _ => UInt32
  | word .. => UInt64
  | record .. => Record
  | body _ => Unit

def load : (p : Part) → Words → p.Content
  | magic, m => m.getLong 0
  | field f, m => m.get f.index
  | word l index, m => m.getLong (l.bitmapIndex index)
  | record l slot, m => m.record (l.recordIndex slot)
  | body _, _ => ()

def store : (p : Part) → p.Content → Words → Words
  | magic, number, m => Header.storeMagic number m
  | field f, w, m => m.set f.index w
  | word l index, w, m => m.setLong (l.bitmapIndex index) w
  | record l slot, r, m => m.setRecord (l.recordIndex slot) r
  | body l, _, m => m.clear (l.bitmapOffset / 4) (l.totalSize / 4)

end Part

end Interprocess
