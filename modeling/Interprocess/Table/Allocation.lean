import Interprocess.Table.Basic

/-!
# Handing out slots

Slots are handed out by setting their bits in the bitmap, and taken back by blanking their records
and clearing their bits. Both calls are made of steps that touch the shared memory once each, so
that many of them can run at the same time.
-/

namespace Interprocess

namespace Table

/-! ## Handing out -/

/-- Where a call that hands out a slot stands. -/
inductive AllocPhase where
  /-- About to look at a word of the bitmap. -/
  | look (index : Nat)
  /-- Saw `current` in a word of the bitmap: about to set the bit, the lowest that was clear. -/
  | claim (index : Nat) (current : UInt64) (bit : Nat)
  /-- Has the slot: about to count it. -/
  | count (slot : UInt32)
  deriving DecidableEq, Repr

/-- Where a call stands after it has seen a word of the bitmap: it tries the lowest clear bit, or
goes on to the next word if there is none. -/
def seen (t : Table) (index : Nat) (current : UInt64) : AllocPhase :=
  match Bitmap.lowestClear current (t.mask index) with
  | some bit => .claim index current bit
  | none => .look (index + 1)

end Table

namespace Accesses

/-- One step of a call that hands out a slot. An exchange in it may fail without a cause; `fails`
says that it does. -/
def allocStep (t : Table) (fails : Bool) :
    Table.AllocPhase → Accesses (Op.Progress Table.AllocPhase UInt32)
  | .look index => do
    if index < t.layout.bitmapWords then
      return .next (t.seen index (← read (.word t.layout index)))
    else fail (.tableFull t.layout.capacity)
  | .claim index current bit => do
    match ← exchangeWord t.layout index fails current (current ||| Bitmap.bit bit) with
    | none => return .next (.count (Table.slotAt index bit))
    | some actual => return .next (t.seen index actual)
  | .count slot => do
    addAllocated 1
    tell (.slotAllocated slot t.region.name)
    return .answer slot

def alloc (t : Table) : Accesses UInt32 :=
  drive (allocStep t false) (t.layout.bitmapWords + 3) (.look 0)

end Accesses

namespace Table

def allocStep (t : Table) (fails : Bool) (phase : AllocPhase) :
    Op Words (Op.Progress AllocPhase UInt32) :=
  (Accesses.allocStep t fails phase).perform

/-- Hands out the first slot that is free. Its record is blank. -/
def alloc (t : Table) : Op Words UInt32 := (Accesses.alloc t).perform

/-! ## Taking back -/

/-- Where a call that takes a slot back stands. -/
inductive FreePhase where
  /-- About to see whether the slot is handed out. -/
  | check
  /-- About to blank the record. -/
  | retire
  /-- Blanked an object of the kind: about to clear the bit. -/
  | clear (kind : Kind)
  /-- Cleared the bit: about to count the slot off. -/
  | count (kind : Kind)
  deriving DecidableEq, Repr

end Table

namespace Accesses

/-- One step of a call that takes a slot back. The record is blanked under its guard before the bit
goes, so a slot that is handed out again never carries an old object. -/
def freeStep (t : Table) (slot : UInt32) :
    Table.FreePhase → Accesses (Op.Progress Table.FreePhase Unit)
  | .check => do
    require t slot
    return .next .retire
  | .retire => do
    let kind ← onRecord t.layout slot (Record.retire t.policy)
    return .next (.clear kind)
  | .clear kind => do
    let previous ← maskWord t.layout (Table.wordOf slot) (~~~ Bitmap.bit (Table.bitOf slot))
    if Bitmap.isSet previous (Table.bitOf slot) then return .next (.count kind)
    else fail (.invalidSlot slot)
  | .count kind => do
    addAllocated (-1)
    tell (.slotFreed slot kind t.region.name)
    return .answer ()

def free (t : Table) (slot : UInt32) : Accesses Unit := drive (freeStep t slot) 4 .check

end Accesses

namespace Table

def freeStep (t : Table) (slot : UInt32) (phase : FreePhase) :
    Op Words (Op.Progress FreePhase Unit) :=
  (Accesses.freeStep t slot phase).perform

def free (t : Table) (slot : UInt32) : Op Words Unit := (Accesses.free t slot).perform

end Table

end Interprocess
