import Interprocess.Region.Mapping
import Interprocess.Table.Accesses
import Interprocess.Table.Bitmap
import Interprocess.Table.Occupancy

/-!
# Tables

A table of records in one region. Whoever makes the table lays it out; whoever attaches to it reads
the layout from the header. A table is a handle: what the slots hold is in the memory of the region,
and is shared with every other handle.
-/

namespace Interprocess

/-! ## Settings -/

/-- How many slots a table has, and how its guards are waited for. -/
structure TableSettings where
  capacity : UInt32
  guard : GuardPolicy

namespace TableSettings

def defaultCapacity : UInt32 := 4096

def layout (c : TableSettings) : Layout := Layout.ofCapacity c.capacity

def regionSize (c : TableSettings) : Nat := c.layout.totalSize

/-- Refuses a table without slots, and then a policy that cannot be followed. -/
def validate (c : TableSettings) : Except SyncError Unit :=
  if c.capacity = 0 then
    .error (.invalidParameter "capacity" "Table capacity must be greater than 0")
  else c.guard.validate

end TableSettings

/-! ## Handles -/

/-- A handle on a table: the region that it lies in, where its parts lie, and how its guards are
waited for. -/
structure Table where
  region : Region
  layout : Layout
  policy : GuardPolicy

/-- A region that a table of the settings does not fit into. -/
def Table.tooSmall (region : Region) (settings : TableSettings) : SyncError :=
  .invalidParameter "capacity"
    (toString settings.capacity.toNat ++ " slots need " ++ toString settings.regionSize ++
      " bytes, region " ++ region.name ++ " has " ++ toString region.size)

namespace Accesses

/-- Writes a header and wipes all behind it. Whatever was there is lost; the magic number is away
until all else is in place. -/
def layOut (l : Layout) : Accesses Unit := do
  let h := (default : Header).prepare l
  write .magic 0
  write (.body l) ()
  write (.field .version) h.version
  write (.field .capacity) h.capacity
  write (.field .recordSize) h.recordSize
  write (.field .allocated) h.allocated
  write (.field .bitmapOffset) h.bitmapOffset
  write (.field .slotsOffset) h.slotsOffset
  write .magic tableMagic

def create (region : Region) (settings : TableSettings) : Accesses Table := do
  ofExcept settings.validate
  if region.size < settings.regionSize then fail (Table.tooSmall region settings)
  else
    layOut settings.layout
    tell (.tableCreated region.name settings.capacity)
    return ⟨region, settings.layout, settings.guard⟩

/-- The layout that a header tells. The fields are read one after another, and none is read after
one that is wrong; those that are not read do not count. -/
def inspect (size : Nat) : Accesses Layout := do
  let magic ← read .magic
  if magic ≠ tableMagic then ofExcept (Header.validate ⟨magic, 0, 0, 0, 0, 0, 0⟩ size) else
  let version ← read (.field .version)
  if version ≠ tableVersion then
    ofExcept (Header.validate ⟨magic, version, 0, 0, 0, 0, 0⟩ size) else
  let recordSize ← read (.field .recordSize)
  if recordSize.toNat ≠ Record.size then
    ofExcept (Header.validate ⟨magic, version, 0, recordSize, 0, 0, 0⟩ size) else
  let capacity ← read (.field .capacity)
  let bitmapOffset ← read (.field .bitmapOffset)
  if (Layout.ofCapacity capacity).bitmapOffset ≠ bitmapOffset.toNat then
    ofExcept (Header.validate ⟨magic, version, capacity, recordSize, 0, bitmapOffset, 0⟩ size) else
  let slotsOffset ← read (.field .slotsOffset)
  ofExcept (Header.validate
    ⟨magic, version, capacity, recordSize, 0, bitmapOffset, slotsOffset⟩ size)

def attach (region : Region) (p : GuardPolicy) : Accesses Table := do
  ofExcept p.validate
  let layout ← inspect region.size
  tell (.tableAttached region.name layout.capacity)
  return ⟨region, layout, p⟩

end Accesses

namespace Table

/-- Lays out an empty table in a region. -/
def create (region : Region) (settings : TableSettings) : Op Words Table :=
  (Accesses.create region settings).perform

/-- Attaches to the table that a region holds. -/
def attach (region : Region) (policy : GuardPolicy) : Op Words Table :=
  (Accesses.attach region policy).perform

/-! ## Parts -/

def capacity (t : Table) : Nat := t.layout.capacity.toNat

/-- The bits of a word of the bitmap that stand for slots. -/
def mask (t : Table) (index : Nat) : UInt64 := Bitmap.mask t.capacity index

def wordOf (slot : UInt32) : Nat := slot.toNat / 64

def bitOf (slot : UInt32) : Nat := slot.toNat % 64

/-- The slot that a bit in a word of the bitmap stands for. -/
def slotAt (index bit : Nat) : UInt32 := UInt32.ofNat (index * 64 + bit)

/-- The slots that a word of the bitmap hands out, in ascending order. -/
def slotsOfWord (t : Table) (index : Nat) (word : UInt64) : List UInt32 :=
  (Bitmap.setBits (word &&& t.mask index)).map (slotAt index)

end Table

/-! ## Slots that are handed out -/

namespace Accesses

variable {α : Type} (t : Table)

def kindAt (slot : UInt32) : Accesses Kind := onRecord t.layout slot Record.kind

/-- A slot that is out of range is not looked at. -/
def isAllocated (slot : UInt32) : Accesses Bool := do
  if slot < t.layout.capacity then
    let word ← read (.word t.layout (Table.wordOf slot))
    return Bitmap.isSet word (Table.bitOf slot)
  else return false

def require (slot : UInt32) : Accesses Unit := do
  if ← isAllocated t slot then pure () else fail (.invalidSlot slot)

/-- The slots that some words of the bitmap hand out. -/
def collect : List Nat → Accesses (List UInt32)
  | [] => return []
  | index :: rest => do
    let word ← read (.word t.layout index)
    return t.slotsOfWord index word ++ (← collect rest)

def allocatedSlots : Accesses (List UInt32) := collect t (List.range t.layout.bitmapWords)

/-- Counts the objects in some slots. -/
def tally : List UInt32 → Occupancy → Accesses Occupancy
  | [], stats => return stats
  | slot :: rest, stats => do
    let r ← read (.record t.layout slot)
    tally rest (stats.record r.contents.kind)

def stats : Accesses Occupancy := do
  tally t (← allocatedSlots t) (Occupancy.empty t.layout.capacity)

def description : Accesses String := do
  let allocated ← read (.field .allocated)
  return "ObjectTable \x7b region: " ++ quoted t.region.name ++ ", capacity: " ++
    toString t.capacity ++ ", allocated: " ++ toString allocated.toNat ++ " \x7d"

end Accesses

namespace Table

variable {α : Type}

def onRecord (t : Table) (slot : UInt32) (op : Op Record α) : Op Words α :=
  (Accesses.onRecord t.layout slot op).perform

def kindAt (t : Table) (slot : UInt32) : Op Words Kind := (Accesses.kindAt t slot).perform

def isAllocated (t : Table) (slot : UInt32) : Op Words Bool := (Accesses.isAllocated t slot).perform

/-- Refuses a slot that is not handed out. -/
def require (t : Table) (slot : UInt32) : Op Words Unit := (Accesses.require t slot).perform

def allocatedSlots (t : Table) : Op Words (List UInt32) := (Accesses.allocatedSlots t).perform

def stats (t : Table) : Op Words Occupancy := (Accesses.stats t).perform

def description (t : Table) : Op Words String := (Accesses.description t).perform

end Table

end Interprocess
