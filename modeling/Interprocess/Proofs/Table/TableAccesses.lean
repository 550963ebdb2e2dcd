import Interprocess.Proofs.Table.Accesses
import Interprocess.Table.Objects
import Interprocess.Table.Sweep

/-!
# What operations on tables are made of

What the slots of a table hold is a function of the memory (`Table.holds`, `Table.slots`), and so is
an empty table (`Table.layOut`). The operations of a handle, each given by its tree of accesses, read
those functions, and an operation that is made of others performs them one after another.
-/

namespace Interprocess

/-! ## What a memory says of a table -/

/-- The memory with every field of the header but the magic number. -/
def Header.storeFields (h : Header) (m : Words) : Words :=
  m.store 2 [h.version, h.capacity, h.recordSize, h.allocated, h.bitmapOffset, h.slotsOffset]

namespace Table

/-- The memory with an empty table of a layout at its start. -/
def layOut (l : Layout) (m : Words) : Words :=
  let m := Header.storeMagic 0 m
  let m := m.clear (l.bitmapOffset / 4) (l.totalSize / 4)
  let m := ((Header.load m).prepare l).storeFields m
  Header.storeMagic tableMagic m

def bitmapWord (t : Table) (m : Words) (index : Nat) : UInt64 :=
  m.getLong (t.layout.bitmapIndex index)

def holds (t : Table) (slot : UInt32) (m : Words) : Bool :=
  slot < t.layout.capacity && Bitmap.isSet (t.bitmapWord m (wordOf slot)) (bitOf slot)

def slots (t : Table) (m : Words) : List UInt32 :=
  (List.range t.layout.bitmapWords).flatMap fun index =>
    t.slotsOfWord index (t.bitmapWord m index)

def occupancy (t : Table) (m : Words) : Occupancy :=
  (t.slots m).foldl
    (fun stats slot => stats.record (m.record (t.layout.recordIndex slot)).contents.kind)
    (Occupancy.empty t.layout.capacity)

end Table

/-! ## Headers that are refused -/

namespace Header

variable {h : Header} {size : Nat}

theorem validate_of_magic (wrong : h.magic ≠ tableMagic) :
    h.validate size = .error (.invalidLayout ("Bad table magic " ++ hex h.magic.toNat)) :=
  if_pos wrong

theorem validate_of_version (magic : h.magic = tableMagic) (wrong : h.version ≠ tableVersion) :
    h.validate size =
      .error (.invalidLayout ("Unsupported table version " ++ toString h.version.toNat)) :=
  (if_neg (Decidable.not_not.mpr magic)).trans (if_pos wrong)

theorem validate_of_recordSize (magic : h.magic = tableMagic) (version : h.version = tableVersion)
    (wrong : h.recordSize.toNat ≠ Record.size) :
    h.validate size = .error (.invalidLayout ("Record size " ++ toString h.recordSize.toNat ++
      " does not match " ++ toString Record.size)) :=
  (if_neg (Decidable.not_not.mpr magic)).trans
    ((if_neg (Decidable.not_not.mpr version)).trans (if_pos wrong))

theorem validate_of_offsets (magic : h.magic = tableMagic) (version : h.version = tableVersion)
    (recordSize : h.recordSize.toNat = Record.size)
    (wrong : (Layout.ofCapacity h.capacity).bitmapOffset ≠ h.bitmapOffset.toNat ∨
      (Layout.ofCapacity h.capacity).slotsOffset ≠ h.slotsOffset.toNat) :
    h.validate size = .error (.invalidLayout "Section offsets do not match capacity") :=
  (if_neg (Decidable.not_not.mpr magic)).trans ((if_neg (Decidable.not_not.mpr version)).trans
    ((if_neg (Decidable.not_not.mpr recordSize)).trans (if_pos wrong)))

end Header

/-! ## Making and attaching -/

namespace Accesses

/-- A header is inspected as far as it takes to decide on it. -/
theorem perform_inspect (size : Nat) :
    (inspect size).perform = Op.read Header.load >>= fun h => Op.ofExcept (h.validate size) := by
  funext m
  have told : (Op.read Header.load >>= fun h => Op.ofExcept (h.validate size)) m =
      (Op.ofExcept ((Header.load m).validate size)) m := rfl
  have leaf (h : Header) (same : h.validate size = (Header.load m).validate size) :
      (ofExcept (h.validate size)).perform m = (Op.ofExcept ((Header.load m).validate size)) m := by
    rw [same, perform_ofExcept]
  rw [told, inspect]
  refine (perform_read_bind .magic _ m).trans ?_
  split
  · rename_i magic
    refine leaf _ (Eq.trans ?_ (Header.validate_of_magic (h := Header.load m) magic).symm)
    exact Header.validate_of_magic magic
  rename_i magic
  have magic : (Header.load m).magic = tableMagic := Decidable.not_not.mp magic
  refine (perform_read_bind (.field .version) _ m).trans ?_
  split
  · rename_i version
    refine leaf _ (Eq.trans ?_ (Header.validate_of_version (h := Header.load m) magic version).symm)
    exact Header.validate_of_version magic version
  rename_i version
  have version : (Header.load m).version = tableVersion := Decidable.not_not.mp version
  refine (perform_read_bind (.field .recordSize) _ m).trans ?_
  split
  · rename_i recordSize
    refine leaf _ (Eq.trans ?_
      (Header.validate_of_recordSize (h := Header.load m) magic version recordSize).symm)
    exact Header.validate_of_recordSize magic version recordSize
  rename_i recordSize
  have recordSize : (Header.load m).recordSize.toNat = Record.size := Decidable.not_not.mp recordSize
  refine (perform_read_bind (.field .capacity) _ m).trans ?_
  refine (perform_read_bind (.field .bitmapOffset) _ m).trans ?_
  split
  · rename_i offset
    refine leaf _ (Eq.trans ?_
      (Header.validate_of_offsets (h := Header.load m) magic version recordSize (.inl offset)).symm)
    exact Header.validate_of_offsets magic version recordSize (.inl offset)
  refine (perform_read_bind (.field .slotsOffset) _ m).trans ?_
  exact leaf _ rfl

theorem perform_layOut (l : Layout) : (layOut l).perform = Op.update (Table.layOut l) := rfl

end Accesses

namespace Table

open Accesses

theorem create_eq (region : Region) (settings : TableSettings) :
    create region settings = (do
      Op.ofExcept settings.validate
      if region.size < settings.regionSize then Op.fail (tooSmall region settings)
      else
        Op.update (layOut settings.layout)
        Op.note (.tableCreated region.name settings.capacity)
        return ⟨region, settings.layout, settings.guard⟩) := by
  rw [create, Accesses.create, perform_bind, perform_ofExcept]
  simp only [perform_ite, perform_bind, perform_layOut, perform_tell, perform_fail, perform_pure]

/-- Attaching changes nothing. It refuses the policy before it looks at the header. -/
theorem attach_looks (region : Region) (p : GuardPolicy) (m : Words) :
    (attach region p).result m =
      (.ofExcept (do
        p.validate
        let layout ← (Header.load m).validate region.size
        return ⟨region, layout, p⟩), m) := by
  rw [attach, Accesses.attach, perform_bind, perform_ofExcept, Op.result_bind, Op.result_ofExcept]
  cases p.validate with
  | error e => rfl
  | ok _ =>
    simp only [Outcome.ofExcept, perform_bind, perform_inspect]
    rw [Op.result_bind, Op.result_bind, Op.result_read]
    simp only [Op.result_ofExcept]
    cases (Header.load m).validate region.size <;> rfl

variable {α : Type} (t : Table)

/-! ## Slots and records -/

theorem onRecord_eq (slot : UInt32) (op : Op Record α) :
    t.onRecord slot op = Words.onRecord (t.layout.recordIndex slot) op :=
  perform_onRecord t.layout slot op

theorem isAllocated_eq (slot : UInt32) : t.isAllocated slot = Op.read (t.holds slot) := by
  funext m
  rw [isAllocated, Accesses.isAllocated, perform_ite]
  by_cases inside : slot < t.layout.capacity
  · rw [if_pos inside]
    simp only [Op.read, holds, decide_eq_true inside, Bool.true_and]
    rfl
  · rw [if_neg inside]
    simp only [Op.read, holds, decide_eq_false inside, Bool.false_and]
    rfl

theorem require_eq (slot : UInt32) :
    t.require slot =
      (do if ← t.isAllocated slot then pure () else Op.fail (.invalidSlot slot)) := by
  rw [require, Accesses.require, perform_bind]
  simp only [perform_ite, perform_pure, perform_fail]
  rfl

theorem withObject_eq (slot : UInt32) (op : GuardPolicy → Op Record α) :
    t.withObject slot op = (do
      t.require slot
      t.onRecord slot (op t.policy)) :=
  perform_bind ..

/-! ## Handing out and taking back -/

theorem alloc_eq :
    t.alloc = Op.drive (t.allocStep false) (t.layout.bitmapWords + 3) (.look 0) :=
  perform_drive ..

theorem free_eq (slot : UInt32) : t.free slot = Op.drive (t.freeStep slot) 4 .check :=
  perform_drive ..

theorem freeStep_check_eq (slot : UInt32) :
    t.freeStep slot .check = (do
      t.require slot
      return .next .retire) :=
  perform_bind ..

theorem freeStep_retire_of {slot : UInt32} {o : Outcome Kind} {m m' : Words}
    (retired : (t.onRecord slot (Record.retire t.policy)).result m = (o, m')) :
    (t.freeStep slot .retire).result m = (o.map fun kind => .next (.clear kind), m') := by
  have step : t.freeStep slot .retire =
      (fun kind => .next (.clear kind)) <$> t.onRecord slot (Record.retire t.policy) :=
    perform_bind ..
  rw [step, Op.result_map, retired]

theorem createWith_eq (setUp : GuardPolicy → Op Record Unit) :
    t.createWith setUp = (do
      let slot ← t.alloc
      match ← (t.onRecord slot (setUp t.policy)).attempt with
      | .ok () => return slot
      | .error e => do
        t.free slot
        Op.fail e) := by
  rw [createWith, Accesses.createWith, perform_bind]
  congr 1
  funext slot
  rw [perform_bind, perform_attempt]
  congr 1
  funext result
  cases result with
  | ok _ => rfl
  | error e => exact perform_bind ..

/-! ## Reading all slots -/

theorem perform_collect (indices : List Nat) :
    (Accesses.collect t indices).perform = Op.read fun m =>
      indices.flatMap fun index => t.slotsOfWord index (t.bitmapWord m index) := by
  induction indices with
  | nil => rfl
  | cons index rest ih =>
    rw [Accesses.collect, perform_bind]
    simp only [perform_bind, ih]
    rfl

theorem allocatedSlots_eq : t.allocatedSlots = Op.read t.slots := perform_collect t _

theorem perform_tally (slots : List UInt32) (stats : Occupancy) :
    (Accesses.tally t slots stats).perform = Op.read fun m =>
      slots.foldl (fun stats slot =>
        stats.record (m.record (t.layout.recordIndex slot)).contents.kind) stats := by
  induction slots generalizing stats with
  | nil => rfl
  | cons slot rest ih =>
    rw [Accesses.tally, perform_bind]
    simp only [ih]
    rfl

theorem stats_eq : t.stats = Op.read t.occupancy := by
  rw [stats, Accesses.stats, perform_bind]
  simp only [perform_tally]
  rw [show (Accesses.allocatedSlots t).perform = _ from allocatedSlots_eq t]
  rfl

theorem snapshots_cons (slot : UInt32) (rest : List UInt32) :
    t.snapshots (slot :: rest) = (do
      let state ← t.onRecord slot (Record.snapshot t.policy)
      return (slot, state) :: (← t.snapshots rest)) := by
  rw [snapshots, Accesses.snapshots, perform_bind]
  simp only [perform_bind]
  rfl

theorem dump_eq : t.dump = (do t.snapshots (← t.allocatedSlots)) := perform_bind ..

/-! ## Sweeping -/

theorem sweepStep_look_nil_eq (owner : ThreadId) (tally : SweepTally) :
    t.sweepStep owner (.look [] tally) = .answer <$> (report owner tally).perform :=
  perform_bind ..

theorem sweepStep_look_eq (owner : ThreadId) (slot : UInt32) (rest : List UInt32)
    (tally : SweepTally) :
    t.sweepStep owner (.look (slot :: rest) tally) = (do
      if (← t.kindAt slot) = .mutex then return .next (.opening slot rest tally)
      else return .next (.look rest tally)) := by
  rw [sweepStep, Accesses.sweepStep, perform_bind]
  simp only [perform_ite, perform_pure]
  rfl

theorem sweepStep_opening_eq (owner : ThreadId) (slot : UInt32) (rest : List UInt32)
    (tally : SweepTally) :
    t.sweepStep owner (.opening slot rest tally) = (do
      if (← t.kindAt slot) = .mutex then return .next (.abandon slot rest tally)
      else return .next (.look rest tally)) := by
  rw [sweepStep, Accesses.sweepStep, perform_bind]
  simp only [perform_ite, perform_pure]
  rfl

theorem sweepStep_abandon_eq (owner : ThreadId) (slot : UInt32) (rest : List UInt32)
    (tally : SweepTally) :
    t.sweepStep owner (.abandon slot rest tally) = (do
      let visit ← (t.onRecord slot (Mutex.abandonIfOwnedBy t.policy owner)).attempt
      return .next (.look rest (← (recordVisit owner slot tally visit).perform))) := by
  rw [sweepStep, Accesses.sweepStep, perform_bind, perform_attempt]
  simp only [perform_bind, perform_pure]
  rfl

theorem abandonMutexes_eq (owner : ThreadId) :
    t.abandonMutexes owner = Op.drive (t.sweepStep owner) t.sweepBound (.collect 0 []) :=
  perform_drive ..

end Table

end Interprocess
