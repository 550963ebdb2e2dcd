import Interprocess.Proofs.Table.Dealings
import Interprocess.Proofs.Table.SoleSweep

/-!
# Accesses stay inside the region

A handle that making a table or attaching to one gives has a layout whose parts lie apart, are
aligned and end inside the region, and whatever is done through such handles, with whatever slots
and whatever the bitmap and the records hold, reaches these parts only: no word of the bitmap beyond
the last, and no record of a slot that the table does not have (`Table.accesses_stay_inside`). Each
kind of operation checks this in its own way. A search masks the bits that stand for no slot; a slot
that is asked for is compared with the capacity before its bit is looked at; a reference is only had
for a slot that passed that check.
-/

namespace Interprocess

/-! ## Layouts without overflow -/

/-- A number, if a word of 64 bits can hold it. -/
def inWord (n : Nat) : Option Nat := if n < 2 ^ 64 then some n else none

theorem inWord_of_lt {n : Nat} (fits : n < 2 ^ 64) : inWord n = some n := if_pos fits

/-- The layout of a table with so many slots, unless a sum or a product on the way does not fit into
a word of 64 bits. -/
def Layout.checked (capacity : UInt32) : Option Layout := do
  let bits ← inWord (capacity.toNat + 63)
  let bitmapWords := bits / 64
  let bitmapSize ← inWord (bitmapWords * 8)
  let bitmapEnd ← inWord (headerSize + bitmapSize)
  let rounded ← inWord (bitmapEnd + slotAlignment)
  let slotsOffset := (rounded - 1) / slotAlignment * slotAlignment
  let recordsSize ← inWord (capacity.toNat * Record.size)
  let totalSize ← inWord (slotsOffset + recordsSize)
  return { capacity, bitmapOffset := headerSize, bitmapWords, slotsOffset, totalSize }

theorem Layout.checked_eq (c : UInt32) : checked c = some (ofCapacity c) := by
  have bounded := c.toNat_lt
  have bits : c.toNat + 63 < 2 ^ 64 := by omega
  have bitmapSize : (c.toNat + 63) / 64 * 8 < 2 ^ 64 := by omega
  have bitmapEnd : headerSize + (c.toNat + 63) / 64 * 8 < 2 ^ 64 := by
    rw [headerSize]
    omega
  have rounded : headerSize + (c.toNat + 63) / 64 * 8 + slotAlignment < 2 ^ 64 := by
    rw [headerSize, slotAlignment]
    omega
  have recordsSize : c.toNat * Record.size < 2 ^ 64 := by
    rw [Record.size]
    omega
  have totalSize : (headerSize + (c.toNat + 63) / 64 * 8 + slotAlignment - 1) / slotAlignment *
      slotAlignment + c.toNat * Record.size < 2 ^ 64 := by
    rw [headerSize, slotAlignment, Record.size]
    omega
  simp only [checked, inWord_of_lt bits, inWord_of_lt bitmapSize, inWord_of_lt bitmapEnd,
    inWord_of_lt rounded, inWord_of_lt recordsSize, inWord_of_lt totalSize, Option.bind_eq_bind,
    Option.bind_some]
  rfl

/-! ## Slots that are in range -/

namespace Table

variable {t : Table} {index : Nat} {slot : UInt32}

theorem slotAt_lt {bit : Nat} (inside : index * 64 + bit < t.capacity) :
    slotAt index bit < t.layout.capacity := by
  have bounded := t.layout.capacity.toNat_lt
  rw [capacity] at inside
  rw [slotAt, UInt32.lt_iff_toNat_lt, UInt32.toNat_ofNat_of_lt' (Nat.lt_trans inside bounded)]
  exact inside

theorem lt_of_mem_slotsOfWord {word : UInt64} (mem : slot ∈ t.slotsOfWord index word) :
    slot < t.layout.capacity := by
  obtain ⟨bit, found, rfl⟩ := List.mem_map.mp mem
  rw [Bitmap.setBits_eq_filter, List.mem_filter, List.mem_range, Bitmap.isSet_and,
    Bool.and_eq_true] at found
  obtain ⟨small, -, masked⟩ := found
  rw [mask, Bitmap.isSet_mask small, decide_eq_true_iff] at masked
  exact slotAt_lt masked

/-- Where a call that hands out a slot stands, the word and the slot that it is at are in range. -/
def AllocPhase.InRange (t : Table) : AllocPhase → Prop
  | look _ => True
  | claim index _ bit => index < t.layout.bitmapWords ∧ slotAt index bit < t.layout.capacity
  | count slot => slot < t.layout.capacity

theorem seen_inRange (inside : index < t.layout.bitmapWords) (current : UInt64) :
    (t.seen index current).InRange t := by
  unfold seen
  split
  · rename_i bit found
    obtain ⟨⟨small, masked, -⟩, -⟩ := Bitmap.lowestClear_eq_some found
    rw [mask, Bitmap.isSet_mask small, decide_eq_true_iff] at masked
    exact ⟨inside, slotAt_lt masked⟩
  · trivial

/-- Where a sweep stands, the slots that it is to visit are in range. -/
def SweepPhase.InRange (t : Table) : SweepPhase → Prop
  | collect _ slots => ∀ slot ∈ slots, slot < t.layout.capacity
  | look slots _ => ∀ slot ∈ slots, slot < t.layout.capacity
  | opening slot rest _ => slot < t.layout.capacity ∧ ∀ slot ∈ rest, slot < t.layout.capacity
  | abandon slot rest _ => slot < t.layout.capacity ∧ ∀ slot ∈ rest, slot < t.layout.capacity

end Table

/-! ## Handles in a region -/

/-- A handle whose layout is that of its capacity and ends inside a region of the size. -/
structure Table.FitsIn (size : Nat) (t : Table) : Prop where
  shape : t.layout = Layout.ofCapacity t.layout.capacity
  fits : t.layout.totalSize ≤ size

theorem Table.Given.fitsIn {t : Table} (given : t.Given) : t.FitsIn t.region.size := by
  refine ⟨given.serves.layout, ?_⟩
  cases given with
  | made made =>
    obtain ⟨valid, fits⟩ := Table.of_create made
    rw [Table.create_result valid fits] at made
    cases made
    exact fits
  | attached attached =>
    obtain ⟨-, l, accepted, rfl⟩ := Table.of_attach _ _ attached
    obtain ⟨-, fits, rfl⟩ := Header.writtenFor_of_validate accepted
    exact fits

theorem Table.FitsIn.mono {size size' : Nat} {t : Table} (fits : t.FitsIn size)
    (less : size ≤ size') : t.FitsIn size' :=
  ⟨fits.shape, Nat.le_trans fits.fits less⟩

namespace Part

variable {p : Part} {size : Nat}

theorem InHeader.within (h : p.InHeader) (large : headerSize ≤ size) : p.Within size :=
  ⟨h.inRange, Nat.le_trans h.stop_le large⟩

/-- A part inside a region of the size from the counter of a table on: what is left alone are the
fields of the header that tell the layout. -/
def Lasting (size : Nat) (p : Part) : Prop := p.Within size ∧ Header.allocatedIndex ≤ p.first

theorem Served.lasting {t : Table} (served : p.Served t.layout) (fits : t.FitsIn size) :
    p.Lasting size := by
  have of := served.of
  refine ⟨⟨of.inRange, Nat.le_trans ?_ fits.fits⟩, ?_⟩
  · rw [fits.shape] at of ⊢
    exact of.stop_le
  · rw [fits.shape] at served
    cases served with
    | counter => exact Nat.le_refl _
    | word =>
      have late := Layout.header_before_bitmap t.layout.capacity
      exact Nat.le_trans (by decide) (late _)
    | record =>
      have late := Layout.header_before_records t.layout.capacity
      exact Nat.le_trans (by decide) (late _)

end Part

/-! ## What operations reach -/

namespace Accesses

section Tables

variable {t : Table} {slot : UInt32} {α : Type}

theorem onRecord_served (inside : slot < t.layout.capacity) (op : Op Record α) :
    (onRecord t.layout slot op).All (Part.Served t.layout) fun _ => True :=
  ⟨.record inside, fun _ => ⟨.record inside, fun _ _ => trivial⟩⟩

theorem exchangeWord_served {index : Nat} (inside : index < t.layout.bitmapWords) (fails : Bool)
    (expected desired : UInt64) :
    (exchangeWord t.layout index fails expected desired).All (Part.Served t.layout)
      fun _ => True := by
  refine (All.read (.word inside) fun _ => trivial).bind fun actual _ => ?_
  split
  · exact ⟨.word inside, All.pure trivial⟩
  · exact All.pure trivial

theorem maskWord_served {index : Nat} (inside : index < t.layout.bitmapWords) (mask : UInt64) :
    (maskWord t.layout index mask).All (Part.Served t.layout) fun _ => True :=
  ⟨.word inside, fun _ => ⟨.word inside, All.pure trivial⟩⟩

theorem addAllocated_served (amount : UInt32) :
    (addAllocated amount).All (Part.Served t.layout) fun _ => True :=
  ⟨.counter, fun _ => ⟨.counter, fun _ _ => trivial⟩⟩

/-! ### Handing out and sweeping -/

theorem allocStep_served (fails : Bool) (phase : Table.AllocPhase) (h : phase.InRange t) :
    (allocStep t fails phase).All (Part.Served t.layout)
      (Upholds (Table.AllocPhase.InRange t) (· < t.layout.capacity)) := by
  cases phase with
  | look index =>
    simp only [allocStep]
    split
    · rename_i inside
      exact (All.read (.word inside) fun _ => trivial).bind fun current _ =>
        All.pure (Table.seen_inRange inside current)
    · exact All.fail _
  | claim index current bit =>
    obtain ⟨inside, found⟩ := h
    refine (exchangeWord_served inside fails current _).bind fun other _ => ?_
    cases other with
    | none => exact All.pure found
    | some actual => exact All.pure (Table.seen_inRange inside actual)
  | count slot =>
    exact (addAllocated_served 1).bind fun _ _ => (All.tell _).bind fun _ _ => All.pure h

theorem alloc_served :
    (alloc t).All (Part.Served t.layout) fun slot => slot < t.layout.capacity :=
  All.drive (allocStep_served false) _ trivial

theorem collect_served (indices : List Nat)
    (inside : ∀ index ∈ indices, index < t.layout.bitmapWords) :
    (collect t indices).All (Part.Served t.layout) fun slots =>
      ∀ slot ∈ slots, slot < t.layout.capacity := by
  induction indices with
  | nil => exact All.pure fun _ mem => absurd mem List.not_mem_nil
  | cons index rest ih =>
    have first := inside index List.mem_cons_self
    have later := ih fun index mem => inside index (List.mem_cons_of_mem _ mem)
    refine (All.read (.word first) fun _ => trivial).bind fun word _ => ?_
    refine later.bind fun slots found => All.pure fun slot mem => ?_
    rcases List.mem_append.mp mem with mem | mem
    · exact Table.lt_of_mem_slotsOfWord mem
    · exact found slot mem

theorem allocatedSlots_served :
    (allocatedSlots t).All (Part.Served t.layout) fun slots =>
      ∀ slot ∈ slots, slot < t.layout.capacity :=
  collect_served _ fun _ mem => List.mem_range.mp mem

theorem tally_served (slots : List UInt32) (inside : ∀ slot ∈ slots, slot < t.layout.capacity)
    (stats : Occupancy) : (tally t slots stats).All (Part.Served t.layout) fun _ => True := by
  induction slots generalizing stats with
  | nil => exact All.pure trivial
  | cons slot rest ih =>
    have later := ih fun slot mem => inside slot (List.mem_cons_of_mem _ mem)
    exact (All.read (.record (inside slot List.mem_cons_self)) fun _ => trivial).bind
      fun r _ => later _

theorem stats_served : (stats t).All (Part.Served t.layout) fun _ => True :=
  allocatedSlots_served.bind fun slots inside => tally_served slots inside _

theorem snapshots_served (slots : List UInt32)
    (inside : ∀ slot ∈ slots, slot < t.layout.capacity) :
    (snapshots t slots).All (Part.Served t.layout) fun _ => True := by
  induction slots with
  | nil => exact All.pure trivial
  | cons slot rest ih =>
    have later := ih fun slot mem => inside slot (List.mem_cons_of_mem _ mem)
    exact (onRecord_served (inside slot List.mem_cons_self) _).bind fun _ _ =>
      later.bind fun _ _ => All.pure trivial

theorem dump_served : (dump t).All (Part.Served t.layout) fun _ => True :=
  allocatedSlots_served.bind fun slots inside => snapshots_served slots inside

theorem recordVisit_served (owner : ThreadId) (slot : UInt32) (tally : Table.SweepTally)
    (visit : Except SyncError Bool) :
    (recordVisit owner slot tally visit).All (Part.Served t.layout) fun _ => True := by
  unfold recordVisit
  split
  all_goals exact fun _ _ => trivial

theorem report_served (owner : ThreadId) (tally : Table.SweepTally) :
    (report owner tally).All (Part.Served t.layout) fun _ => True := by
  unfold report
  split <;> split <;> exact fun _ _ => trivial

theorem sweepStep_served (owner : ThreadId) (phase : Table.SweepPhase) (h : phase.InRange t) :
    (sweepStep t owner phase).All (Part.Served t.layout)
      (Upholds (Table.SweepPhase.InRange t) fun _ => True) := by
  cases phase with
  | collect index slots =>
    simp only [sweepStep]
    split
    · rename_i inside
      refine (All.read (.word inside) fun _ => trivial).bind fun word _ => All.pure ?_
      intro slot mem
      rcases List.mem_append.mp mem with mem | mem
      · exact h slot mem
      · exact Table.lt_of_mem_slotsOfWord mem
    · exact All.pure h
  | look slots tally =>
    cases slots with
    | nil => exact (report_served owner tally).bind fun _ _ => All.pure trivial
    | cons slot rest =>
      have first := h slot List.mem_cons_self
      have later : ∀ slot ∈ rest, slot < t.layout.capacity :=
        fun slot mem => h slot (List.mem_cons_of_mem _ mem)
      refine (onRecord_served first _).bind fun kind _ => ?_
      split
      · exact All.pure ⟨first, later⟩
      · exact All.pure later
  | opening slot rest tally =>
    refine (onRecord_served h.1 _).bind fun kind _ => ?_
    split
    · exact All.pure h
    · exact All.pure h.2
  | abandon slot rest tally =>
    exact (onRecord_served h.1 _).attempt.bind fun visit _ =>
      (recordVisit_served owner slot tally visit).bind fun tally _ => All.pure h.2

theorem abandonMutexes_served (owner : ThreadId) :
    (abandonMutexes t owner).All (Part.Served t.layout) fun _ => True :=
  All.drive (sweepStep_served owner) _ fun _ mem => absurd mem List.not_mem_nil

theorem description_served : (description t).All (Part.Served t.layout) fun _ => True :=
  (All.read .counter fun _ => trivial).bind fun _ _ => All.pure trivial

/-! ### Slots that are asked for -/

variable (shape : t.layout = Layout.ofCapacity t.layout.capacity)

include shape

theorem wordOf_lt (inside : slot < t.layout.capacity) :
    Table.wordOf slot < t.layout.bitmapWords := by
  rw [shape]
  exact Layout.wordOf_lt inside

theorem isAllocated_served (slot : UInt32) :
    (isAllocated t slot).All (Part.Served t.layout) fun held =>
      held = true → slot < t.layout.capacity := by
  rw [isAllocated]
  split
  · rename_i inside
    exact (All.read (.word (wordOf_lt shape inside)) fun _ => trivial).bind fun _ _ =>
      All.pure fun _ => inside
  · exact All.pure fun held => absurd held Bool.false_ne_true

theorem require_served (slot : UInt32) :
    (require t slot).All (Part.Served t.layout) fun _ => slot < t.layout.capacity := by
  refine (isAllocated_served shape slot).bind fun held inside => ?_
  cases held with
  | true => exact All.pure (inside rfl)
  | false => exact All.fail _

theorem withObject_served (slot : UInt32) (op : GuardPolicy → Op Record α) :
    (withObject t slot op).All (Part.Served t.layout) fun _ => True :=
  (require_served shape slot).bind fun _ inside => onRecord_served inside _

theorem freeStep_served (slot : UInt32) (phase : Table.FreePhase)
    (h : phase ≠ .check → slot < t.layout.capacity) :
    (freeStep t slot phase).All (Part.Served t.layout)
      (Upholds (fun phase => phase ≠ .check → slot < t.layout.capacity) fun _ => True) := by
  cases phase with
  | check => exact (require_served shape slot).bind fun _ inside => All.pure fun _ => inside
  | retire =>
    have inside := h nofun
    exact (onRecord_served inside _).bind fun kind _ => All.pure fun _ => inside
  | clear kind =>
    have inside := h nofun
    refine (maskWord_served (wordOf_lt shape inside) _).bind fun previous _ => ?_
    split
    · exact All.pure fun _ => inside
    · exact All.fail _
  | count kind =>
    exact (addAllocated_served (-1)).bind fun _ _ => (All.tell _).bind fun _ _ => All.pure trivial

theorem free_served (slot : UInt32) :
    (free t slot).All (Part.Served t.layout) fun _ => True :=
  All.drive (freeStep_served shape slot) _ fun other => absurd rfl other

theorem createWith_served (setUp : GuardPolicy → Op Record Unit) :
    (createWith t setUp).All (Part.Served t.layout) fun _ => True := by
  refine alloc_served.bind fun slot inside => ?_
  refine (onRecord_served inside _).attempt.bind fun result _ => ?_
  cases result with
  | ok _ => exact All.pure trivial
  | error e => exact (free_served shape slot).bind fun _ _ => All.fail e

end Tables

/-! ### Making and attaching -/

section Handles

variable {ok : Part → Prop}

theorem validate_all (h : Header) (size : Nat) :
    (ofExcept (h.validate size)).All ok fun l =>
      l = Layout.ofCapacity l.capacity ∧ l.totalSize ≤ size := by
  intro l accepted
  obtain ⟨-, fits, rfl⟩ := Header.writtenFor_of_validate (Outcome.ofExcept_eq_value accepted)
  exact ⟨rfl, fits⟩

theorem inspect_all (size : Nat) :
    (inspect size).All Part.InHeader fun l =>
      l = Layout.ofCapacity l.capacity ∧ l.totalSize ≤ size := by
  refine (All.read .magic fun _ => trivial).bind fun magic _ => ?_
  split
  · exact validate_all _ size
  refine (All.read (.field _) fun _ => trivial).bind fun version _ => ?_
  split
  · exact validate_all _ size
  refine (All.read (.field _) fun _ => trivial).bind fun recordSize _ => ?_
  split
  · exact validate_all _ size
  refine (All.read (.field _) fun _ => trivial).bind fun capacity _ => ?_
  refine (All.read (.field _) fun _ => trivial).bind fun bitmapOffset _ => ?_
  split
  · exact validate_all _ size
  exact (All.read (.field _) fun _ => trivial).bind fun slotsOffset _ => validate_all _ size

theorem attach_all (region : Region) (p : GuardPolicy) :
    (attach region p).All Part.InHeader (Table.FitsIn region.size) := by
  refine (All.ofExcept _).bind fun _ _ => ?_
  exact (inspect_all region.size).bind fun l found =>
    (All.tell _).bind fun _ _ => All.pure ⟨found.1, found.2⟩

theorem layOut_all {l : Layout} (header : ∀ part, part.InHeader → ok part)
    (body : ok (.body l)) : (layOut l).All ok fun _ => True :=
  ⟨header _ .magic, body, header _ (.field _), header _ (.field _), header _ (.field _),
    header _ (.field _), header _ (.field _), header _ (.field _), header _ .magic,
    fun _ _ => trivial⟩

theorem create_all (region : Region) (settings : TableSettings) :
    (create region settings).All (Part.Within region.size) (Table.FitsIn region.size) := by
  refine (All.ofExcept _).bind fun _ _ => ?_
  split
  · exact All.fail _
  · rename_i large
    have fits : settings.layout.totalSize ≤ region.size := Nat.not_lt.mp large
    refine (layOut_all (fun part header => ?_) ⟨trivial, ?_⟩).bind fun _ _ =>
      (All.tell _).bind fun _ _ => All.pure ⟨rfl, fits⟩
    · exact header.within (Nat.le_trans (Layout.headerSize_le_totalSize _) fits)
    · exact Nat.le_trans (Nat.mul_div_le _ 4) fits

end Handles

end Accesses

/-! ## Dealings -/

section Dealings

variable {size : Nat} {region : Region} {t : Table} {s : Client}

theorem HandleCall.served (shape : t.layout = Layout.ofCapacity t.layout.capacity)
    (c : HandleCall) : (c.accesses t).All (Part.Served t.layout) fun _ => True := by
  cases c with
  | alloc => exact (Accesses.alloc_served.mono (fun _ => id) fun _ _ => trivial).map
  | free slot => exact (Accesses.free_served shape slot).map
  | createMutex | createEvent | createSemaphore => exact (Accesses.createWith_served shape _).map
  | isAllocated slot =>
    exact ((Accesses.isAllocated_served shape slot).mono (fun _ => id) fun _ _ => trivial).map
  | allocatedSlots =>
    exact (Accesses.allocatedSlots_served.mono (fun _ => id) fun _ _ => trivial).map
  | get slot | check slot => exact (Accesses.withObject_served shape slot _).map
  | snapshot slot | tryWait slot => exact (Accesses.withObject_served shape slot _).map.map
  | dump => exact Accesses.dump_served.map
  | stats => exact Accesses.stats_served.map

/-- Whether something is done through a handle or a reference. -/
def Dealing.goesThrough : Dealing → Bool
  | create _ => false
  | attach _ => false
  | _ => true

/-- What a dealing brings fits into a region of the size. -/
def Gain.FitsIn (size : Nat) : Gain → Prop
  | handle t => t.FitsIn size
  | reference v => v.table.FitsIn size ∧ v.slot < v.table.layout.capacity
  | _ => True

theorem TableCall.served (shape : t.layout = Layout.ofCapacity t.layout.capacity)
    (c : TableCall) : (c.accesses t).All (Part.Served t.layout) (Gain.FitsIn size) := by
  cases c with
  | request c => exact (c.served shape).map
  | sweep owner => exact (Accesses.abandonMutexes_served owner).map
  | describe => exact Accesses.description_served.map

/-- A client whose handles and references lie in a region of the size. -/
structure Client.FitsIn (size : Nat) (s : Client) : Prop where
  handles : ∀ t ∈ s.handles, t.FitsIn size
  references : ∀ v ∈ s.references, v.table.FitsIn size ∧ v.slot < v.table.layout.capacity

namespace Client.FitsIn

theorem mono {size' : Nat} (h : s.FitsIn size) (less : size ≤ size') : s.FitsIn size' :=
  ⟨fun t mem => (h.handles t mem).mono less,
    fun v mem => ⟨(h.references v mem).1.mono less, (h.references v mem).2⟩⟩

theorem gain (h : s.FitsIn size) {o : Outcome Gain} (fits : ∀ g, o = .value g → g.FitsIn size) :
    (s.gain o).FitsIn size := by
  match o with
  | .failed e | .blocked => exact h
  | .value g =>
    have fits := fits g rfl
    cases g with
    | handle t =>
      refine ⟨fun t' mem => ?_, h.references⟩
      rcases List.mem_append.mp mem with mem | mem
      · exact h.handles t' mem
      · obtain rfl := List.mem_singleton.mp mem
        exact fits
    | reference v =>
      refine ⟨h.handles, fun v' mem => ?_⟩
      rcases List.mem_append.mp mem with mem | mem
      · exact h.references v' mem
      · obtain rfl := List.mem_singleton.mp mem
        exact fits
    | reply | count | text | nothing => exact h

/-- Whatever is done through a handle or a reference reaches only what lasts. -/
theorem lasting (h : s.FitsIn size) {d : Dealing} (goes : d.goesThrough = true) :
    (d.accesses region s).All (Part.Lasting size) (Gain.FitsIn size) := by
  cases d with
  | create | attach => cases goes
  | call handle c =>
    simp only [Dealing.accesses]
    split
    · rename_i t found
      have fits := h.handles t (List.mem_of_getElem? found)
      exact (c.served fits.shape).mono (fun _ served => served.lasting fits) fun _ => id
    · exact Accesses.All.pure trivial
  | take handle slot =>
    simp only [Dealing.accesses]
    split
    · rename_i t found
      have fits := h.handles t (List.mem_of_getElem? found)
      exact ((Accesses.require_served fits.shape slot).mono (fun _ served => served.lasting fits)
        fun _ inside => ⟨fits, inside⟩).map
    · exact Accesses.All.pure trivial
  | use reference op =>
    simp only [Dealing.accesses]
    split
    · rename_i v found
      obtain ⟨fits, inside⟩ := h.references v (List.mem_of_getElem? found)
      exact ((Accesses.onRecord_served inside op).mono (fun _ served => served.lasting fits)
        fun _ _ => trivial).map
    · exact Accesses.All.pure trivial

theorem within (h : s.FitsIn region.size) (large : headerSize ≤ region.size) (d : Dealing) :
    (d.accesses region s).All (Part.Within region.size) (Gain.FitsIn region.size) := by
  cases d with
  | create settings =>
    exact Accesses.All.map (f := Gain.handle) (Accesses.create_all region settings)
  | attach p =>
    exact Accesses.All.map (f := Gain.handle) ((Accesses.attach_all region p).mono
      (fun _ header => header.within large) fun _ => id)
  | call | take | use =>
    exact (h.lasting rfl).mono (fun _ lasting => lasting.1) fun _ => id

theorem accesses_within (h : s.FitsIn region.size) (large : headerSize ≤ region.size)
    (dealings : List Dealing) :
    (s.accesses region dealings).All (Part.Within region.size) fun _ => True := by
  induction dealings generalizing s with
  | nil => exact Accesses.All.pure trivial
  | cons d rest ih =>
    refine (h.within large d).settle.bind fun o fits => ?_
    exact (ih (h.gain fits)).bind fun _ _ => Accesses.All.pure trivial

end Client.FitsIn

end Dealings

/-! ## Tables in their regions -/

/-- The parts of a table lie in its region one beside another: the header in the first 32 bytes, a
word of the bitmap every 8 bytes from there, and a record every 20 bytes from the offset of the
records. Where the region is mapped at the start of a page, all of them are aligned. -/
structure Table.WellPlaced (t : Table) : Prop where
  fits : t.layout.totalSize ≤ t.region.size
  header : ∀ p : Part, p.InHeader → p.stop ≤ 32
  words : ∀ index, (Part.word t.layout index).start = 32 + 8 * index ∧
    (Part.word t.layout index).stop = 32 + 8 * index + 8
  records : ∀ slot, (Part.record t.layout slot).start = t.layout.slotsOffset + 20 * slot.toNat ∧
    (Part.record t.layout slot).stop = t.layout.slotsOffset + 20 * slot.toNat + 20
  ends : ∀ p : Part, p.Of t.layout → p.stop ≤ t.layout.totalSize
  aligned : ∀ p : Part, p.Of t.layout → ∀ base, 4096 ∣ base → p.alignment ∣ base + p.start
  apart : ∀ p p' : Part, p.Of t.layout → p'.Of t.layout → p ≠ p' → p.Apart p'

theorem Table.FitsIn.wellPlaced {t : Table} (fits : t.FitsIn t.region.size) : t.WellPlaced := by
  obtain ⟨region, layout, policy⟩ := t
  obtain ⟨shape, fits⟩ := fits
  dsimp only at shape fits
  generalize layout.capacity = c at shape
  subst shape
  refine ⟨fits, fun p header => header.stop_le, fun index => ?_, fun slot => ?_,
    fun p of => of.stop_le, fun p of base page => of.aligned page,
    fun p p' of of' different => of.apart of' different⟩
  · simp only [Part.start, Part.stop, Part.first, Part.past, Layout.bitmapIndex_ofCapacity]
    omega
  · have whole := (Layout.slotsOffset_ofCapacity c).2
    simp only [Part.start, Part.stop, Part.first, Part.past, Layout.recordIndex_ofCapacity,
      Record.words]
    omega

/-- No sum or product on the way to a layout overflows a word of 64 bits, for any capacity, and the
header has room for both offsets. Every handle that making a table or attaching to one gives, for
whatever region and contents, has its parts in the region, aligned and apart. And whatever a client
does that begins with such handles on a region, in whatever order and with whatever slots: each word
of the bitmap that is accessed is one of the bitmap, each record is that of a slot of the table, and
each access ends inside the region. This holds of all branches of the tree of accesses, so whatever
the bitmap and the records hold and whoever else writes there meanwhile; and the tree does what the
operations do. -/
theorem Table.accesses_stay_inside :
    (∀ c : UInt32, Layout.checked c = some (Layout.ofCapacity c) ∧
      (WordLayout.ofCapacity c).toLayout = Layout.ofCapacity c ∧
      (Layout.ofCapacity c).bitmapOffset < 2 ^ 32 ∧ (Layout.ofCapacity c).slotsOffset < 2 ^ 32) ∧
    (∀ t : Table, t.Given → t.WellPlaced) ∧
    ∀ (region : Region) (handles : List Table), handles ≠ [] →
      (∀ t ∈ handles, t.Given ∧ t.region = region) →
      ∀ dealings : List Dealing,
        let client : Client := ⟨handles, []⟩
        (∀ m, (client.accesses region dealings).run m =
          (.value (client.run region dealings m).1, (client.run region dealings m).2)) ∧
        (client.accesses region dealings).All (Part.Within region.size) fun _ => True := by
  refine ⟨fun c => ?_, fun t given => given.fitsIn.wellPlaced,
    fun region handles some given dealings => ?_⟩
  · obtain ⟨bitmap, slots⟩ := Layout.offsets_fit c
    refine ⟨Layout.checked_eq c, WordLayout.toLayout_ofCapacity c, ?_, ?_⟩
    · rw [← bitmap]
      exact UInt32.toNat_lt _
    · rw [← slots]
      exact UInt32.toNat_lt _
  · have fits : ∀ t ∈ handles, t.FitsIn region.size := by
      intro t mem
      obtain ⟨gave, here⟩ := given t mem
      rw [← here]
      exact gave.fitsIn
    obtain ⟨t, mem⟩ := List.exists_mem_of_ne_nil handles some
    have large : headerSize ≤ region.size := by
      have room := (fits t mem).fits
      rw [(fits t mem).shape] at room
      exact Nat.le_trans (Layout.headerSize_le_totalSize _) room
    refine ⟨fun m => Client.run_accesses region dealings ⟨handles, []⟩ m, ?_⟩
    have start : Client.FitsIn region.size ⟨handles, []⟩ :=
      ⟨fits, fun v mem => absurd mem List.not_mem_nil⟩
    exact start.accesses_within large dealings

/-- Slots that a table of two does not have, a record that is filled with rubbish through a
reference while its slot is taken back and handed out again, a sweep, and a second handle: all
inside 128 bytes. -/
theorem Table.accesses_of_pair_stay_inside :
    pair.WellPlaced ∧
      (Client.accesses pair.region
        [.call 0 (.request (.free 4294967295)), .call 0 (.request (.createMutex none)), .take 0 0,
          .call 0 (.request (.free 0)), .use 0 (Op.exchange fun _ => (.done, ⟨9, 1, 7, 7, 7⟩)),
          .attach (Guard.hasty 9), .call 1 (.sweep ⟨7⟩), .call 1 (.request .dump), .call 1 .describe]
        ⟨[pair], []⟩).All (Part.Within 128) fun _ => True := by
  have only : ∀ t ∈ [pair], t.Given ∧ t.region = pair.region := by
    intro t mem
    obtain rfl := List.mem_singleton.mp mem
    exact ⟨given_pair, rfl⟩
  obtain ⟨-, placed, inside⟩ := Table.accesses_stay_inside
  exact ⟨placed pair given_pair, (inside pair.region [pair] (List.cons_ne_nil _ _) only _).2⟩

end Interprocess
