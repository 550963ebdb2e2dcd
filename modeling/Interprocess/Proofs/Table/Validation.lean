import Interprocess.Proofs.Table.Bitmap
import Interprocess.Proofs.Table.Usage

/-!
# A header says where the parts of its table lie

A header is accepted just if it is what a table of some capacity is given, and the region is large
enough for that table (`Header.validate_eq_ok_iff`). The offsets are stored in words of 32 bits and
computed in words of 64 bits; neither loses anything, for any capacity (`Layout.offsets_fit`,
`WordLayout.toLayout_ofCapacity`). Whoever attaches to a table therefore finds each word of the
bitmap and each record where whoever made the table put it (`header_tells_where_parts_lie`).
-/

namespace Interprocess

/-! ## Layouts in words of 64 bits -/

/-- A layout whose offsets are words of 64 bits. -/
structure WordLayout where
  capacity : UInt32
  bitmapOffset : UInt64
  bitmapWords : UInt64
  slotsOffset : UInt64
  totalSize : UInt64

namespace WordLayout

/-- The layout of a table with so many slots, with sums and products that may wrap around and with
an offset that is rounded up by a mask. -/
def ofCapacity (capacity : UInt32) : WordLayout :=
  let bitmapWords := (capacity.toUInt64 + 63) / 64
  let bitmapEnd := 32 + bitmapWords * 8
  let slotsOffset := (bitmapEnd + (64 - 1)) &&& ~~~(64 - 1)
  { capacity := capacity
    bitmapOffset := 32
    bitmapWords := bitmapWords
    slotsOffset := slotsOffset
    totalSize := slotsOffset + capacity.toUInt64 * 20 }

def toLayout (l : WordLayout) : Layout where
  capacity := l.capacity
  bitmapOffset := l.bitmapOffset.toNat
  bitmapWords := l.bitmapWords.toNat
  slotsOffset := l.slotsOffset.toNat
  totalSize := l.totalSize.toNat

theorem isSet_sixtyThree (k : Nat) : Bitmap.isSet 63 k = decide (k < 6) :=
  Nat.testBit_two_pow_sub_one 6 k

theorem toNat_and_not_sixtyThree (n : UInt64) : (n &&& ~~~63).toNat = n.toNat / 64 * 64 := by
  have small : n.toNat / 64 * 64 < 2 ^ 64 :=
    Nat.lt_of_le_of_lt (Nat.div_mul_le_self _ _) n.toNat_lt
  have rounded : n &&& ~~~63 = UInt64.ofNat (n.toNat / 64 * 64) := by
    refine Bitmap.ext fun k hk => ?_
    rw [Bitmap.isSet_and, Bitmap.isSet_not _ hk, isSet_sixtyThree, Bitmap.isSet_eq_testBit,
      Bitmap.isSet_eq_testBit, UInt64.toNat_ofNat_of_lt' small, show (64 : Nat) = 2 ^ 6 from rfl,
      Nat.testBit_mul_two_pow, Nat.testBit_div_two_pow]
    by_cases high : 6 ≤ k
    · simp [high]
    · simp [high, Nat.not_le.mp high]
  rw [rounded, UInt64.toNat_ofNat_of_lt' small]

/-- No sum and no product wraps around. -/
theorem toLayout_ofCapacity (c : UInt32) : (ofCapacity c).toLayout = Layout.ofCapacity c := by
  have bounded := c.toNat_lt
  have words : ((c.toUInt64 + 63) / 64).toNat = (c.toNat + 63) / 64 := by
    rw [UInt64.toNat_div, UInt64.toNat_add, UInt32.toNat_toUInt64]
    exact congrArg (· / 64) (Nat.mod_eq_of_lt (show c.toNat + 63 < 2 ^ 64 by omega))
  have slots : (32 + (c.toUInt64 + 63) / 64 * 8 + (64 - 1) &&& ~~~(64 - 1)).toNat =
      roundUp slotAlignment (headerSize + (c.toNat + 63) / 64 * 8) := by
    have sum : (32 + (c.toUInt64 + 63) / 64 * 8 + 63).toNat =
        32 + (c.toNat + 63) / 64 * 8 + 63 := by
      rw [UInt64.toNat_add, UInt64.toNat_add, UInt64.toNat_mul, words]
      simp
      omega
    rw [show (64 - 1 : UInt64) = 63 from rfl, toNat_and_not_sixtyThree, sum]
    rfl
  have total : (ofCapacity c).totalSize.toNat = (Layout.ofCapacity c).totalSize := by
    have product : (c.toUInt64 * 20).toNat = c.toNat * 20 := by
      rw [UInt64.toNat_mul, UInt32.toNat_toUInt64]
      exact Nat.mod_eq_of_lt (show c.toNat * 20 < 2 ^ 64 by omega)
    simp only [ofCapacity, UInt64.toNat_add, slots, product]
    simp only [Layout.ofCapacity, roundUp, slotAlignment, headerSize, Record.size]
    omega
  rw [toLayout, total]
  simp only [ofCapacity, slots, words]
  rfl

end WordLayout

/-! ## Headers that are accepted -/

/-- A header that is what a table of a capacity is given, whatever stood there before, except that
some slots may be handed out since. -/
def Header.WrittenFor (h : Header) (c : UInt32) : Prop :=
  ∀ old : Header,
    { (old.prepare (Layout.ofCapacity c)).publish with allocated := h.allocated } = h

namespace Header

variable {h : Header} {c n : UInt32} {size : Nat} {l : Layout}

theorem writtenFor_iff : h.WrittenFor c ↔ h = ofTable c h.allocated :=
  ⟨fun written => (written default).symm, fun same _ => same.symm⟩

theorem writtenFor_ofTable (c n : UInt32) : (ofTable c n).WrittenFor c := fun _ => rfl

theorem WrittenFor.capacity (written : h.WrittenFor c) : h.capacity = c := by
  rw [← written default]
  rfl

theorem WrittenFor.offsets (written : h.WrittenFor c) :
    h.bitmapOffset.toNat = (Layout.ofCapacity c).bitmapOffset ∧
      h.slotsOffset.toNat = (Layout.ofCapacity c).slotsOffset := by
  rw [← written default]
  exact Layout.offsets_fit c

theorem writtenFor_of_validate (accepted : h.validate size = .ok l) :
    h.WrittenFor h.capacity ∧ (Layout.ofCapacity h.capacity).totalSize ≤ size ∧
      l = Layout.ofCapacity h.capacity := by
  unfold validate at accepted
  split at accepted
  · cases accepted
  rename_i magic
  split at accepted
  · cases accepted
  rename_i version
  split at accepted
  · cases accepted
  rename_i recordSize
  dsimp only at accepted
  split at accepted
  · cases accepted
  rename_i offsets
  split at accepted
  · cases accepted
  rename_i room
  obtain ⟨bitmap, slots⟩ := not_or.mp offsets
  have words : h.recordSize = UInt32.ofNat Record.size :=
    UInt32.toNat_inj.mp (not_not.mp recordSize)
  have fields : h = ofTable h.capacity h.allocated := by
    obtain ⟨fitBitmap, fitSlots⟩ := Layout.offsets_fit h.capacity
    have bitmapOffset : h.bitmapOffset = UInt32.ofNat (Layout.ofCapacity h.capacity).bitmapOffset :=
      UInt32.toNat_inj.mp (fitBitmap.trans (not_not.mp bitmap)).symm
    have slotsOffset : h.slotsOffset = UInt32.ofNat (Layout.ofCapacity h.capacity).slotsOffset :=
      UInt32.toNat_inj.mp (fitSlots.trans (not_not.mp slots)).symm
    calc h = ⟨h.magic, h.version, h.capacity, h.recordSize, h.allocated, h.bitmapOffset,
          h.slotsOffset⟩ := rfl
      _ = ofTable h.capacity h.allocated := by
        rw [not_not.mp magic, not_not.mp version, words, bitmapOffset, slotsOffset]
        rfl
  exact ⟨writtenFor_iff.mpr fields, Nat.not_lt.mp room, (Except.ok.inj accepted).symm⟩

theorem validate_eq_ok_iff :
    h.validate size = .ok l ↔
      ∃ c, h.WrittenFor c ∧ (Layout.ofCapacity c).totalSize ≤ size ∧ l = Layout.ofCapacity c := by
  constructor
  · intro accepted
    exact ⟨h.capacity, writtenFor_of_validate accepted⟩
  · rintro ⟨c, written, room, rfl⟩
    rw [writtenFor_iff.mp written]
    exact validate_ofTable room

end Header

/-! ## Handles that agree -/

/-- Two handles that find the same words of the bitmap, of them the same bits, and the same record
of every slot. -/
structure Table.SameParts (t t' : Table) : Prop where
  capacity : t.capacity = t'.capacity
  words : t.layout.bitmapWords = t'.layout.bitmapWords
  bitmap : ∀ index, t.layout.bitmapIndex index = t'.layout.bitmapIndex index
  mask : ∀ index, t.mask index = t'.mask index
  record : ∀ slot, t.layout.recordIndex slot = t'.layout.recordIndex slot

theorem Table.sameParts_of_layout {t t' : Table} (same : t.layout = t'.layout) :
    Table.SameParts t t' := by
  obtain ⟨region, layout, policy⟩ := t
  obtain rfl : layout = t'.layout := same
  exact ⟨rfl, rfl, fun _ => rfl, fun _ => rfl, fun _ => rfl⟩

section Attaching

variable {c n : UInt32} {m : Words} (region : Region) (p : GuardPolicy)

theorem Table.of_attach {t : Table} {m' : Words}
    (attached : (Table.attach region p).result m = (.value t, m')) :
    p.validate = .ok () ∧
      ∃ l, (Header.load m).validate region.size = .ok l ∧ t = ⟨region, l, p⟩ := by
  rw [Table.attach_looks] at attached
  cases valid : p.validate with
  | error e =>
    rw [valid] at attached
    cases attached
  | ok _ =>
    cases accepted : (Header.load m).validate region.size with
    | error e =>
      rw [valid, accepted] at attached
      cases attached
    | ok l =>
      rw [valid, accepted] at attached
      cases attached
      exact ⟨rfl, l, rfl, rfl⟩

theorem Table.attach_of_small (header : Header.load m = Header.ofTable c n)
    (small : ¬ (Layout.ofCapacity c).totalSize ≤ region.size) (t : Table) (m' : Words) :
    (Table.attach region p).result m ≠ (.value t, m') := by
  intro attached
  obtain ⟨-, l, accepted, -⟩ := Table.of_attach region p attached
  rw [header] at accepted
  exact small (Header.writtenFor_of_validate accepted).2.1

/-- Attaching refuses a policy that cannot be followed and a region that is too small, and nothing
else. -/
theorem Table.attach_eq_value_iff (header : Header.load m = Header.ofTable c n) (t : Table)
    (m' : Words) :
    (Table.attach region p).result m = (.value t, m') ↔
      p.validate = .ok () ∧ (Layout.ofCapacity c).totalSize ≤ region.size ∧
        t = ⟨region, Layout.ofCapacity c, p⟩ ∧ m' = m := by
  constructor
  · intro attached
    have room : (Layout.ofCapacity c).totalSize ≤ region.size := by
      by_contra small
      exact Table.attach_of_small region p header small t m' attached
    rw [Table.attach_result header room] at attached
    cases valid : p.validate with
    | error e =>
      rw [valid] at attached
      cases attached
    | ok _ =>
      rw [valid] at attached
      cases attached
      exact ⟨rfl, room, rfl, rfl⟩
  · rintro ⟨valid, room, rfl, rfl⟩
    rw [Table.attach_result header room, valid]

end Attaching

theorem Session.inOrder_of_create {region : Region} {settings : TableSettings} {m m₀ : Words}
    {t₀ : Table} (made : (Table.create region settings).result m = (.value t₀, m₀))
    (actions : List Action) :
    t₀.layout = settings.layout ∧
      (Session.acts region ⟨m₀, [t₀], []⟩ actions).InOrder settings.capacity := by
  obtain ⟨valid, fits⟩ := Table.of_create made
  rw [Table.create_result valid fits] at made
  cases made
  have start : Session.InOrder settings.capacity
      ⟨Table.layOut settings.layout m, [⟨region, settings.layout, settings.guard⟩], []⟩ :=
    ⟨Table.accounts_layOut settings.capacity m, (Stands.start region valid m).serve, nofun⟩
  exact ⟨rfl, start.acts fits actions⟩

/-- A header is accepted for a region just if, up to the number of slots handed out, it is what a
table of some capacity is given and the table fits into the region; the layout is then the one of
that capacity, which is the one in the header. Words of 32 bits hold the offsets of every capacity,
and words of 64 bits all sums that lead to them. So from the moment that a table is made, whatever
is done to it, whoever attaches to it, in any region that shows its memory, gets the parts that the
maker of the table has, at the offsets that the header tells; and only a policy that cannot be
followed or a region that is too small is refused. -/
theorem header_tells_where_parts_lie :
    (∀ (h : Header) (size : Nat) (l : Layout),
      h.validate size = .ok l ↔
        ∃ c, h.WrittenFor c ∧ (Layout.ofCapacity c).totalSize ≤ size ∧ l = Layout.ofCapacity c ∧
          c = h.capacity) ∧
    (∀ c : UInt32, (WordLayout.ofCapacity c).toLayout = Layout.ofCapacity c ∧
      (UInt32.ofNat (Layout.ofCapacity c).bitmapOffset).toNat = (Layout.ofCapacity c).bitmapOffset ∧
      (UInt32.ofNat (Layout.ofCapacity c).slotsOffset).toNat = (Layout.ofCapacity c).slotsOffset) ∧
    ∀ (region : Region) (settings : TableSettings) (m m₀ : Words) (t₀ : Table),
      (Table.create region settings).result m = (.value t₀, m₀) →
      ∀ actions : List Action,
        let now := (Session.acts region ⟨m₀, [t₀], []⟩ actions).memory
        ((Header.load now).bitmapOffset.toNat = t₀.layout.bitmapOffset ∧
          (Header.load now).slotsOffset.toNat = t₀.layout.slotsOffset) ∧
        ∀ (region' : Region) (p : GuardPolicy),
          ((p.validate = .ok () ∧ t₀.layout.totalSize ≤ region'.size) ↔
            ∃ t, (Table.attach region' p).result now = (.value t, now)) ∧
          ∀ t now', (Table.attach region' p).result now = (.value t, now') →
            Table.SameParts t t₀ ∧ now' = now := by
  refine ⟨fun h size l => ?_, fun c => ⟨WordLayout.toLayout_ofCapacity c, Layout.offsets_fit c⟩,
    fun region settings m m₀ t₀ made actions => ?_⟩
  · rw [Header.validate_eq_ok_iff]
    constructor
    · rintro ⟨c, written, room, same⟩
      exact ⟨c, written, room, same, written.capacity.symm⟩
    · rintro ⟨c, written, room, same, -⟩
      exact ⟨c, written, room, same⟩
  · intro now
    obtain ⟨layout, order⟩ := Session.inOrder_of_create made actions
    have header : Header.load now = Header.ofTable settings.capacity _ := order.accounts.header
    have attached := fun region' p => Table.attach_eq_value_iff region' p header
    rw [layout]
    refine ⟨?_, fun region' p => ⟨⟨fun ⟨valid, room⟩ => ?_, ?_⟩, fun t now' found => ?_⟩⟩
    · rw [header]
      exact (Header.writtenFor_ofTable _ _).offsets
    · exact ⟨_, (attached region' p _ _).mpr ⟨valid, room, rfl, rfl⟩⟩
    · rintro ⟨t, found⟩
      obtain ⟨valid, room, -, -⟩ := (attached region' p _ _).mp found
      exact ⟨valid, room⟩
    · obtain ⟨-, -, rfl, same⟩ := (attached region' p _ _).mp found
      exact ⟨Table.sameParts_of_layout layout.symm, same⟩

/-- The largest table, with an event in it and somebody at the guard of its last record, is seen
through a region of another size, and not through one that lacks its last byte. -/
theorem largest_table_is_attached :
    let region (size : Nat) : Region := { (default : Region) with size := size }
    let actions : List Action :=
      [.request (.call 0 (.createEvent false true)), .deed 0 (.hold 4294967294 9)]
    ∃ (t₀ : Table) (m₀ : Words),
      (Table.create (region 90000000000) ⟨4294967295, Guard.impatient 7⟩).result Words.zero =
        (.value t₀, m₀) ∧
      let now := (Session.acts (region 90000000000) ⟨m₀, [t₀], []⟩ actions).memory
      (∃ t, (Table.attach (region 86436216876) (Guard.impatient 9)).result now = (.value t, now) ∧
        Table.SameParts t t₀) ∧
      ¬ ∃ t, (Table.attach (region 86436216875) (Guard.impatient 9)).result now =
        (.value t, now) := by
  intro region actions
  have made : (Table.create (region 90000000000) ⟨4294967295, Guard.impatient 7⟩).result
      Words.zero = (.value ⟨_, _, _⟩, _) := Table.create_result rfl (by decide) Words.zero
  obtain ⟨-, seen⟩ := header_tells_where_parts_lie.2.2 _ _ _ _ _ made actions
  obtain ⟨attaches, agrees⟩ := seen (region 86436216876) (Guard.impatient 9)
  obtain ⟨t, attached⟩ := attaches.mp ⟨rfl, by decide⟩
  refine ⟨_, _, made, ⟨t, attached, (agrees t _ attached).1⟩, fun found => ?_⟩
  have room := ((seen (region 86436216875) (Guard.impatient 9)).1.mpr found).2
  exact absurd room (by decide)

end Interprocess
