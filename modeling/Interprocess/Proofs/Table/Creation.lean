import Interprocess.Proofs.Object.Endings
import Interprocess.Proofs.Table.Balance

/-!
# Creations that fail

A creation hands out the lowest free slot and takes it back if the record cannot be set up. To take
it back the guard of the record is claimed once more, and the record is blanked whatever it holds.

A failed creation leaves the table as it was, and tells what made it fail, just if the guard of the
slot could be had and the record was blank, or no slot was free (`Table.Serves.creation_failed`).
Behind a live holder of the guard the slot stays handed out to nobody, and the caller is told of the
guard, whatever was wrong with the object (`leaks_slot_behind_held_guard`).
-/

namespace Interprocess

/-! ## Records whose guard can be had -/

section Records

variable {p : GuardPolicy} {r : Record}

theorem Blueprint.of_setUp_failed {b : Blueprint} {e : SyncError} {r' : Record}
    (valid : p.canClaim = true) (failed : (b.setUp p).result r = (.failed e, r')) :
    r'.contents = r.contents ∧ (p.Gets r'.guard ↔ p.Gets r.guard) ∧
      (¬ p.Gets r.guard → Guard.holderOf r'.guard = Guard.holderOf r.guard) := by
  rw [setUp_result] at failed
  cases first : b.firstState with
  | error e' =>
    rw [first] at failed
    cases failed
    exact ⟨rfl, Iff.rfl, fun _ => rfl⟩
  | ok state =>
    rw [first] at failed
    dsimp only at failed
    by_cases gets : p.Gets r.guard
    · rw [Record.guarded_of_gets gets, Record.setUpBody_run] at failed
      split at failed
      · cases failed
      · cases failed
        exact ⟨rfl, iff_of_true ⟨valid, .inl rfl⟩ gets, absurd gets⟩
    · have barred := Record.guarded_of_not_gets valid gets (Record.setUpBody state)
      rw [failed] at barred
      exact ⟨barred.contents, barred.guard_iff.1, fun _ => barred.guard_iff.2⟩

theorem Record.retire_of_gets (gets : p.Gets r.guard) :
    (retire p).result r = (.value r.contents.kind, .blank) := by
  rw [retire, guarded_of_gets gets]
  rfl

end Records

namespace Table

/-! ## Slots that are handed out and taken back -/

structure LowestFree (t : Table) (m : Words) (slot : UInt32) : Prop where
  inside : slot < t.layout.capacity
  free : t.holds slot m = false
  before : ∀ other, other < slot → t.holds other m = true

section Slots

variable {c : UInt32} {t : Table} {m : Words} {slot : UInt32}

theorem LowestFree.unique {other : UInt32} (h : t.LowestFree m slot) (h' : t.LowestFree m other) :
    slot = other := by
  have least {a b : UInt32} (ha : t.LowestFree m a) (hb : t.LowestFree m b) : ¬ a < b := by
    intro below
    have taken := hb.before a below
    rw [ha.free] at taken
    cases taken
  rw [← UInt32.toNat_inj]
  have first := least h h'
  have second := least h' h
  rw [UInt32.lt_iff_toNat_lt] at first second
  omega

namespace Serves

theorem alloc_lowest (serves : Serves c t) (m : Words) :
    ((∀ slot, slot < t.layout.capacity → t.holds slot m = true) ∧
        t.alloc.result m = (.failed (.tableFull t.layout.capacity), m)) ∨
      ∃ slot, t.LowestFree m slot ∧ t.alloc.result m = (.value slot, withMark c m slot) := by
  have ends := alloc_ends serves.enough m
  generalize t.alloc.result m = ran at ends
  cases ends with
  | full all =>
    refine .inl ⟨fun slot inside => ?_, rfl⟩
    rw [holds_of_lt inside]
    exact all slot.toNat (UInt32.lt_iff_toNat_lt.mp inside)
  | slot slot inside clear before =>
    have number : (UInt32.ofNat slot).toNat = slot :=
      UInt32.toNat_ofNat_of_lt' (Nat.lt_trans inside t.layout.capacity.toNat_lt)
    have small : UInt32.ofNat slot < t.layout.capacity := by
      rw [UInt32.lt_iff_toNat_lt, number]
      exact inside
    refine .inr ⟨UInt32.ofNat slot, ⟨small, ?_, fun other lower => ?_⟩, ?_⟩
    · rw [holds_of_lt small, number]
      exact clear
    · rw [holds_of_lt (UInt32.lt_trans lower small)]
      rw [UInt32.lt_iff_toNat_lt, number] at lower
      exact before other.toNat lower
    · rw [← serves.mark_eq, number]

theorem free_of_holds (serves : Serves c t) (held : t.holds slot m = true) :
    (t.free slot).result m =
      match (Record.retire t.policy).result
        (m.record ((Layout.ofCapacity c).recordIndex slot)) with
      | (.value _, r) =>
        (.value (), withoutMark c (m.setRecord ((Layout.ofCapacity c).recordIndex slot) r) slot)
      | (.failed e, r) => (.failed e, m.setRecord ((Layout.ofCapacity c).recordIndex slot) r)
      | (.blocked, r) => (.blocked, m.setRecord ((Layout.ofCapacity c).recordIndex slot) r) := by
  obtain ⟨inside, set⟩ := serves.holds_iff.mp held
  have retired := serves.onRecord_eq slot (Record.retire t.policy) m
  rw [free_eq, Op.result_drive_of_next (freeStep_check_of_holds held)]
  generalize (Record.retire t.policy).result _ = ran at retired
  obtain ⟨outcome, r⟩ := ran
  cases outcome with
  | value kind =>
    have goesOn : (t.freeStep slot .retire).result m = (.value (.next (.clear kind)),
        m.setRecord ((Layout.ofCapacity c).recordIndex slot) r) :=
      t.freeStep_retire_of retired
    have stays : slotBit c (m.setRecord ((Layout.ofCapacity c).recordIndex slot) r) slot.toNat =
        true := by
      rw [slotBit_setRecord slot r (Layout.wordOf_lt inside), set]
    rw [Op.result_drive_of_next goesOn, Op.result_drive_of_next (serves.freeStep_clear _ stays),
      Op.result_drive_of_answer (freeStep_count t slot _ _), get_allocated_setLong]
    rfl
  | failed e => exact Op.result_drive_of_failed (t.freeStep_retire_of retired) 2
  | blocked => exact Op.result_drive_of_blocked (t.freeStep_retire_of retired) 2

theorem free_of_not_holds (t : Table) (free : t.holds slot m = false) :
    (t.free slot).result m = (.failed (.invalidSlot slot), m) := by
  rw [free_eq]
  exact Op.result_drive_of_failed (freeStep_check_of_not_holds free) 3

theorem free_of_gets (serves : Serves c t) (held : t.holds slot m = true)
    (gets : t.policy.Gets (m.record ((Layout.ofCapacity c).recordIndex slot)).guard) :
    (t.free slot).result m = (.value (),
      withoutMark c (m.setRecord ((Layout.ofCapacity c).recordIndex slot) .blank) slot) := by
  rw [serves.free_of_holds held, Record.retire_of_gets gets]

theorem free_of_not_gets (serves : Serves c t) (held : t.holds slot m = true)
    (without : ¬ t.policy.Gets (m.record ((Layout.ofCapacity c).recordIndex slot)).guard) :
    ∃ r, r.contents = (m.record ((Layout.ofCapacity c).recordIndex slot)).contents ∧
      ((t.policy.timeout = none ∧ (t.free slot).result m =
          (.blocked, m.setRecord ((Layout.ofCapacity c).recordIndex slot) r)) ∨
        ∃ waited, (t.free slot).result m = (.failed (.guardTimeout (Guard.holderOf
            (m.record ((Layout.ofCapacity c).recordIndex slot)).guard) waited),
          m.setRecord ((Layout.ofCapacity c).recordIndex slot) r)) := by
  have freed := serves.free_of_holds held
  have barred := Record.guarded_of_not_gets serves.canClaim without Record.retireBody
  change Record.Barred _ _ ((Record.retire t.policy).result _) at barred
  generalize (Record.retire t.policy).result _ = ran at freed barred
  obtain ⟨outcome, r⟩ := ran
  refine ⟨r, barred.contents, ?_⟩
  rcases barred.ends with ⟨waited, rfl⟩ | ⟨unbounded, rfl⟩
  · exact .inr ⟨waited, freed⟩
  · exact .inl ⟨unbounded, freed⟩

end Serves

end Slots

/-! ## Memories after a creation -/

/-- The second memory has the header and the bitmap of the first, and the contents of all records:
only guards may differ. -/
structure Same (t : Table) (m m' : Words) : Prop where
  header : Header.load m' = Header.load m
  bitmap : ∀ index, index < t.layout.bitmapWords → t.bitmapWord m' index = t.bitmapWord m index
  contents : ∀ slot, (m'.record (t.layout.recordIndex slot)).contents =
    (m.record (t.layout.recordIndex slot)).contents

/-- The same but for the contents of one record. -/
structure SameApart (t : Table) (slot : UInt32) (m m' : Words) : Prop where
  header : Header.load m' = Header.load m
  bitmap : ∀ index, index < t.layout.bitmapWords → t.bitmapWord m' index = t.bitmapWord m index
  contents : ∀ other, other ≠ slot → (m'.record (t.layout.recordIndex other)).contents =
    (m.record (t.layout.recordIndex other)).contents

/-- The second memory has one more slot handed out and counted than the first, and the contents of
all records but that of this slot. -/
structure OneMore (t : Table) (slot : UInt32) (m m' : Words) : Prop where
  header : Header.load m' = { Header.load m with allocated := (Header.load m).allocated + 1 }
  bits : ∀ s, s / 64 < t.layout.bitmapWords →
    t.marked m' s = (decide (s = slot.toNat) || t.marked m s)
  contents : ∀ other, other ≠ slot → (m'.record (t.layout.recordIndex other)).contents =
    (m.record (t.layout.recordIndex other)).contents

section Memories

variable {c : UInt32} {t : Table} {m m' : Words} {slot : UInt32}

theorem SameApart.same (h : t.SameApart slot m m')
    (kept : (m'.record (t.layout.recordIndex slot)).contents =
      (m.record (t.layout.recordIndex slot)).contents) : t.Same m m' where
  header := h.header
  bitmap := h.bitmap
  contents other := by
    by_cases own : other = slot
    · rw [own]
      exact kept
    · exact h.contents other own

namespace Serves

theorem record_putWord (serves : Serves c t) (inside : slot < t.layout.capacity) (word : UInt64)
    (n : UInt32) (other : UInt32) :
    (putWord c m slot word n).record (t.layout.recordIndex other) =
      m.record (t.layout.recordIndex other) := by
  rw [serves.layout] at inside ⊢
  exact Table.record_putWord inside word n other

theorem oneMore_withMark (serves : Serves c t) (inside : slot < t.layout.capacity) :
    t.OneMore slot m (withMark c m slot) where
  header := Header.load_putWord ..
  bits s _ := by
    rw [serves.marked_eq_slotBit, serves.marked_eq_slotBit, slotBit_withMark]
    by_cases own : s = slot.toNat
    · rw [if_pos own, decide_eq_true own, Bool.true_or]
    · rw [if_neg own, decide_eq_false own, Bool.false_or]
  contents other _ := by rw [withMark, serves.record_putWord inside]

theorem oneMore_setRecord (serves : Serves c t) (h : t.OneMore slot m m') (r : Record) :
    t.OneMore slot m (m'.setRecord (t.layout.recordIndex slot) r) where
  header := by rw [serves.layout, Header.load_setRecord, h.header]
  bits s small := by
    rw [← h.bits s small, serves.marked_eq_slotBit, serves.marked_eq_slotBit, serves.layout]
    rw [serves.layout] at small
    exact slotBit_setRecord slot r small
  contents other apart := by
    rw [← h.contents other apart, serves.layout, record_setRecord_of_ne r apart]

theorem sameApart_withoutMark (serves : Serves c t) (free : t.LowestFree m slot)
    (h : t.OneMore slot m m') : t.SameApart slot m (withoutMark c m' slot) where
  header := by
    have counted : m'.get Header.allocatedIndex + (-1) = (Header.load m).allocated := by
      show (Header.load m').allocated + (-1) = _
      rw [h.header, UInt32.add_assoc]
      exact UInt32.add_zero _
    rw [withoutMark, Header.load_putWord, h.header, counted]
  bitmap index small := by
    apply Bitmap.ext
    intro k hk
    have word : (index * 64 + k) / 64 = index := by omega
    have bit : (index * 64 + k) % 64 = k := by omega
    have others := h.bits (index * 64 + k) (by rw [word]; exact small)
    have cleared := slotBit_withoutMark c m' slot (index * 64 + k)
    rw [← serves.marked_eq_slotBit, ← serves.marked_eq_slotBit, others] at cleared
    have same : t.marked (withoutMark c m' slot) (index * 64 + k) =
        t.marked m (index * 64 + k) := by
      by_cases own : index * 64 + k = slot.toNat
      · have clear := free.free
        rw [holds_of_lt free.inside] at clear
        rw [cleared, if_pos own, own, clear]
      · rw [cleared, if_neg own, decide_eq_false own, Bool.false_or]
    rwa [marked, marked, word, bit] at same
  contents other apart := by
    rw [withoutMark, serves.record_putWord free.inside, h.contents other apart]

end Serves

/-- The second memory is the first with one more slot handed out. -/
structure Leaked (t : Table) (slot : UInt32) (m m' : Words) : Prop where
  taken : t.holds slot m' = true
  counted : (Header.load m').allocated = (Header.load m).allocated + 1
  others : ∀ other, other ≠ slot → t.holds other m' = t.holds other m
  contents : ∀ other, (m'.record (t.layout.recordIndex other)).contents =
    (m.record (t.layout.recordIndex other)).contents

theorem Serves.leaked (serves : Serves c t) (inside : slot < t.layout.capacity)
    (h : t.OneMore slot m m') (kept : (m'.record (t.layout.recordIndex slot)).contents =
      (m.record (t.layout.recordIndex slot)).contents) : t.Leaked slot m m' := by
  have bits (other : UInt32) (small : other < t.layout.capacity) :
      t.holds other m' = (decide (other.toNat = slot.toNat) || t.holds other m) := by
    have word : other.toNat / 64 < t.layout.bitmapWords := by
      rw [serves.layout] at small ⊢
      exact Layout.wordOf_lt small
    rw [holds_of_lt small, holds_of_lt small, h.bits other.toNat word]
  refine ⟨?_, ?_, fun other apart => ?_, fun other => ?_⟩
  · rw [bits slot inside, decide_eq_true rfl, Bool.true_or]
  · rw [h.header]
  · by_cases small : other < t.layout.capacity
    · have number : other.toNat ≠ slot.toNat := fun same => apart (UInt32.toNat_inj.mp same)
      rw [bits other small, decide_eq_false number, Bool.false_or]
    · rw [holds, holds, decide_eq_false small, Bool.false_and, Bool.false_and]
  · by_cases own : other = slot
    · rw [own, kept]
    · exact h.contents other own

end Memories

/-! ## How a creation fails -/

def Reaches (t : Table) (m : Words) (slot : UInt32) : Prop :=
  t.policy.Gets (m.record (t.layout.recordIndex slot)).guard

/-- What can make a creation fail: no slot is free, or the record of the lowest cannot be set up. -/
inductive Hinders (t : Table) (m : Words) (b : Blueprint) : SyncError → Prop where
  | full (all : ∀ slot, slot < t.layout.capacity → t.holds slot m = true) :
      t.Hinders m b (.tableFull t.layout.capacity)
  | setUp {slot : UInt32} (free : t.LowestFree m slot) {e : SyncError} {r : Record}
      (failed : (b.setUp t.policy).result (m.record (t.layout.recordIndex slot)) =
        (.failed e, r)) : t.Hinders m b e

/-- How a creation can fail, and the memory that it leaves. -/
inductive Fails (t : Table) (m : Words) (b : Blueprint) : SyncError → Words → Prop where
  | full (all : ∀ slot, slot < t.layout.capacity → t.holds slot m = true) :
      t.Fails m b (.tableFull t.layout.capacity) m
  /-- The slot was taken back, and its record blanked. -/
  | takenBack {slot : UInt32} (free : t.LowestFree m slot) (reaches : t.Reaches m slot)
      {e : SyncError} (hinders : t.Hinders m b e) {m' : Words} (same : t.SameApart slot m m')
      (blank : (m'.record (t.layout.recordIndex slot)).contents = .blank) : t.Fails m b e m'
  /-- The slot could not be taken back behind a live holder of its guard. -/
  | leaked {slot : UInt32} (free : t.LowestFree m slot) (without : ¬ t.Reaches m slot)
      {m' : Words} (leaked : t.Leaked slot m m') (waited : Duration) :
      t.Fails m b (.guardTimeout
        (Guard.holderOf (m.record (t.layout.recordIndex slot)).guard) waited) m'

namespace Serves

variable {c : UInt32} {t : Table} {m m' : Words} {slot : UInt32} {b : Blueprint} {e : SyncError}

theorem alloc_of_lowestFree (serves : Serves c t) (free : t.LowestFree m slot) :
    t.alloc.result m = (.value slot, withMark c m slot) := by
  rcases serves.alloc_lowest m with ⟨all, -⟩ | ⟨slot', free', ran⟩
  · have taken := all slot free.inside
    rw [free.free] at taken
    cases taken
  · rw [free.unique free']
    exact ran

/-- A creation whose record cannot be set up fails, or waits for the guard without a limit. -/
theorem createWith_of_setUp_failed (serves : Serves c t) (free : t.LowestFree m slot)
    {r : Record} (failed : (b.setUp t.policy).result (m.record (t.layout.recordIndex slot)) =
      (.failed e, r)) :
    (∃ e' m', t.Fails m b e' m' ∧
        (t.createWith fun p => b.setUp p).result m = (.failed e', m')) ∨
      (t.policy.timeout = none ∧
        ((t.createWith fun p => b.setUp p).result m).1 = .blocked) := by
  obtain ⟨kept, gets, holder⟩ := Blueprint.of_setUp_failed serves.canClaim failed
  let m₂ := (withMark c m slot).setRecord (t.layout.recordIndex slot) r
  have stored : t.OneMore slot m m₂ :=
    serves.oneMore_setRecord (serves.oneMore_withMark free.inside) r
  have record : m₂.record (t.layout.recordIndex slot) = r := Words.record_setRecord_self ..
  have held : t.holds slot m₂ = true :=
    (serves.leaked free.inside stored (by rw [record, kept])).taken
  have made : (t.onRecord slot (b.setUp t.policy)).result (withMark c m slot) =
      (.failed e, m₂) := by
    rw [serves.onRecord_eq, ← serves.layout, withMark, serves.record_putWord free.inside, failed]
    rfl
  rw [createWith_eq, Op.result_bind_of_value (serves.alloc_of_lowestFree free),
    Op.result_bind_of_value (Op.result_attempt_of_failed made)]
  by_cases reaches : t.Reaches m slot
  · have freed := serves.free_of_gets held (by rwa [← serves.layout, record, gets])
    have same := serves.sameApart_withoutMark free (serves.oneMore_setRecord stored .blank)
    rw [← serves.layout] at freed
    refine .inl ⟨e, _, .takenBack free reaches (.setUp free failed) same ?_,
      Op.result_bind_of_value freed _⟩
    rw [withoutMark, serves.record_putWord free.inside, Words.record_setRecord_self]
    rfl
  · obtain ⟨r', same, ends⟩ :=
      serves.free_of_not_gets held (by rwa [← serves.layout, record, gets])
    rw [← serves.layout, record] at same ends
    rcases ends with ⟨unbounded, waits⟩ | ⟨waited, gaveUp⟩
    · exact .inr ⟨unbounded, congrArg Prod.fst (Op.result_bind_of_blocked waits _)⟩
    · rw [holder reaches] at gaveUp
      refine .inl ⟨_, _, .leaked free reaches (serves.leaked free.inside
        (serves.oneMore_setRecord stored r') ?_) waited, Op.result_bind_of_failed gaveUp _⟩
      rw [Words.record_setRecord_self, same, kept]

theorem createWith_fails (serves : Serves c t)
    (failed : (t.createWith fun p => b.setUp p).result m = (.failed e, m')) :
    t.Fails m b e m' := by
  rcases serves.alloc_lowest m with ⟨all, ran⟩ | ⟨slot, free, ran⟩
  · rw [createWith_eq, Op.result_bind_of_failed ran] at failed
    cases failed
    exact .full all
  · cases setUp : (b.setUp t.policy).result (m.record (t.layout.recordIndex slot)) with
    | mk outcome r =>
      have made : (t.onRecord slot (b.setUp t.policy)).result (withMark c m slot) =
          (outcome, (withMark c m slot).setRecord (t.layout.recordIndex slot) r) := by
        rw [serves.onRecord_eq, ← serves.layout, withMark, serves.record_putWord free.inside, setUp]
      cases outcome with
      | value _ =>
        rw [createWith_eq, Op.result_bind_of_value ran,
          Op.result_bind_of_value (Op.result_attempt_of_value made)] at failed
        cases failed
      | blocked =>
        rw [createWith_eq, Op.result_bind_of_value ran,
          Op.result_bind_of_blocked (Op.result_attempt_of_blocked made)] at failed
        cases failed
      | failed e₁ =>
        rcases serves.createWith_of_setUp_failed free setUp with ⟨e', m₁, fails, ends⟩ | ⟨-, ends⟩
        · rw [failed] at ends
          cases ends
          exact fails
        · rw [failed] at ends
          cases ends

end Serves

/-- What a failed creation leaves of a table, and what it tells. -/
structure CreationFailed (t : Table) (m : Words) (b : Blueprint) (e : SyncError) (m' : Words) :
    Prop where
  /-- The table is as it was and the error is the one that made the creation fail, just if nothing
  is free, or the guard of the lowest free slot can be had and its record is blank. -/
  undone : (t.Same m m' ∧ t.Hinders m b e) ↔ ∀ slot, t.LowestFree m slot → t.Reaches m slot ∧
    (m.record (t.layout.recordIndex slot)).contents = .blank
  /-- If the guard can be had, all that may be lost is what the record of the free slot held. -/
  takenBack : ∀ slot, t.LowestFree m slot → t.Reaches m slot →
    t.Hinders m b e ∧ t.SameApart slot m m' ∧
      (m'.record (t.layout.recordIndex slot)).contents = .blank
  /-- If it cannot, the slot stays handed out, and the error tells of the guard. -/
  leaked : ∀ slot, t.LowestFree m slot → ¬ t.Reaches m slot → t.Leaked slot m m' ∧
    ∃ waited, e = .guardTimeout
      (Guard.holderOf (m.record (t.layout.recordIndex slot)).guard) waited

namespace Serves

variable {c : UInt32} {t : Table} {m m' : Words} {slot : UInt32} {b : Blueprint} {e : SyncError}

theorem creation_failed (serves : Serves c t)
    (failed : (t.createWith fun p => b.setUp p).result m = (.failed e, m')) :
    t.CreationFailed m b e m' := by
  cases serves.createWith_fails failed with
  | full all =>
    have none (slot : UInt32) : ¬ t.LowestFree m slot := by
      intro free
      have taken := all slot free.inside
      rw [free.free] at taken
      cases taken
    exact ⟨iff_of_true ⟨⟨rfl, fun _ _ => rfl, fun _ => rfl⟩, .full all⟩
      fun slot free => absurd free (none slot), fun slot free => absurd free (none slot),
      fun slot free => absurd free (none slot)⟩
  | @takenBack slot free reaches _ hinders _ same blank =>
    refine ⟨⟨fun undone other other_free => ?_, fun clean => ?_⟩, fun other other_free _ => ?_,
      fun other other_free without => ?_⟩
    · obtain rfl := free.unique other_free
      exact ⟨reaches, (undone.1.contents slot).symm.trans blank⟩
    · exact ⟨same.same (blank.trans (clean slot free).2.symm), hinders⟩
    · obtain rfl := free.unique other_free
      exact ⟨hinders, same, blank⟩
    · obtain rfl := free.unique other_free
      exact absurd reaches without
  | @leaked slot free without _ leaked waited =>
    refine ⟨iff_of_false ?_ fun clean => without (clean slot free).1,
      fun other other_free reaches => ?_, fun other other_free _ => ?_⟩
    · rintro ⟨same, -⟩
      have taken := leaked.taken
      have word : wordOf slot < t.layout.bitmapWords := by
        have inside := free.inside
        rw [serves.layout] at inside ⊢
        exact Layout.wordOf_lt inside
      rw [holds, same.bitmap _ word] at taken
      have clear := free.free
      rw [holds, taken] at clear
      cases clear
    · obtain rfl := free.unique other_free
      exact absurd reaches without
    · obtain rfl := free.unique other_free
      exact ⟨leaked, waited, rfl⟩

end Serves

/-- A handle on a table with so many slots that gives up at once on guards that others hold. -/
def bare (c : UInt32) : Table := ⟨default, Layout.ofCapacity c, Guard.hasty 7⟩

theorem serves_bare (c : UInt32) : Serves c (bare c) :=
  ⟨rfl, show (Guard.hasty 7).validate = .ok () from rfl⟩

/-- A semaphore that makes no sense leaves a new table as it is. -/
theorem bad_semaphore_leaves_table :
    ∃ e m', ((bare 2).createSemaphore 3 2).result (layOut (Layout.ofCapacity 2) Words.zero) =
        (.failed e, m') ∧
      (bare 2).CreationFailed (layOut (Layout.ofCapacity 2) Words.zero) (.semaphore 3 2) e m' ∧
      (bare 2).Same (layOut (Layout.ofCapacity 2) Words.zero) m' := by
  obtain ⟨m', ran, -⟩ := (serves_bare 2).create_refines (.semaphore 3 2) _ .empty
    (represents_layOut 2 Words.zero)
  have failed := (serves_bare 2).creation_failed ran
  refine ⟨_, m', ran, failed, (failed.undone.mpr fun slot free => ?_).1⟩
  have record : (layOut (Layout.ofCapacity 2) Words.zero).record
      ((bare 2).layout.recordIndex slot) = .blank := record_layOut 2 Words.zero free.inside
  rw [Reaches, record]
  exact ⟨⟨rfl, .inl rfl⟩, rfl⟩

/-- A mutex is made and taken back, and somebody who still knows its record takes the guard. The
next mutex is to belong to nobody: the caller is told to wait for the guard, and not of that, and
the slot stays handed out. -/
theorem leaks_slot_behind_held_guard :
    ∃ m₁ m₂ m₃ m₄ waited,
      ((bare 1).createMutex none).result (layOut (Layout.ofCapacity 1) Words.zero) =
        (.value 0, m₁) ∧
      ((bare 1).free 0).result m₁ = (.value (), m₂) ∧
      ((bare 1).onRecord 0 (Record.tryClaim (Guard.hasty 9))).result m₂ = (.value true, m₃) ∧
      ((bare 1).createMutex (some .none)).result m₃ = (.failed (.guardTimeout 9 waited), m₄) ∧
      (bare 1).Hinders m₃ (.mutex (some .none)) Mutex.sentinelError ∧
      (bare 1).Leaked 0 m₃ m₄ := by
  have serves := serves_bare 1
  obtain ⟨m₁, made, h₁⟩ :=
    serves.create_refines (.mutex none) _ .empty (represents_layOut 1 Words.zero)
  obtain ⟨m₂, freed, h₂⟩ := serves.free_refines 0 m₁ _ h₁
  let m₃ := m₂.setRecord ((Layout.ofCapacity 1).recordIndex 0) ⟨9, .blank⟩
  have blank : m₂.record ((Layout.ofCapacity 1).recordIndex 0) = .blank :=
    h₂.records 0 (by decide)
  have claimed : ((bare 1).onRecord 0 (Record.tryClaim (Guard.hasty 9))).result m₂ =
      (.value true, m₃) := by
    rw [serves.onRecord_eq, blank]
    rfl
  have clear : (bare 1).holds 0 m₂ = false := serves.holds_eq h₂ 0
  have bits : slotBit 1 m₃ 0 = slotBit 1 m₂ 0 := slotBit_setRecord 0 _ (by decide)
  have free : (bare 1).LowestFree m₃ 0 := by
    refine ⟨by decide, ?_, fun other below => absurd below UInt32.not_lt_zero⟩
    rw [Bool.eq_false_iff, Ne, serves.holds_iff] at clear ⊢
    rwa [UInt32.toNat_zero, bits]
  have guard : m₃.record ((bare 1).layout.recordIndex 0) = ⟨9, .blank⟩ :=
    Words.record_setRecord_self ..
  have refused : (Blueprint.setUp (bare 1).policy (.mutex (some .none))).result
      (m₃.record ((bare 1).layout.recordIndex 0)) =
        (.failed Mutex.sentinelError, m₃.record ((bare 1).layout.recordIndex 0)) := rfl
  have without : ¬ (bare 1).Reaches m₃ 0 := by
    rw [Reaches, guard]
    exact GuardPolicy.not_gets_of_alive (by decide) rfl
  obtain ⟨e, m₄, fails, ends⟩ | ⟨unbounded, -⟩ := serves.createWith_of_setUp_failed free refused
  · cases fails with
    | full all =>
      have taken := all 0 free.inside
      rw [free.free] at taken
      cases taken
    | takenBack free' reaches =>
      obtain rfl := free.unique free'
      exact absurd reaches without
    | leaked free' _ leaked waited =>
      obtain rfl := free.unique free'
      rw [guard] at ends
      exact ⟨m₁, m₂, m₃, m₄, waited, made, freed, claimed, ends, .setUp free refused, leaked⟩
  · cases unbounded

end Table

end Interprocess
