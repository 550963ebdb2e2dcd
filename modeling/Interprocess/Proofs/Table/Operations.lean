import Interprocess.Proofs.Table.Allocation
import Interprocess.Proofs.Table.Represents
import Interprocess.Table.Objects

/-!
# Operations of tables do what they do to maps

Each operation of a handle, on a memory that represents a map, answers as its counterpart on the map
and leaves a memory that represents the map after it.
-/

namespace Interprocess

/-- A handle on a table with so many slots, with a policy that can be followed. -/
structure Table.Serves (c : UInt32) (t : Table) : Prop where
  layout : t.layout = Layout.ofCapacity c
  policy : t.policy.validate = .ok ()

/-- An operation on a memory does what a specification says of the map. -/
def Refines {c : UInt32} {α : Type} (op : Op Words α)
    (spec : ObjectMap c → Except SyncError α × ObjectMap c) : Prop :=
  ∀ m o, Represents m o →
    ∃ m', op.result m = (.ofExcept (spec o).1, m') ∧ Represents m' (spec o).2

namespace Table

variable {c : UInt32} {t : Table} {m : Words} {o : ObjectMap c} {slot : UInt32}

namespace Serves

/-! ## What is read -/

theorem canClaim (serves : Serves c t) : t.policy.canClaim = true :=
  GuardPolicy.canClaim_of_validate serves.policy

theorem capacity (serves : Serves c t) : t.capacity = c.toNat := by
  rw [Table.capacity, serves.layout]
  rfl

theorem enough (serves : Serves c t) : t.capacity ≤ t.layout.bitmapWords * 64 := by
  rw [serves.capacity, serves.layout, Layout.bitmapWords_ofCapacity]
  omega

theorem holds_eq (serves : Serves c t) (h : Represents m o) (slot : UInt32) :
    t.holds slot m = o.holds slot := by
  by_cases inside : slot < c
  · have limit : slot < t.layout.capacity := by
      rw [serves.layout]
      exact inside
    rw [Table.holds, decide_eq_true limit, Bool.true_and, bitmapWord, serves.layout,
      h.bits slot inside]
  · have limit : ¬ slot < t.layout.capacity := by
      rw [serves.layout]
      exact inside
    have outside : o.holds slot = false := by
      cases held : o.holds slot with
      | true => exact absurd (ObjectMap.lt_of_holds held) inside
      | false => rfl
    rw [Table.holds, decide_eq_false limit, Bool.false_and, outside]

theorem marked_eq_slotBit (serves : Serves c t) (m : Words) : t.marked m = slotBit c m := by
  funext slot
  rw [marked, bitmapWord, serves.layout, slotBit]

theorem marked_eq (serves : Serves c t) (h : Represents m o) {slot : Nat}
    (inside : slot < c.toNat) : t.marked m slot = o.holds (UInt32.ofNat slot) := by
  have number : (UInt32.ofNat slot).toNat = slot :=
    UInt32.toNat_ofNat_of_lt' (Nat.lt_trans inside c.toNat_lt)
  have bit := h.bits (UInt32.ofNat slot) (by rwa [UInt32.lt_iff_toNat_lt, number])
  rw [wordOf, bitOf, number] at bit
  rw [serves.marked_eq_slotBit, slotBit, bit]

theorem slots_eq_filter (serves : Serves c t) (m : Words) :
    t.slots m = (ObjectMap.all c).filter fun slot => t.holds slot m := by
  have marks : ∀ slot ∈ List.range c.toNat,
      t.marked m slot = ((fun slot => t.holds slot m) ∘ UInt32.ofNat) slot := by
    intro slot mem
    have inside := List.mem_range.mp mem
    have number : (UInt32.ofNat slot).toNat = slot :=
      UInt32.toNat_ofNat_of_lt' (Nat.lt_trans inside c.toNat_lt)
    have limit : UInt32.ofNat slot < t.layout.capacity := by
      rw [UInt32.lt_iff_toNat_lt, number, serves.layout]
      exact inside
    rw [Function.comp, Table.holds_of_lt limit, number]
  rw [Table.slots_eq serves.enough, serves.capacity, List.filter_congr marks, ObjectMap.all,
    List.filter_map]

theorem slots_eq (serves : Serves c t) (h : Represents m o) : t.slots m = o.slots := by
  rw [serves.slots_eq_filter, ObjectMap.slots]
  exact List.filter_congr fun slot _ => serves.holds_eq h slot

theorem record_eq (serves : Serves c t) (h : Represents m o) {slot : UInt32} (inside : slot < c) :
    m.record (t.layout.recordIndex slot) = ⟨0, .ofState (o.objectAt slot)⟩ := by
  rw [serves.layout]
  exact h.records slot inside

theorem require_result (t : Table) (slot : UInt32) (m : Words) :
    (t.require slot).result m =
      (if t.holds slot m then .value () else .failed (.invalidSlot slot), m) := by
  have read : (t.isAllocated slot).result m = (.value (t.holds slot m), m) := by
    rw [isAllocated_eq, Op.result_read]
  rw [require_eq, Op.result_bind_of_value read]
  split <;> rfl

theorem require_of_holds (serves : Serves c t) (h : Represents m o) {slot : UInt32}
    (held : o.holds slot = true) : (t.require slot).result m = (.value (), m) := by
  rw [require_result, serves.holds_eq h, if_pos held]

theorem require_of_not_holds (serves : Serves c t) (h : Represents m o) {slot : UInt32}
    (held : o.holds slot = false) :
    (t.require slot).result m = (.failed (.invalidSlot slot), m) := by
  rw [require_result, serves.holds_eq h, held]
  rfl

/-! ## Calls on objects -/

theorem onRecord_eq {α : Type} (serves : Serves c t) (slot : UInt32) (op : Op Record α)
    (m : Words) :
    (t.onRecord slot op).result m =
      ((op.result (m.record ((Layout.ofCapacity c).recordIndex slot))).1,
        m.setRecord ((Layout.ofCapacity c).recordIndex slot)
          (op.result (m.record ((Layout.ofCapacity c).recordIndex slot))).2) := by
  rw [Table.onRecord_eq, Words.onRecord, Op.result_within, serves.layout]

theorem onRecord_result {α : Type} (serves : Serves c t) (h : Represents m o) {slot : UInt32}
    (inside : slot < c) (op : Op Record α) :
    (t.onRecord slot op).result m =
      ((op.result ⟨0, .ofState (o.objectAt slot)⟩).1,
        m.setRecord ((Layout.ofCapacity c).recordIndex slot)
          (op.result ⟨0, .ofState (o.objectAt slot)⟩).2) := by
  rw [serves.onRecord_eq, h.records slot inside]

/-- A call on the record of a slot. On a slot that was taken back it must leave a blank record. -/
theorem call_refines (serves : Serves c t) (h : Represents m o) {slot : UInt32} (inside : slot < c)
    (call : Call) (blank : o.holds slot = false → (call.onState .unknown).2 = .unknown) :
    ∃ m', (t.onRecord slot (call.op t.policy)).result m =
        (.ofExcept (o.call slot call).1, m') ∧ Represents m' (o.call slot call).2 := by
  have ran := Call.op_result_free serves.canClaim call (Contents.ofState (o.objectAt slot))
  rw [Call.step_ofState] at ran
  rw [serves.onRecord_result h inside, ran]
  refine ⟨_, rfl, ?_⟩
  simp only [ObjectMap.call]
  cases held : o.holds slot with
  | true => exact h.put held _
  | false =>
    have object : (call.onState (o.objectAt slot)).2 = o.objectAt slot := by
      rw [ObjectMap.objectAt_of_not_holds held]
      exact blank held
    rw [object]
    exact h.keep slot

theorem onRecord_map {α β : Type} (t : Table) (slot : UInt32) (f : α → β) (op : Op Record α)
    (m : Words) : (t.onRecord slot (f <$> op)).result m = (f <$> t.onRecord slot op).result m := by
  simp only [Table.onRecord_eq, Words.onRecord, Op.result_within, Op.result_map]

theorem withObject_refines {α : Type} (serves : Serves c t) (slot : UInt32) (call : Call)
    (f : α → Answer) (op : GuardPolicy → Op Record α)
    (same : call.op t.policy = f <$> op t.policy) :
    Refines (f <$> t.withObject slot op) fun o : ObjectMap c => o.callHeld slot call := by
  intro m o h
  rw [Op.result_map, withObject_eq]
  cases held : o.holds slot with
  | true =>
    obtain ⟨m', ran, next⟩ := serves.call_refines h (ObjectMap.lt_of_holds held) call
      (fun free => nomatch held.symm.trans free)
    rw [same, onRecord_map, Op.result_map] at ran
    rw [Op.result_bind_of_value (serves.require_of_holds h held), ran]
    simp only [ObjectMap.callHeld, held, if_true]
    exact ⟨m', rfl, next⟩
  | false =>
    rw [Op.result_bind_of_failed (serves.require_of_not_holds h held)]
    simp only [ObjectMap.callHeld, held]
    exact ⟨m, rfl, h⟩

/-! ## Slots -/

theorem allocated_eq (h : Represents m o) :
    m.get Header.allocatedIndex = UInt32.ofNat o.slots.length :=
  congrArg Header.allocated h.header

theorem mark_eq (serves : Serves c t) (m : Words) (slot : UInt32) :
    t.mark m slot.toNat = withMark c m slot := by
  simp only [mark, bitmapWord, serves.layout]
  show (m.setLong ((Layout.ofCapacity c).bitmapIndex (wordOf slot)) _).set _
    ((m.setLong ((Layout.ofCapacity c).bitmapIndex (wordOf slot)) _).get _ + 1) = _
  rw [get_allocated_setLong]
  rfl

theorem represents_mark (h : Represents m o) (inside : slot < c) (free : o.holds slot = false) :
    Represents (withMark c m slot) (o.put slot (some .unknown)) := by
  have has : (o.put slot (some .unknown)).holds slot = true := ObjectMap.holds_put_self inside _
  have others : ∀ other, other ≠ slot →
      (o.put slot (some .unknown)).holds other = o.holds other :=
    fun other apart => ObjectMap.holds_put_of_ne apart _
  refine h.setBit inside ?_ ?_ others fun other => ?_
  · rw [has]
    exact slotBit_withMark c m slot
  · rw [ObjectMap.length_slots_succ inside free has others, allocated_eq h, UInt32.ofNat_add]
    rfl
  · by_cases same : other = slot
    · rw [same, ObjectMap.objectAt_put_self inside, ObjectMap.objectAt_of_not_holds free]
      rfl
    · exact ObjectMap.objectAt_put_of_ne same _

theorem alloc_refines (serves : Serves c t) : Refines t.alloc (ObjectMap.alloc (c := c)) := by
  intro m o h
  have ends := alloc_ends serves.enough m
  generalize ran : t.alloc.result m = r at ends
  cases ends with
  | full all =>
    have held : ∀ slot, slot < c.toNat → o.holds (UInt32.ofNat slot) = true := fun slot inside =>
      (serves.marked_eq h inside).symm.trans (all slot (serves.capacity ▸ inside))
    rw [ObjectMap.alloc, ObjectMap.leastFree_eq_none held, serves.layout]
    exact ⟨m, rfl, h⟩
  | slot slot inside clear before =>
    rw [serves.capacity] at inside
    have number : (UInt32.ofNat slot).toNat = slot :=
      UInt32.toNat_ofNat_of_lt' (Nat.lt_trans inside c.toNat_lt)
    have free := (serves.marked_eq h inside).symm.trans clear
    have held : ∀ other, other < slot → o.holds (UInt32.ofNat other) = true := fun other lower =>
      (serves.marked_eq h (Nat.lt_trans lower inside)).symm.trans (before other lower)
    have next := represents_mark h (by rwa [UInt32.lt_iff_toNat_lt, number]) free
    rw [← serves.mark_eq, number] at next
    rw [ObjectMap.alloc, ObjectMap.leastFree_eq_some inside free held]
    exact ⟨_, rfl, next⟩

theorem represents_unmark (h : Represents m (o.put slot (some .unknown))) (inside : slot < c) :
    Represents (withoutMark c m slot) (o.put slot none) := by
  have has : (o.put slot (some .unknown)).holds slot = true := ObjectMap.holds_put_self inside _
  have without : (o.put slot none).holds slot = false := ObjectMap.holds_put_self inside _
  have others : ∀ other, other ≠ slot →
      (o.put slot (some .unknown)).holds other = (o.put slot none).holds other :=
    fun other apart => by
      rw [ObjectMap.holds_put_of_ne apart, ObjectMap.holds_put_of_ne apart]
  refine h.setBit inside ?_ ?_ (fun other apart => (others other apart).symm) fun other => ?_
  · rw [without]
    exact slotBit_withoutMark c m slot
  · rw [allocated_eq h, ObjectMap.length_slots_succ inside without has others, UInt32.ofNat_add,
      UInt32.add_assoc]
    exact UInt32.add_zero _
  · by_cases same : other = slot
    · rw [same, ObjectMap.objectAt_put_self inside, ObjectMap.objectAt_put_self inside]
      rfl
    · rw [ObjectMap.objectAt_put_of_ne same, ObjectMap.objectAt_put_of_ne same]

theorem freeStep_check_of_holds (held : t.holds slot m = true) :
    (t.freeStep slot .check).result m = (.value (.next .retire), m) := by
  have required := require_result t slot m
  rw [if_pos held] at required
  rw [freeStep_check_eq]
  exact Op.result_bind_of_value required _

theorem freeStep_check_of_not_holds (held : t.holds slot m = false) :
    (t.freeStep slot .check).result m = (.failed (.invalidSlot slot), m) := by
  have required := require_result t slot m
  rw [held] at required
  rw [freeStep_check_eq]
  exact Op.result_bind_of_failed required _

theorem freeStep_retire_of_free (serves : Serves c t) {contents : Contents}
    (free : m.record ((Layout.ofCapacity c).recordIndex slot) = ⟨0, contents⟩) :
    (t.freeStep slot .retire).result m =
      (.value (.next (.clear contents.kind)),
        m.setRecord ((Layout.ofCapacity c).recordIndex slot) .blank) := by
  have retired : (t.onRecord slot (Record.retire t.policy)).result m =
      (.value contents.kind, m.setRecord ((Layout.ofCapacity c).recordIndex slot) .blank) := by
    rw [serves.onRecord_eq, free, Record.retire, Record.guarded_free serves.canClaim]
    rfl
  exact t.freeStep_retire_of retired

theorem freeStep_retire (serves : Serves c t) (h : Represents m o) (inside : slot < c) :
    (t.freeStep slot .retire).result m =
      (.value (.next (.clear (Contents.ofState (o.objectAt slot)).kind)),
        m.setRecord ((Layout.ofCapacity c).recordIndex slot) ⟨0, .ofState .unknown⟩) :=
  serves.freeStep_retire_of_free (h.records slot inside)

theorem freeStep_clear_result (t : Table) (slot : UInt32) (k : Kind) (m : Words) :
    (t.freeStep slot (.clear k)).result m =
      (if Bitmap.isSet (t.bitmapWord m (wordOf slot)) (bitOf slot) then .value (.next (.count k))
        else .failed (.invalidSlot slot),
        m.setLong (t.layout.bitmapIndex (wordOf slot))
          (t.bitmapWord m (wordOf slot) &&& ~~~Bitmap.bit (bitOf slot))) := by
  have masked : (Accesses.maskWord t.layout (wordOf slot) (~~~Bitmap.bit (bitOf slot))).run m =
      (.value (t.bitmapWord m (wordOf slot)), m.setLong (t.layout.bitmapIndex (wordOf slot))
        (t.bitmapWord m (wordOf slot) &&& ~~~Bitmap.bit (bitOf slot))) := rfl
  refine (Accesses.run_bind_of_value masked _).trans ?_
  split <;> rfl

theorem freeStep_clear (serves : Serves c t) (k : Kind) (set : Bitmap.isSet
      (m.getLong ((Layout.ofCapacity c).bitmapIndex (wordOf slot))) (bitOf slot) = true) :
    (t.freeStep slot (.clear k)).result m =
      (.value (.next (.count k)),
        m.setLong ((Layout.ofCapacity c).bitmapIndex (wordOf slot))
          (m.getLong ((Layout.ofCapacity c).bitmapIndex (wordOf slot)) &&&
            ~~~Bitmap.bit (bitOf slot))) := by
  rw [freeStep_clear_result, bitmapWord, serves.layout, if_pos set]

theorem freeStep_count (t : Table) (slot : UInt32) (k : Kind) (m : Words) :
    (t.freeStep slot (.count k)).result m =
      (.value (.answer ()),
        m.set Header.allocatedIndex (m.get Header.allocatedIndex + (-1))) := rfl

theorem free_refines (serves : Serves c t) (slot : UInt32) :
    Refines (t.free slot) fun o : ObjectMap c => o.free slot := by
  intro m o h
  rw [free_eq]
  cases held : o.holds slot with
  | false =>
    have refused := freeStep_check_of_not_holds ((serves.holds_eq h slot).trans held)
    rw [Op.result_drive_of_failed refused]
    simp only [ObjectMap.free, held]
    exact ⟨m, rfl, h⟩
  | true =>
    have inside := ObjectMap.lt_of_holds held
    -- between the two steps the slot is handed out, with a blank record
    have blanked := h.put held .unknown
    have set : Bitmap.isSet ((m.setRecord ((Layout.ofCapacity c).recordIndex slot)
        ⟨0, .ofState .unknown⟩).getLong ((Layout.ofCapacity c).bitmapIndex (wordOf slot)))
        (bitOf slot) = true :=
      (blanked.bits slot inside).trans (ObjectMap.holds_put_self inside _)
    have checked := freeStep_check_of_holds ((serves.holds_eq h slot).trans held)
    rw [Op.result_drive_of_next checked, Op.result_drive_of_next (serves.freeStep_retire h inside),
      Op.result_drive_of_next (serves.freeStep_clear _ set),
      Op.result_drive_of_answer (freeStep_count t slot _ _), get_allocated_setLong]
    simp only [ObjectMap.free, held, if_true]
    exact ⟨_, rfl, represents_unmark blanked inside⟩

end Serves

end Table

end Interprocess
