import Interprocess.Proofs.Table.Accounts

/-!
# Views of slots

Of the memory of a table only two things matter to the calls on its slots: which slots are handed
out, and what the records hold. A store in the memory changes this for one slot, or for none.
-/

namespace Interprocess

/-- Whether a slot is handed out, and what its record holds. -/
structure SlotView where
  taken : Bool
  contents : Contents
  deriving DecidableEq

def SlotView.free : SlotView := ⟨false, .blank⟩

/-- The slots of a table in a memory, without what the guards hold and what the header counts. -/
def slotViews (c : UInt32) (m : Words) (slot : UInt32) : SlotView :=
  if slot < c then
    ⟨slotBit c m slot.toNat, (m.record ((Layout.ofCapacity c).recordIndex slot)).contents⟩
  else .free

section Views

variable {c : UInt32} {m m' : Words} {slot : UInt32}

theorem slotViews_of_lt (inside : slot < c) :
    slotViews c m slot =
      ⟨slotBit c m slot.toNat, (m.record ((Layout.ofCapacity c).recordIndex slot)).contents⟩ :=
  if_pos inside

theorem slotViews_of_represents {o : ObjectMap c} (h : Represents m o) (inside : slot < c) :
    slotViews c m slot = ⟨o.holds slot, .ofState (o.objectAt slot)⟩ := by
  rw [slotViews_of_lt inside, slotBit, h.records slot inside]
  exact congrArg (SlotView.mk · _) (h.bits slot inside)

theorem lt_of_taken (taken : (slotViews c m slot).taken = true) : slot < c := by
  by_contra outside
  rw [slotViews, if_neg outside] at taken
  cases taken

theorem slotViews_eq_update {v : SlotView} (inside : slot < c)
    (own : slotBit c m' slot.toNat = v.taken)
    (held : (m'.record ((Layout.ofCapacity c).recordIndex slot)).contents = v.contents)
    (bits : ∀ s : UInt32, s < c → s ≠ slot → slotBit c m' s.toNat = slotBit c m s.toNat)
    (records : ∀ s : UInt32, s ≠ slot →
      (m'.record ((Layout.ofCapacity c).recordIndex s)).contents =
        (m.record ((Layout.ofCapacity c).recordIndex s)).contents) :
    slotViews c m' = Function.update (slotViews c m) slot v := by
  funext s
  by_cases same : s = slot
  · rw [same, Function.update_self, slotViews_of_lt inside, own, held]
  · rw [Function.update_of_ne same]
    by_cases small : s < c
    · rw [slotViews_of_lt small, slotViews_of_lt small, bits s small same, records s same]
    · rw [slotViews, slotViews, if_neg small, if_neg small]

theorem slotViews_setRecord (inside : slot < c) (r : Record) :
    slotViews c (m.setRecord ((Layout.ofCapacity c).recordIndex slot) r) =
      Function.update (slotViews c m) slot ⟨(slotViews c m slot).taken, r.contents⟩ := by
  refine slotViews_eq_update inside ?_ ?_ (fun s small _ => ?_) fun s other => ?_
  · rw [Table.slotBit_setRecord slot r (Layout.wordOf_lt inside), slotViews_of_lt inside]
  · rw [Words.record_setRecord_self]
  · exact Table.slotBit_setRecord slot r (Layout.wordOf_lt small)
  · rw [Table.record_setRecord_of_ne r other]

theorem slotViews_setRecord_same {r : Record}
    (same : r.contents = (m.record ((Layout.ofCapacity c).recordIndex slot)).contents) :
    slotViews c (m.setRecord ((Layout.ofCapacity c).recordIndex slot) r) = slotViews c m := by
  funext s
  by_cases small : s < c
  · rw [slotViews_of_lt small, slotViews_of_lt small,
      Table.slotBit_setRecord slot r (Layout.wordOf_lt small)]
    by_cases own : s = slot
    · rw [own, Words.record_setRecord_self, same]
    · rw [Table.record_setRecord_of_ne r own]
  · rw [slotViews, slotViews, if_neg small, if_neg small]

theorem slotViews_setBit (inside : slot < c) :
    slotViews c (m.setLong ((Layout.ofCapacity c).bitmapIndex (Table.wordOf slot))
        (wordFor c m slot ||| Bitmap.bit (Table.bitOf slot))) =
      Function.update (slotViews c m) slot ⟨true, (slotViews c m slot).contents⟩ := by
  refine slotViews_eq_update inside ?_ ?_ (fun s _ other => ?_) fun s _ => ?_
  · rw [Table.slotBit_setBit, if_pos rfl]
  · rw [Table.record_setLong (Layout.wordOf_lt inside), slotViews_of_lt inside]
  · rw [Table.slotBit_setBit, if_neg fun same => other (UInt32.toNat_inj.mp same)]
  · rw [Table.record_setLong (Layout.wordOf_lt inside)]

theorem slotViews_clearBit (inside : slot < c) :
    slotViews c (m.setLong ((Layout.ofCapacity c).bitmapIndex (Table.wordOf slot))
        (wordFor c m slot &&& ~~~ Bitmap.bit (Table.bitOf slot))) =
      Function.update (slotViews c m) slot ⟨false, (slotViews c m slot).contents⟩ := by
  refine slotViews_eq_update inside ?_ ?_ (fun s _ other => ?_) fun s _ => ?_
  · rw [Table.slotBit_clearBit, if_pos rfl]
  · rw [Table.record_setLong (Layout.wordOf_lt inside), slotViews_of_lt inside]
  · rw [Table.slotBit_clearBit, if_neg fun same => other (UInt32.toNat_inj.mp same)]
  · rw [Table.record_setLong (Layout.wordOf_lt inside)]

theorem slotViews_set_allocated (c : UInt32) (m : Words) (n : UInt32) :
    slotViews c (m.set Header.allocatedIndex n) = slotViews c m := by
  funext s
  have later := Layout.header_before_records c s
  have record : (m.set Header.allocatedIndex n).record ((Layout.ofCapacity c).recordIndex s) =
      m.record ((Layout.ofCapacity c).recordIndex s) := by
    refine Words.record_congr fun i low _ => ?_
    have counter : ¬ Header.allocatedIndex = i := by
      rw [Header.allocatedIndex]
      omega
    rw [Words.get_set, if_neg counter]
  rw [slotViews, slotViews, Table.slotBit_set_allocated, record]

theorem slotViews_congr (same : ∀ i, m'.get i = m.get i) : slotViews c m' = slotViews c m := by
  funext s
  have long : ∀ i, m'.getLong i = m.getLong i := fun i =>
    Words.getLong_congr (same i) (same (i + 1))
  have record : m'.record ((Layout.ofCapacity c).recordIndex s) =
      m.record ((Layout.ofCapacity c).recordIndex s) := Words.record_congr fun i _ _ => same i
  rw [slotViews, slotViews, slotBit, long, record, slotBit]

theorem slotViews_layOut (c : UInt32) (m : Words) :
    slotViews c (Table.layOut (Layout.ofCapacity c) m) = fun _ => .free := by
  funext s
  by_cases small : s < c
  · rw [slotViews_of_lt small, Table.slotBit_layOut c m (Layout.wordOf_lt small),
      Table.record_layOut c m small]
    rfl
  · exact if_neg small

end Views

/-! ## Slots that change -/

/-- The slots whose views change in some way. -/
def slotsWhere (c : UInt32) (p : SlotView → SlotView → Bool) (v v' : UInt32 → SlotView) :
    List UInt32 :=
  (ObjectMap.all c).filter fun slot => p (v slot) (v' slot)

section Changes

variable {c : UInt32} {p : SlotView → SlotView → Bool} {v v' : UInt32 → SlotView} {slot : UInt32}

theorem mem_slotsWhere : slot ∈ slotsWhere c p v v' ↔ slot < c ∧ p (v slot) (v' slot) = true := by
  rw [slotsWhere, List.mem_filter, ObjectMap.mem_all]

theorem slotsWhere_self (still : ∀ x, p x x = false) : slotsWhere c p v v = [] :=
  List.filter_eq_nil_iff.mpr fun slot _ => by rw [still]; exact Bool.false_ne_true

theorem slotsWhere_update (still : ∀ x, p x x = false) (inside : slot < c) (x : SlotView) :
    slotsWhere c p v (Function.update v slot x) = if p (v slot) x then [slot] else [] := by
  have own : ∀ s ∈ ObjectMap.all c,
      p (v s) (Function.update v slot x s) = (p (v slot) x && (s == slot)) := by
    intro s _
    by_cases same : s = slot
    · rw [same, Function.update_self, beq_self_eq_true, Bool.and_true]
    · rw [Function.update_of_ne same, still, beq_false_of_ne same, Bool.and_false]
  rw [slotsWhere, List.filter_congr own]
  cases p (v slot) x with
  | false => exact List.filter_eq_nil_iff.mpr fun s _ => nofun
  | true =>
    simp only [Bool.true_and, if_true]
    rw [List.filter_beq, List.count_eq_one_of_mem (ObjectMap.nodup_all c)
      (ObjectMap.mem_all.mpr inside), List.replicate_one]

end Changes

end Interprocess
