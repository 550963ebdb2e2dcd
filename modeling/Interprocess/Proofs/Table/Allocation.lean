import Interprocess.Proofs.Table.Bitmap

/-!
# How slots are handed out

A call that nobody disturbs hands out the lowest slot whose bit is clear, or finds that there is
none. While it looks at the words of the bitmap one after another, all slots of the words that it
has passed are handed out.
-/

namespace Interprocess

namespace Table

variable {t : Table} {m : Words}

/-- The memory with the bit of a slot set and the slot counted. -/
def mark (t : Table) (m : Words) (slot : Nat) : Words :=
  let m := m.setLong (t.layout.bitmapIndex (slot / 64))
    (t.bitmapWord m (slot / 64) ||| Bitmap.bit (slot % 64))
  m.set Header.allocatedIndex (m.get Header.allocatedIndex + 1)

/-- How a call ends that hands out a slot. -/
inductive Handed (t : Table) (m : Words) : Outcome UInt32 × Words → Prop where
  | full (all : ∀ slot, slot < t.capacity → t.marked m slot = true) :
      Handed t m (.failed (.tableFull t.layout.capacity), m)
  | slot (slot : Nat) (inside : slot < t.capacity) (clear : t.marked m slot = false)
      (before : ∀ other, other < slot → t.marked m other = true) :
      Handed t m (.value (UInt32.ofNat slot), t.mark m slot)

/-! ## Single steps -/

theorem allocStep_look {index : Nat} (h : index < t.layout.bitmapWords) (fails : Bool) :
    (t.allocStep fails (.look index)).result m =
      (.value (.next (t.seen index (t.bitmapWord m index))), m) := by
  rw [allocStep, Accesses.allocStep, if_pos h]
  rfl

theorem allocStep_look_past {index : Nat} (h : ¬ index < t.layout.bitmapWords) (fails : Bool) :
    (t.allocStep fails (.look index)).result m = (.failed (.tableFull t.layout.capacity), m) := by
  rw [allocStep, Accesses.allocStep, if_neg h]
  rfl

theorem allocStep_claim (t : Table) (m : Words) (index b : Nat) :
    (t.allocStep false (.claim index (t.bitmapWord m index) b)).result m =
      (.value (.next (.count (slotAt index b))),
        m.setLong (t.layout.bitmapIndex index) (t.bitmapWord m index ||| Bitmap.bit b)) := by
  have exchanged : (Accesses.exchangeWord t.layout index false (t.bitmapWord m index)
      (t.bitmapWord m index ||| Bitmap.bit b)).run m =
      (.value none,
        m.setLong (t.layout.bitmapIndex index) (t.bitmapWord m index ||| Bitmap.bit b)) :=
    (Accesses.run_exchangeWord ..).trans (if_pos ⟨rfl, rfl⟩)
  exact Accesses.run_bind_of_value exchanged _

theorem allocStep_claim_of_other {fails : Bool} {index : Nat} {current : UInt64}
    (h : t.bitmapWord m index ≠ current ∨ fails = true) (b : Nat) :
    (t.allocStep fails (.claim index current b)).result m =
      (.value (.next (t.seen index (t.bitmapWord m index))), m) := by
  have lost : ¬ (m.getLong (t.layout.bitmapIndex index) = current ∧ (!fails) = true) := by
    rintro ⟨same, sound⟩
    rcases h with other | spurious
    · exact other same
    · rw [spurious] at sound
      cases sound
  have exchanged : (Accesses.exchangeWord t.layout index fails current
      (current ||| Bitmap.bit b)).run m = (.value (some (t.bitmapWord m index)), m) :=
    (Accesses.run_exchangeWord ..).trans (if_neg lost)
  exact Accesses.run_bind_of_value exchanged _

theorem allocStep_count (t : Table) (m : Words) (fails : Bool) (slot : UInt32) :
    (t.allocStep fails (.count slot)).result m =
      (.value (.answer slot), m.set Header.allocatedIndex (m.get Header.allocatedIndex + 1)) := rfl

/-! ## The whole call -/

theorem alloc_of_claim {index b : Nat} (hb : b < 64) (m : Words) (steps : Nat) :
    (Op.drive (t.allocStep false) (steps + 2) (.claim index (t.bitmapWord m index) b)).result m =
      (.value (UInt32.ofNat (index * 64 + b)), t.mark m (index * 64 + b)) := by
  have word : (index * 64 + b) / 64 = index := by omega
  have bit : (index * 64 + b) % 64 = b := by omega
  rw [Op.result_drive_of_next (allocStep_claim t m index b),
    Op.result_drive_of_answer (allocStep_count t _ false _)]
  simp only [mark, word, bit, slotAt]

theorem alloc_from (enough : t.capacity ≤ t.layout.bitmapWords * 64) (left : Nat) {index : Nat}
    (reach : index + left = t.layout.bitmapWords)
    (below : ∀ slot, slot < t.capacity → slot < index * 64 → t.marked m slot = true) :
    Handed t m ((Op.drive (t.allocStep false) (left + 3) (.look index)).result m) := by
  -- on the words that are left; `below` says of those that were passed that they are full
  induction left generalizing index with
  | zero =>
    rw [Op.result_drive_of_failed (allocStep_look_past (by omega) false)]
    exact .full fun slot inside => below slot inside (by omega)
  | succ left ih =>
    rw [Op.result_drive_of_next (allocStep_look (by omega) false)]
    unfold seen
    cases found : Bitmap.lowestClear (t.bitmapWord m index) (t.mask index) with
    | none =>
      refine ih (by omega) fun slot inside under => ?_
      by_cases passed : slot < index * 64
      · exact below slot inside passed
      · have word : slot / 64 = index := by omega
        have masked : Bitmap.isSet (t.mask index) (slot % 64) = true := by
          rw [mask, Bitmap.isSet_mask (by omega)]
          exact decide_eq_true (by omega)
        rw [marked, word]
        exact Bitmap.lowestClear_eq_none found masked
    | some b =>
      obtain ⟨⟨hb, masked, clear⟩, lower⟩ := Bitmap.lowestClear_eq_some found
      have word : (index * 64 + b) / 64 = index := by omega
      have bit : (index * 64 + b) % 64 = b := by omega
      rw [mask, Bitmap.isSet_mask hb] at masked
      show Handed t m ((Op.drive _ (left + 1 + 2) _).result m)
      rw [alloc_of_claim hb]
      refine .slot _ (of_decide_eq_true masked) (by rw [marked, word, bit, clear]) fun other h => ?_
      by_cases passed : other < index * 64
      · exact below other (by have := of_decide_eq_true masked; omega) passed
      · have same : other / 64 = index := by omega
        rw [marked, same]
        refine lower (other % 64) (by omega) ?_
        rw [mask, Bitmap.isSet_mask (by omega)]
        have := of_decide_eq_true masked
        exact decide_eq_true (by omega)

/-- A call that nobody disturbs hands out the lowest slot whose bit is clear, if there is one. -/
theorem alloc_ends (enough : t.capacity ≤ t.layout.bitmapWords * 64) (m : Words) :
    Handed t m (t.alloc.result m) := by
  rw [alloc_eq]
  exact alloc_from enough t.layout.bitmapWords (Nat.zero_add _) fun slot _ h => by omega

end Table

end Interprocess
