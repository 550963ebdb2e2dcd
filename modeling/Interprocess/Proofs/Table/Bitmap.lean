import Interprocess.Proofs.Table.TableAccesses
import Mathlib.Algebra.Group.Nat.Defs

/-!
# Bits and slots

Which bit stands for which slot, and what the searches of a word of a bitmap find.
-/

namespace Interprocess

namespace Bitmap

/-! ## Single bits -/

theorem isSet_eq_testBit (word : UInt64) (k : Nat) : isSet word k = word.toNat.testBit k := rfl

theorem toNat_bit {b : Nat} (hb : b < 64) : (bit b).toNat = 2 ^ b := by
  have amount : b % 2 ^ 64 % 64 = b := by omega
  have small : 2 ^ b < 2 ^ 64 := Nat.pow_lt_pow_right (by decide) hb
  rw [bit, UInt64.toNat_shiftLeft, UInt64.toNat_ofNat', amount, Nat.shiftLeft_eq]
  simpa using small

theorem isSet_bit {b : Nat} (hb : b < 64) (k : Nat) : isSet (bit b) k = decide (b = k) := by
  rw [isSet_eq_testBit, toNat_bit hb, Nat.testBit_two_pow]

theorem isSet_or (v w : UInt64) (k : Nat) : isSet (v ||| w) k = (isSet v k || isSet w k) := by
  simp [isSet]

theorem isSet_and (v w : UInt64) (k : Nat) : isSet (v &&& w) k = (isSet v k && isSet w k) := by
  simp [isSet]

theorem isSet_not (w : UInt64) {k : Nat} (hk : k < 64) : isSet (~~~ w) k = !isSet w k := by
  simp [isSet, hk]

theorem isSet_or_bit (w : UInt64) {b : Nat} (hb : b < 64) (k : Nat) :
    isSet (w ||| bit b) k = (isSet w k || decide (b = k)) := by
  rw [isSet_or, isSet_bit hb]

theorem isSet_and_not_bit (w : UInt64) {b k : Nat} (hb : b < 64) (hk : k < 64) :
    isSet (w &&& ~~~ bit b) k = (isSet w k && !decide (b = k)) := by
  rw [isSet_and, isSet_not _ hk, isSet_bit hb]

theorem ext {v w : UInt64} (h : ∀ k, k < 64 → isSet v k = isSet w k) : v = w :=
  UInt64.eq_of_toBitVec_eq (BitVec.eq_of_getLsbD_eq h)

theorem and_not_bit_of_clear {w : UInt64} {b : Nat} (hb : b < 64) (clear : isSet w b = false) :
    w &&& ~~~ bit b = w := by
  refine ext fun k hk => ?_
  rw [isSet_and_not_bit w hb hk]
  by_cases same : b = k
  · rw [← same, clear, Bool.false_and]
  · rw [decide_eq_false same, Bool.not_false, Bool.and_true]

theorem or_bit_and_not_bit {w : UInt64} {b : Nat} (hb : b < 64) (clear : isSet w b = false) :
    (w ||| bit b) &&& ~~~ bit b = w := by
  refine ext fun k hk => ?_
  rw [isSet_and_not_bit _ hb hk, isSet_or_bit w hb]
  by_cases same : b = k
  · rw [← same, clear, decide_eq_true rfl, Bool.not_true, Bool.and_false]
  · rw [decide_eq_false same, Bool.or_false, Bool.not_false, Bool.and_true]

theorem isSet_mask {capacity index k : Nat} (hk : k < 64) :
    isSet (mask capacity index) k = decide (index * 64 + k < capacity) := by
  rw [isSet_eq_testBit, mask]
  split
  · have all : (0xffffffffffffffff : UInt64).toNat = 2 ^ 64 - 1 := by decide
    have inside : index * 64 + k < capacity := by omega
    rw [all, Nat.testBit_two_pow_sub_one, decide_eq_true hk, decide_eq_true inside]
  · have short : capacity - index * 64 < 64 := by omega
    have one : (1 : UInt64) ≤ bit (capacity - index * 64) := by
      rw [UInt64.le_iff_toNat_le, toNat_bit short]
      exact Nat.one_le_two_pow
    rw [UInt64.toNat_sub_of_le _ _ one, toNat_bit short]
    refine (Nat.testBit_two_pow_sub_one _ _).trans (decide_eq_decide.mpr ?_)
    omega

/-! ## Searches -/

theorem eq_zero_iff {w : UInt64} : w = 0 ↔ ∀ k, k < 64 → isSet w k = false := by
  constructor
  · rintro rfl k -
    rw [isSet_eq_testBit]
    exact Nat.zero_testBit k
  · intro clear
    refine ext fun k hk => ?_
    rw [clear k hk, isSet_eq_testBit]
    exact (Nat.zero_testBit k).symm

theorem trailingZeros_spec {w : UInt64} (some : w ≠ 0) :
    (trailingZeros w < 64 ∧ isSet w (trailingZeros w) = true) ∧
      ∀ k, k < trailingZeros w → isSet w k = false := by
  cases found : (List.range 64).find? (isSet w) with
  | none =>
    refine absurd (eq_zero_iff.mpr fun k hk => ?_) some
    simpa using List.find?_range_eq_none.mp found k hk
  | some z =>
    obtain ⟨set, mem, before⟩ := List.find?_range_eq_some.mp found
    have here : trailingZeros w = z := by simp [trailingZeros, found]
    rw [here]
    exact ⟨⟨List.mem_range.mp mem, set⟩, fun k hk => by simpa using before k hk⟩

theorem lowestClear_eq_some {word mask : UInt64} {b : Nat} (h : lowestClear word mask = some b) :
    (b < 64 ∧ isSet mask b = true ∧ isSet word b = false) ∧
      ∀ k, k < b → isSet mask k = true → isSet word k = true := by
  unfold lowestClear at h
  split at h
  · exact absurd h nofun
  · rename_i left
    have bits : ∀ k, k < 64 → isSet (~~~ word &&& mask) k = (!isSet word k && isSet mask k) := by
      intro k hk
      rw [isSet_and, isSet_not _ hk]
    have some : ~~~ word &&& mask ≠ 0 := by
      intro zero
      refine left (ext fun k hk => ?_)
      have clear := eq_zero_iff.mp zero k hk
      rw [bits k hk] at clear
      rw [isSet_and]
      cases masked : isSet mask k <;> simp_all
    obtain ⟨⟨small, set⟩, before⟩ := trailingZeros_spec some
    obtain rfl := Option.some.inj h
    rw [bits _ small, Bool.and_eq_true, Bool.not_eq_true'] at set
    refine ⟨⟨small, set.2, set.1⟩, fun k hk masked => ?_⟩
    have passed := before k hk
    rw [bits k (by omega), masked, Bool.and_true, Bool.not_eq_false'] at passed
    exact passed

theorem lowestClear_eq_none {word mask : UInt64} (h : lowestClear word mask = none) {k : Nat}
    (masked : isSet mask k = true) : isSet word k = true := by
  unfold lowestClear at h
  split at h
  · rename_i all
    rw [← all, isSet_and, Bool.and_eq_true] at masked
    exact masked.1
  · exact absurd h nofun

/-! ## Walks -/

/-- To take one from a number sets the bits below its lowest bit and clears that bit; the bits
above stay. -/
theorem testBit_sub_one {n z : Nat} (set : n.testBit z = true)
    (before : ∀ k, k < z → n.testBit k = false) (k : Nat) :
    (n - 1).testBit k = (decide (k < z) || (n.testBit k && decide (k ≠ z))) := by
  have tail : n % 2 ^ (z + 1) = 2 ^ z := by
    apply Nat.eq_of_testBit_eq
    intro j
    rw [Nat.testBit_mod_two_pow, Nat.testBit_two_pow]
    rcases Nat.lt_trichotomy j z with below | rfl | above
    · simp [before j below, Nat.ne_of_gt below]
    · simp [set]
    · have past : ¬ j < z + 1 := by omega
      simp [past, Nat.ne_of_lt above]
  have whole : n = 2 ^ (z + 1) * (n / 2 ^ (z + 1)) + 2 ^ z := by
    rw [← tail, Nat.div_add_mod]
  have positive : 0 < 2 ^ z := Nat.two_pow_pos z
  have double : 2 ^ (z + 1) = 2 ^ z * 2 := Nat.pow_succ 2 z
  have less : n - 1 = 2 ^ (z + 1) * (n / 2 ^ (z + 1)) + (2 ^ z - 1) := by omega
  have above := Nat.testBit_two_pow_mul_add (n / 2 ^ (z + 1))
    (show 2 ^ z < 2 ^ (z + 1) by omega) k
  rw [← whole, Nat.testBit_two_pow] at above
  rw [less, Nat.testBit_two_pow_mul_add _ (by omega), Nat.testBit_two_pow_sub_one, above]
  rcases Nat.lt_trichotomy k z with below | rfl | past
  · have under : k < z + 1 := by omega
    simp [under, below]
  · simp
  · have later : ¬ k < z + 1 := by omega
    have same : ¬ k < z := by omega
    simp [later, same, Nat.ne_of_gt past]

theorem isSet_and_sub_one {w : UInt64} (some : w ≠ 0) (k : Nat) :
    isSet (w &&& (w - 1)) k = (isSet w k && decide (k ≠ trailingZeros w)) := by
  obtain ⟨⟨-, set⟩, before⟩ := trailingZeros_spec some
  have less := testBit_sub_one (n := w.toNat) set before k
  rw [isSet_and, isSet_eq_testBit (w - 1), (toNat_sub_one some).1, less, ← isSet_eq_testBit]
  rcases Nat.lt_or_ge k (trailingZeros w) with below | there
  · simp [before k below]
  · have past : ¬ k < trailingZeros w := by omega
    simp [past]

theorem filter_range_eq_cons {p : Nat → Bool} {z n : Nat} (inside : z < n) (set : p z = true)
    (before : ∀ k, k < z → p k = false) :
    (List.range n).filter p = z :: (List.range n).filter fun k => p k && decide (k ≠ z) := by
  obtain ⟨rest, rfl⟩ := Nat.exists_eq_add_of_lt inside
  have first : ∀ k ∈ List.range z, p k = false := fun k mem => before k (List.mem_range.mp mem)
  have lead : (List.range z).filter p = [] := by
    rw [List.filter_eq_nil_iff]
    intro k mem
    rw [first k mem]
    exact Bool.false_ne_true
  have leadOthers : (List.range z).filter (fun k => p k && decide (k ≠ z)) = [] := by
    rw [List.filter_eq_nil_iff]
    intro k mem
    rw [first k mem, Bool.false_and]
    exact Bool.false_ne_true
  have others : ∀ k ∈ (List.range rest).map (z + 1 + ·), (p k && decide (k ≠ z)) = p k := by
    intro k mem
    obtain ⟨j, -, rfl⟩ := List.mem_map.mp mem
    rw [decide_eq_true (by omega), Bool.and_true]
  have split : List.range (z + rest + 1) =
      List.range z ++ z :: (List.range rest).map (z + 1 + ·) := by
    rw [show z + rest + 1 = z + 1 + rest by omega, List.range_add, List.range_succ,
      List.append_assoc, List.singleton_append]
  rw [split, List.filter_append, List.filter_append, lead, leadOthers, List.nil_append,
    List.nil_append, List.filter_cons_of_pos set, List.filter_cons_of_neg (by simp),
    List.filter_congr others]

/-- To list and clear the lowest bit until none is left lists each bit that is set once, in
ascending order. -/
theorem setBits_eq_filter (w : UInt64) : setBits w = (List.range 64).filter (isSet w) := by
  induction w using setBits.induct with
  | case1 => decide +kernel
  | case2 w some ih =>
    obtain ⟨⟨small, set⟩, before⟩ := trailingZeros_spec some
    rw [setBits, if_neg some, ih, filter_range_eq_cons small set before]
    apply congrArg
    apply List.filter_congr
    intro k _
    exact isSet_and_sub_one some k

end Bitmap

namespace Table

variable {t : Table} {m : Words}

/-- Whether the bit for a slot is set. -/
def marked (t : Table) (m : Words) (slot : Nat) : Bool :=
  Bitmap.isSet (t.bitmapWord m (slot / 64)) (slot % 64)

theorem holds_of_lt {slot : UInt32} (inside : slot < t.layout.capacity) :
    t.holds slot m = t.marked m slot.toNat := by
  rw [holds, decide_eq_true inside, Bool.true_and]
  rfl

theorem slotsOfWord_eq (t : Table) (m : Words) (index : Nat) :
    t.slotsOfWord index (t.bitmapWord m index) =
      (((List.range 64).map (index * 64 + ·)).filter
        fun slot => slot < t.capacity && t.marked m slot).map UInt32.ofNat := by
  rw [List.filter_map, List.map_map]
  show (Bitmap.setBits _).map _ = _
  rw [Bitmap.setBits_eq_filter]
  have same : ∀ k ∈ List.range 64,
      Bitmap.isSet (t.bitmapWord m index &&& t.mask index) k =
        ((fun slot => decide (slot < t.capacity) && t.marked m slot) ∘ (index * 64 + ·)) k := by
    intro k mem
    have hk := List.mem_range.mp mem
    have word : (index * 64 + k) / 64 = index := by omega
    have bit : (index * 64 + k) % 64 = k := by omega
    rw [Bitmap.isSet_and, mask, Bitmap.isSet_mask hk, Bool.and_comm]
    simp only [Function.comp, marked, word, bit]
  rw [List.filter_congr same]
  rfl

theorem slots_of_words (t : Table) (m : Words) (count : Nat) :
    (List.range count).flatMap (fun index => t.slotsOfWord index (t.bitmapWord m index)) =
      ((List.range (count * 64)).filter
        fun slot => slot < t.capacity && t.marked m slot).map UInt32.ofNat := by
  induction count with
  | zero => rfl
  | succ count ih =>
    rw [List.range_succ, List.flatMap_append, ih, Nat.succ_mul, List.range_add, List.filter_append,
      List.map_append, List.flatMap_singleton, slotsOfWord_eq]

theorem slots_eq (enough : t.capacity ≤ t.layout.bitmapWords * 64) (m : Words) :
    t.slots m = ((List.range t.capacity).filter (t.marked m)).map UInt32.ofNat := by
  obtain ⟨spare, total⟩ := Nat.exists_eq_add_of_le enough
  have inside : ∀ slot ∈ List.range t.capacity,
      (decide (slot < t.capacity) && t.marked m slot) = t.marked m slot := by
    intro slot mem
    simp [List.mem_range.mp mem]
  have outside : ((List.range spare).map (t.capacity + ·)).filter
      (fun slot => decide (slot < t.capacity) && t.marked m slot) = [] := by
    simp only [List.filter_eq_nil_iff, List.mem_map]
    rintro slot ⟨k, -, rfl⟩
    have past : ¬ t.capacity + k < t.capacity := by omega
    simp [past]
  rw [slots, slots_of_words, total, List.range_add, List.filter_append, outside, List.append_nil,
    List.filter_congr inside]

end Table

end Interprocess
