import Interprocess.Memory.Words

/-!
# What stores leave

What is read back after a store of a word, a 64-bit word or a record, and what a store elsewhere
leaves alone.
-/

namespace Interprocess

namespace Words

variable {m : Words} {i j : Nat}

/-! ## Lists of words -/

theorem get_store_of_outside (words : List UInt32) (h : j < i ∨ i + words.length ≤ j) :
    (m.store i words).get j = m.get j := by
  induction words generalizing m i with
  | nil => rfl
  | cons word rest ih =>
    rw [List.length_cons] at h
    have away : ¬ i = j := by omega
    rw [store, ih (by omega), get_set, if_neg away]

/-! ## Words of 64 bits -/

theorem get_setLong_of_outside (word : UInt64) (h : j < i ∨ i + 2 ≤ j) :
    (m.setLong i word).get j = m.get j := by
  have low : ¬ i = j := by omega
  have high : ¬ i + 1 = j := by omega
  rw [setLong, get_set, if_neg high, get_set, if_neg low]

theorem getLong_congr {m' : Words} (low : m.get i = m'.get i)
    (high : m.get (i + 1) = m'.get (i + 1)) : m.getLong i = m'.getLong i := by
  rw [getLong, getLong, low, high]

theorem halves (word : UInt64) :
    word.toUInt32.toUInt64 ||| ((word >>> 32).toUInt32.toUInt64 <<< 32) = word := by
  apply UInt64.eq_of_toBitVec_eq
  apply BitVec.eq_of_getLsbD_eq
  intro b hb
  have amount : UInt64.toBitVec 32 % 64 = 32#64 := by decide
  simp only [UInt64.toBitVec_or, UInt64.toBitVec_shiftLeft, UInt32.toBitVec_toUInt64,
    UInt64.toBitVec_toUInt32, UInt64.toBitVec_shiftRight, BitVec.getLsbD_or,
    BitVec.getLsbD_setWidth, amount, BitVec.shiftLeft_eq', BitVec.ushiftRight_eq',
    BitVec.toNat_ofNat, BitVec.getLsbD_shiftLeft, BitVec.getLsbD_ushiftRight]
  by_cases low : b < 32
  · simp [hb, low]
  · have high : 32 + (b - 32) = b := by omega
    have inside : b - 32 < 32 := by omega
    simp [hb, low, high, inside]
    omega

@[simp]
theorem getLong_setLong_self (m : Words) (i : Nat) (word : UInt64) :
    (m.setLong i word).getLong i = word := by
  have low : ¬ i + 1 = i := by omega
  rw [getLong, setLong, get_set, if_neg low, get_set, if_pos rfl, get_set, if_pos rfl, halves]

theorem getLong_setLong_of_ne (word : UInt64) (h : i + 2 ≤ j ∨ j + 2 ≤ i) :
    (m.setLong i word).getLong j = m.getLong j :=
  getLong_congr (get_setLong_of_outside word (by omega))
    (get_setLong_of_outside word (by omega))

/-! ## Records -/

theorem record_congr {m' : Words} (h : ∀ k, i ≤ k → k < i + 5 → m.get k = m'.get k) :
    m.record i = m'.record i := by
  simp only [record]
  rw [h i (by omega) (by omega), h (i + 1) (by omega) (by omega), h (i + 2) (by omega) (by omega),
    h (i + 3) (by omega) (by omega), h (i + 4) (by omega) (by omega)]

theorem get_congr_of_record {m' : Words} (same : m'.record i = m.record i) (low : i ≤ j)
    (high : j < i + 5) : m'.get j = m.get j := by
  obtain ⟨k, rfl⟩ := Nat.exists_eq_add_of_le low
  simp only [record, Record.mk.injEq, Contents.mk.injEq] at same
  obtain ⟨guard, tag, first, second, third⟩ := same
  have few : k = 0 ∨ k = 1 ∨ k = 2 ∨ k = 3 ∨ k = 4 := by omega
  rcases few with rfl | rfl | rfl | rfl | rfl
  · exact guard
  · exact tag
  · exact first
  · exact second
  · exact third

@[simp]
theorem record_setRecord_self (m : Words) (i : Nat) (r : Record) :
    (m.setRecord i r).record i = r := by
  simp [record, setRecord, store, get_set, Nat.add_assoc]

theorem get_setRecord_of_outside (r : Record) (h : j < i ∨ i + 5 ≤ j) :
    (m.setRecord i r).get j = m.get j :=
  get_store_of_outside _ h

end Words

end Interprocess
