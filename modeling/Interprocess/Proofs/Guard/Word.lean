import Interprocess.Guard.Policy

/-!
# Bits of guard words

The waiters bit and the holder share a word without touching each other: a holder number that a
word can carry has no waiters bit, flagging a word keeps its holder, and taking a word over keeps
its waiters bit.
-/

namespace Interprocess

theorem toNat_add_one_of_lt {a b : UInt32} (h : a < b) : (a + 1).toNat = a.toNat + 1 := by
  rw [UInt32.lt_iff_toNat_lt] at h
  rw [UInt32.toNat_add]
  exact Nat.mod_eq_of_lt (Nat.lt_of_le_of_lt h b.toNat_lt)

namespace Guard

theorem holderMask_eq : holderMask = ~~~waiters := rfl

@[simp]
theorem holderOf_zero : holderOf 0 = 0 := rfl

@[simp]
theorem hasWaiters_zero : hasWaiters 0 = false := rfl

theorem holderOf_le (word : UInt32) : holderOf word ≤ holderMask := by
  rw [UInt32.le_iff_toNat_le, holderOf, UInt32.toNat_and]
  exact Nat.and_le_right

@[simp]
theorem holderOf_flagged (word : UInt32) : holderOf (flagged word) = holderOf word := by
  rw [holderOf, holderOf, flagged, holderMask_eq]
  apply UInt32.eq_of_toBitVec_eq
  ext i hi
  simp
  grind

@[simp]
theorem hasWaiters_flagged (word : UInt32) : hasWaiters (flagged word) = true := by
  have absorbed : flagged word &&& waiters = waiters := by
    apply UInt32.eq_of_toBitVec_eq
    ext i hi
    simp only [flagged, UInt32.toBitVec_and, UInt32.toBitVec_or, BitVec.getElem_and,
      BitVec.getElem_or]
    grind
  rw [hasWaiters, absorbed]
  rfl

theorem and_waiters (word : UInt32) : word &&& waiters = 0 ∨ word &&& waiters = waiters := by
  have top : waiters.toBitVec = BitVec.twoPow 32 31 := by decide
  have bit := BitVec.and_twoPow word.toBitVec 31
  rw [← top] at bit
  split at bit
  · exact .inr (UInt32.eq_of_toBitVec_eq bit)
  · exact .inl (UInt32.eq_of_toBitVec_eq bit)

theorem flagged_of_hasWaiters {word : UInt32} (waits : hasWaiters word = true) :
    flagged word = word := by
  rw [hasWaiters, bne_iff_ne] at waits
  have bit := (and_waiters word).resolve_left waits
  apply UInt32.eq_of_toBitVec_eq
  ext i hi
  have bits := congrArg (fun w : UInt32 => w.toBitVec[i]) bit
  simp [flagged] at bits ⊢
  grind

@[simp]
theorem flagged_flagged (word : UInt32) : flagged (flagged word) = flagged word :=
  flagged_of_hasWaiters (hasWaiters_flagged word)

theorem flagged_ne_zero (word : UInt32) : flagged word ≠ 0 := by
  intro zero
  have waits := hasWaiters_flagged word
  rw [zero] at waits
  cases waits

/-! ## Holder numbers without the waiters bit -/

section Unflagged

variable {me : UInt32} (hme : me &&& waiters = 0)

include hme

theorem holderOf_of_unflagged : holderOf me = me := by
  rw [holderOf, holderMask_eq]
  apply UInt32.eq_of_toBitVec_eq
  ext i hi
  have bits := congrArg (fun w : UInt32 => w.toBitVec[i]) hme
  simp at bits ⊢
  grind

theorem holderOf_takenOver (word : UInt32) : holderOf (takenOver me word) = me := by
  rw [holderOf, takenOver, holderMask_eq]
  apply UInt32.eq_of_toBitVec_eq
  ext i hi
  have bits := congrArg (fun w : UInt32 => w.toBitVec[i]) hme
  simp at bits ⊢
  grind

theorem hasWaiters_takenOver (word : UInt32) :
    hasWaiters (takenOver me word) = hasWaiters word := by
  have kept : takenOver me word &&& waiters = word &&& waiters := by
    apply UInt32.eq_of_toBitVec_eq
    ext i hi
    have bits := congrArg (fun w : UInt32 => w.toBitVec[i]) hme
    simp [takenOver] at bits ⊢
    grind
  rw [hasWaiters, hasWaiters, kept]

end Unflagged

end Guard

namespace GuardPolicy

variable {p : GuardPolicy}

theorem holderId_ne_zero (h : p.canClaim = true) : p.holderId ≠ 0 := by
  simp only [canClaim, Bool.and_eq_true, bne_iff_ne] at h
  exact h.1

theorem holderId_unflagged (h : p.canClaim = true) : p.holderId &&& Guard.waiters = 0 := by
  simp only [canClaim, Bool.and_eq_true, beq_iff_eq] at h
  exact h.2

theorem holderOf_holderId (h : p.canClaim = true) : Guard.holderOf p.holderId = p.holderId :=
  Guard.holderOf_of_unflagged (holderId_unflagged h)

theorem canClaim_of_validate (h : p.validate = .ok ()) : p.canClaim = true := by
  rw [validate] at h
  cases hc : p.canClaim with
  | true => rfl
  | false => simp [hc] at h

end GuardPolicy

end Interprocess
