/-!
# Words of a bitmap

One bit for each slot, in words of 64 bits. Bits that stand for no slot are masked out.
-/

namespace Interprocess

namespace Bitmap

/-- The word with one bit set. -/
def bit (b : Nat) : UInt64 := 1 <<< UInt64.ofNat b

def isSet (word : UInt64) (b : Nat) : Bool := word.toBitVec.getLsbD b

/-- The bits of the word with the given index that stand for slots of a table. -/
def mask (capacity index : Nat) : UInt64 :=
  let remainder := capacity - index * 64
  if 64 ≤ remainder then 0xffffffffffffffff else bit remainder - 1

/-- How many bits are clear below the lowest bit that is set: all of them where none is. -/
def trailingZeros (word : UInt64) : Nat :=
  ((List.range 64).find? (isSet word)).getD 64

/-- The lowest bit of the mask that is clear in the word. -/
def lowestClear (word mask : UInt64) : Option Nat :=
  if word &&& mask = mask then none else some (trailingZeros (~~~ word &&& mask))

theorem toNat_sub_one {word : UInt64} (some : word ≠ 0) :
    (word - 1).toNat = word.toNat - 1 ∧ 0 < word.toNat := by
  have positive : 0 < word.toNat := by
    apply Nat.pos_of_ne_zero
    intro zero
    exact some (UInt64.toNat_inj.mp zero)
  exact ⟨UInt64.toNat_sub_of_le _ _ (UInt64.le_iff_toNat_le.mpr positive), positive⟩

/-- To take one from a word and keep the bits that both have makes the word smaller. -/
theorem and_sub_one_lt {word : UInt64} (some : word ≠ 0) :
    (word &&& (word - 1)).toNat < word.toNat := by
  obtain ⟨less, positive⟩ := toNat_sub_one some
  have kept := Nat.and_le_right (n := word.toNat) (m := word.toNat - 1)
  rw [UInt64.toNat_and, less]
  omega

/-- The bits that are set in the word, in ascending order: the lowest is listed and cleared until
none is left. -/
def setBits (word : UInt64) : List Nat :=
  if word = 0 then [] else trailingZeros word :: setBits (word &&& (word - 1))
termination_by word.toNat
decreasing_by exact and_sub_one_lt ‹_›

end Bitmap

end Interprocess
