import Interprocess.Host.Files
import Interprocess.Proofs.Memory.Words

/-!
# Bytes of a memory

Regions and files are measured in bytes, and memory is made of words of 32 bits. A word is what its
four bytes spell (`get_congr_of_bytes`), so two memories with the same bytes below an offset have
the same words below it.
-/

namespace Interprocess

namespace Words

variable {m m' : Words} {n i j : Nat}

def byte (m : Words) (i : Nat) : Nat := (m.get (i / 4)).toNat / Nat.pow 256 (i % 4) % 256

theorem byte_congr (same : m.get (i / 4) = m'.get (i / 4)) : m.byte i = m'.byte i := by
  rw [byte, byte, same]

theorem byte_eq_zero (none : m.get (i / 4) = 0) : m.byte i = 0 := by
  rw [byte, none]
  simp

theorem get_store (m : Words) (i k : Nat) (words : List UInt32) :
    (m.store i words).get (i + k) = words[k]?.getD (m.get (i + k)) := by
  induction words generalizing m i k with
  | nil => rfl
  | cons word rest ih =>
    cases k with
    | zero =>
      have before : i < i + 1 ∨ (i + 1) + rest.length ≤ i := .inl (Nat.lt_succ_self i)
      exact (get_store_of_outside rest before).trans ((get_set ..).trans (if_pos rfl))
    | succ k =>
      have position : i + (k + 1) = (i + 1) + k := by omega
      have apart : ¬ i = (i + 1) + k := by omega
      rw [store, position, ih, get_set, if_neg apart, List.getElem?_cons_succ]

theorem byte_add (m : Words) (j : Nat) {k : Nat} (inside : k < 4) :
    m.byte (4 * j + k) = (m.get j).toNat / Nat.pow 256 k % 256 := by
  have word : (4 * j + k) / 4 = j := by omega
  have position : (4 * j + k) % 4 = k := by omega
  rw [byte, word, position]

theorem get_congr_of_bytes (same : ∀ k, k < 4 → m.byte (4 * j + k) = m'.byte (4 * j + k)) :
    m.get j = m'.get j := by
  have digit (k : Nat) (inside : k < 4) :
      (m.get j).toNat / Nat.pow 256 k % 256 = (m'.get j).toNat / Nat.pow 256 k % 256 := by
    rw [← byte_add m j inside, ← byte_add m' j inside, same k inside]
  have first : (m.get j).toNat / 1 % 256 = (m'.get j).toNat / 1 % 256 := digit 0 (by decide)
  have second : (m.get j).toNat / 256 % 256 = (m'.get j).toNat / 256 % 256 := digit 1 (by decide)
  have third : (m.get j).toNat / 65536 % 256 = (m'.get j).toNat / 65536 % 256 :=
    digit 2 (by decide)
  have fourth : (m.get j).toNat / 16777216 % 256 = (m'.get j).toNat / 16777216 % 256 :=
    digit 3 (by decide)
  have bounded := (m.get j).toNat_lt
  have bounded' := (m'.get j).toNat_lt
  apply UInt32.toNat_inj.mp
  omega

/-- Two memories with the same bytes below an offset. -/
def SameBelow (n : Nat) (m m' : Words) : Prop := ∀ i, i < n → m.byte i = m'.byte i

theorem SameBelow.get (same : SameBelow n m m') (below : 4 * j + 4 ≤ n) : m.get j = m'.get j := by
  apply get_congr_of_bytes
  intro k inside
  exact same (4 * j + k) (by omega)

theorem SameBelow.of_get (same : ∀ j, 4 * j < n → m.get j = m'.get j) : SameBelow n m m' := by
  intro i below
  exact byte_congr (same (i / 4) (by omega))

end Words

end Interprocess
