import Interprocess.Object.Record
import Std.Data.HashMap

/-!
# Word memory

The bytes of a region as 32-bit words, all zero unless something else was stored. A 64-bit word lies
in two 32-bit words, low half first; a record lies in five.
-/

namespace Interprocess

/-- A memory of 32-bit words. -/
structure Words where
  cells : Std.HashMap Nat UInt32

namespace Words

/-! ## Single words -/

def zero : Words := ⟨{}⟩

def get (m : Words) (index : Nat) : UInt32 := m.cells.getD index 0

def set (m : Words) (index : Nat) (word : UInt32) : Words := ⟨m.cells.insert index word⟩

/-- The memory with zeros from `first` up to, but not including, `past`. -/
def clear (m : Words) (first past : Nat) : Words :=
  ⟨m.cells.filter fun index _ => index < first || past ≤ index⟩

@[simp]
theorem get_zero (i : Nat) : zero.get i = 0 := by
  simp [zero, get]

theorem get_set (m : Words) (i j : Nat) (w : UInt32) :
    (m.set i w).get j = if i = j then w else m.get j := by
  simp [set, get, Std.HashMap.getD_insert]

theorem get_clear (m : Words) (first past i : Nat) :
    (m.clear first past).get i = if first ≤ i ∧ i < past then 0 else m.get i := by
  have kept : (i < first || past ≤ i) = !decide (first ≤ i ∧ i < past) := by
    by_cases h : first ≤ i ∧ i < past
    · simp [h]
    · simp [h]; omega
  simp only [clear, get]
  rw [Std.HashMap.getD_filter', Std.HashMap.getD_eq_getD_getElem?]
  cases m.cells[i]? <;> by_cases h : first ≤ i ∧ i < past <;> simp [Option.filter, kept, h]

/-- Stores a list of words one after another. -/
def store (m : Words) (index : Nat) : List UInt32 → Words
  | [] => m
  | word :: rest => (m.set index word).store (index + 1) rest

def load (m : Words) (index count : Nat) : List UInt32 :=
  (List.range count).map fun i => m.get (index + i)

/-! ## Words of 64 bits -/

def getLong (m : Words) (index : Nat) : UInt64 :=
  (m.get index).toUInt64 ||| ((m.get (index + 1)).toUInt64 <<< 32)

def setLong (m : Words) (index : Nat) (word : UInt64) : Words :=
  (m.set index word.toUInt32).set (index + 1) (word >>> 32).toUInt32

/-! ## Records -/

def record (m : Words) (index : Nat) : Record where
  guard := m.get index
  contents := ⟨m.get (index + 1), m.get (index + 2), m.get (index + 3), m.get (index + 4)⟩

def setRecord (m : Words) (index : Nat) (r : Record) : Words :=
  m.store index [r.guard, r.contents.tag, r.contents.first, r.contents.second, r.contents.third]

/-- An operation on the record whose guard word is at an index. -/
def onRecord {α : Type} (index : Nat) (op : Op Record α) : Op Words α :=
  op.within (fun m => m.record index) fun r m => m.setRecord index r

end Words

end Interprocess
