import Interprocess.Text.Hex

/-!
# Thread identifiers

Whoever asks for a mutex names itself by a 32-bit number that is the same in every process. Zero
names nobody.
-/

namespace Interprocess

/-- The number by which a thread is known in every process. -/
structure ThreadId where
  raw : UInt32
  deriving DecidableEq, Repr, Inhabited

namespace ThreadId

def none : ThreadId := ⟨0⟩

/-- Whether the identifier names nobody. -/
def isNone (t : ThreadId) : Bool := t.raw == 0

def text (t : ThreadId) : String := hex t.raw.toNat

def description (t : ThreadId) : String := "Ptid(" ++ toString t.raw.toNat ++ ")"

end ThreadId

end Interprocess
