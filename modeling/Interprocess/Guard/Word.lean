/-!
# Guard words

The word at the head of a record that says who may touch the rest of it. Zero means nobody does.
The low 31 bits name the holder; the top bit is set while somebody may be parked on the word.
-/

namespace Interprocess

namespace Guard

/-- Set while a contender may be parked on the word. -/
def waiters : UInt32 := 0x80000000

/-- The bits that name the holder. -/
def holderMask : UInt32 := 0x7fffffff

def holderOf (word : UInt32) : UInt32 := word &&& holderMask

def flagged (word : UInt32) : UInt32 := word ||| waiters

/-- The word of a holder `me` that takes over `word` and keeps its waiters bit. -/
def takenOver (me word : UInt32) : UInt32 := me ||| (word &&& waiters)

def hasWaiters (word : UInt32) : Bool := word &&& waiters != 0

def holder? (word : UInt32) : Option UInt32 :=
  if holderOf word = 0 then none else some (holderOf word)

end Guard

end Interprocess
