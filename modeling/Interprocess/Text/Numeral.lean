/-!
# Reading numerals

Whole numbers as command-line values: digits of a base behind an optional plus sign, up to a
largest number. Nothing may stand before, between or after the digits.
-/

namespace Interprocess

/-- The value of an ASCII digit, decimal or hexadecimal in either case. -/
def digitValue? (c : Char) : Option Nat :=
  if '0' ≤ c ∧ c ≤ '9' then some (c.toNat - '0'.toNat)
  else if 'a' ≤ c ∧ c ≤ 'f' then some (c.toNat - 'a'.toNat + 10)
  else if 'A' ≤ c ∧ c ≤ 'F' then some (c.toNat - 'A'.toNat + 10)
  else none

/-- The number that a list of digits of `base` spells behind the number `value`. -/
def readDigits (base : Nat) : List Char → Nat → Option Nat
  | [], value => some value
  | c :: rest, value =>
    match digitValue? c with
    | some d => if d < base then readDigits base rest (base * value + d) else none
    | none => none

/-- The number that `s` spells in `base`, if it spells one that is at most `largest`. -/
def readNumeral (base largest : Nat) (s : String) : Option Nat :=
  let digits := match s.toList with
    | '+' :: rest => rest
    | cs => cs
  if digits.isEmpty then none
  else (readDigits base digits 0).filter (· ≤ largest)

def readWord (s : String) : Option UInt32 :=
  (readNumeral 10 0xffffffff s).map UInt32.ofNat

def readHexWord (s : String) : Option UInt32 :=
  (readNumeral 16 0xffffffff s).map UInt32.ofNat

end Interprocess
