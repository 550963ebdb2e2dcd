/-!
# Hexadecimal text

Lower-case numerals in base sixteen: bare, behind the mark `0x`, and filled up with zeros.
-/

namespace Interprocess

/-- The digits of `n` in base sixteen, most significant first. -/
def hexDigits (n : Nat) : String :=
  String.ofList (Nat.toDigits 16 n)

def hex (n : Nat) : String :=
  "0x" ++ hexDigits n

/-- The digits of `n`, filled up on the left with zeros to `width` digits. -/
def paddedHexDigits (width n : Nat) : String :=
  let digits := Nat.toDigits 16 n
  String.ofList (List.replicate (width - digits.length) '0' ++ digits)

/-- The mark `0x` and at least `width` digits. -/
def paddedHex (width n : Nat) : String :=
  "0x" ++ paddedHexDigits width n

end Interprocess
