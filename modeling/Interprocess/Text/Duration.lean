/-!
# Durations

Lengths of time in whole nanoseconds and their text: the largest unit that is not zero, and the
rest as a decimal fraction without trailing zeros.
-/

namespace Interprocess

/-- A length of time in nanoseconds. -/
structure Duration where
  nanos : Nat
  deriving DecidableEq, Repr, Inhabited

namespace Duration

def zero : Duration := ⟨0⟩

def ofMillis (n : Nat) : Duration := ⟨n * 1000000⟩

def ofSeconds (n : Nat) : Duration := ⟨n * 1000000000⟩

/-- What is left of `d` after `e`, and nothing when `e` is longer. -/
def less (d e : Duration) : Duration := ⟨d.nanos - e.nanos⟩

def shorter (d e : Duration) : Duration := if d.nanos ≤ e.nanos then d else e

/-- The digits of a fraction of `places` places, less its trailing zeros. -/
def fractionDigits (places fraction : Nat) : List Char :=
  let digits := Nat.toDigits 10 fraction
  let padded := List.replicate (places - digits.length) '0' ++ digits
  (padded.reverse.dropWhile (· == '0')).reverse

/-- `n` units of `10 ^ places` parts each, written as a decimal numeral. -/
def decimal (places n : Nat) : String :=
  let fraction := fractionDigits places (n % Nat.pow 10 places)
  let whole := toString (n / Nat.pow 10 places)
  if fraction.isEmpty then whole else whole ++ "." ++ String.ofList fraction

/-- The duration in seconds, milliseconds, microseconds or nanoseconds, whichever is the largest
unit that it reaches. -/
def text (d : Duration) : String :=
  if 1000000000 ≤ d.nanos then decimal 9 d.nanos ++ "s"
  else if 1000000 ≤ d.nanos then decimal 6 d.nanos ++ "ms"
  else if 1000 ≤ d.nanos then decimal 3 d.nanos ++ "µs"
  else toString d.nanos ++ "ns"

end Duration

end Interprocess
