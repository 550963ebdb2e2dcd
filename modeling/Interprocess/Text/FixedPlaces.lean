/-!
# Fixed decimal places

A double written with a fixed number of decimal places. The double is taken apart into the exact
fraction that it stands for, and that fraction is rounded once; a tie goes to the even digit.
-/

namespace Interprocess

/-- The quotient rounded to the nearest whole number, a tie to the even one. -/
def roundDiv (num den : Nat) : Nat :=
  let q := num / den
  let twice := 2 * (num % den)
  if twice < den then q
  else if den < twice then q + 1
  else if q % 2 = 0 then q else q + 1

/-- The exact fraction, numerator and denominator, of a finite double that is not negative. -/
def exactFraction (x : Float) : Nat × Nat :=
  let bits := x.toBits.toNat
  let exponent := bits / Nat.pow 2 52 % Nat.pow 2 11
  let fraction := bits % Nat.pow 2 52
  let mantissa := if exponent = 0 then fraction else fraction + Nat.pow 2 52
  let scale := if exponent = 0 then 1 else exponent
  if 1075 ≤ scale then (mantissa * Nat.pow 2 (scale - 1075), 1)
  else (mantissa, Nat.pow 2 (1075 - scale))

/-- A finite double that is not negative, written with `places` decimal places. -/
def fixedPlaces (places : Nat) (x : Float) : String :=
  let (num, den) := exactFraction x
  let scaled := roundDiv (num * Nat.pow 10 places) den
  let whole := toString (scaled / Nat.pow 10 places)
  if places = 0 then whole
  else
    let digits := Nat.toDigits 10 (scaled % Nat.pow 10 places)
    whole ++ "." ++ String.ofList (List.replicate (places - digits.length) '0' ++ digits)

end Interprocess
