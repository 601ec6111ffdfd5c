import Appraisal.Decimal.Binary

/-!
# Fixed places

The text of a number with a fixed count of decimal places, rounded from the exact value.
-/

namespace Appraisal.Decimal

/-- The quotient rounded to the nearest integer, a half going to the even neighbour. -/
def roundDiv (num den : Nat) : Nat :=
  let q := num / den
  let r := num % den
  if 2 * r < den then q
  else if den < 2 * r then q + 1
  else if q % 2 = 0 then q else q + 1

/-- The digits of `n` with zeros in front up to `width`. -/
def padded (width n : Nat) : String :=
  let digits := Nat.repr n
  String.ofList (List.replicate (width - digits.length) '0') ++ digits

/-- Writes `n` hundredths, thousandths and so on, as `places` says. -/
def withPoint (places n : Nat) : String :=
  if places = 0 then Nat.repr n
  else
    let one := Nat.pow 10 places
    Nat.repr (n / one) ++ "." ++ padded places (n % one)

/-- The magnitude of `b` in units of the last of `places` decimal places. -/
def Binary.scaled (b : Binary) (places : Nat) : Nat :=
  roundDiv (numerator b.mantissa b.exponent * Nat.pow 10 places) (denominator b.exponent)

/-- The text of `b` with `places` decimal places. The sign of zero is kept. -/
def Binary.fixed (places : Nat) (b : Binary) : String :=
  (if b.negative then "-" else "") ++ withPoint places (b.scaled places)

end Appraisal.Decimal
