/-!
# Binary fractions

A finite binary floating-point number is `± mantissa · 2 ^ exponent`. Decimal texts are computed
from this form with exact integers.
-/

namespace Appraisal.Decimal

/-- The number `± mantissa · 2 ^ exponent`. -/
structure Binary where
  negative : Bool
  mantissa : Nat
  exponent : Int
  deriving DecidableEq, Repr

namespace Binary

/-- The leading bit of a mantissa, `2 ^ 52`. -/
def leadingBit : Nat := 4503599627370496

/-- Reads the sign, exponent and fraction fields; infinities and undefined values have no form. -/
def ofFloat? (x : Float) : Option Binary :=
  let bits : Nat := x.toBits.toNat
  let negative := bits >>> 63 == 1
  let field : Nat := (bits >>> 52) % 2048
  let fraction : Nat := bits % leadingBit
  if field = 2047 then none
  else if field = 0 then some ⟨negative, fraction, -1074⟩
  else some ⟨negative, leadingBit + fraction, (field : Int) - 1075⟩

/-- The power `2 ^ e` of a negative `e` belongs into the denominator. -/
def numerator (mantissa : Nat) (exponent : Int) : Nat := mantissa * Nat.pow 2 exponent.toNat

def denominator (exponent : Int) : Nat := Nat.pow 2 (-exponent).toNat

end Binary
end Appraisal.Decimal
