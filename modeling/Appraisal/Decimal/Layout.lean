import Appraisal.Decimal.Shortest

/-!
# Layouts of shortest digits

Two ways to set the same digits: plain, with every place written out, and the literal of
documents, which keeps a fraction and switches to an exponent for very large and very small
numbers.
-/

namespace Appraisal.Decimal

namespace Digits

private def zeros (n : Int) : List Char := List.replicate n.toNat '0'

/-- All places written out; no point when there is no fraction. -/
def plain (d : Digits) : List Char :=
  let count : Int := d.digits.length
  if d.point ≤ 0 then '0' :: '.' :: zeros (-d.point) ++ d.digits
  else if count ≤ d.point then d.digits ++ zeros (d.point - count)
  else d.digits.take d.point.toNat ++ '.' :: d.digits.drop d.point.toNat

/-- One digit, the rest as a fraction, and the exponent with its sign. -/
def scientific (d : Digits) : List Char :=
  let exponent := d.point - 1
  let tail := d.digits.drop 1
  let sign := if exponent < 0 then '-' else '+'
  d.digits.take 1 ++ (if tail.isEmpty then [] else '.' :: tail) ++
    'e' :: sign :: Nat.toDigits 10 exponent.natAbs

/-- Positional from `10⁻⁵` up to `10¹⁶`, with `.0` when there is no fraction; else scientific. -/
def literal (d : Digits) : List Char :=
  if -5 < d.point ∧ d.point ≤ 16 then
    if (d.digits.length : Int) ≤ d.point then d.plain ++ ['.', '0'] else d.plain
  else d.scientific

end Digits
end Appraisal.Decimal
