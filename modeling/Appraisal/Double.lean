import Appraisal.Arithmetic
import Appraisal.NumberText
import Appraisal.Decimal.Fixed
import Appraisal.Decimal.Layout

/-!
# Double precision

Binary floating point as the number type that the program runs on.
-/

namespace Appraisal

instance : Arithmetic Float where
  decidableLT x y := inferInstanceAs (Decidable (x < y))
  decidableLE x y := inferInstanceAs (Decidable (x ≤ y))
  ofInt := Float.ofInt
  exp := Float.exp
  round := Float.round
  toInt64 := Float.toInt64
  isNaN := Float.isNaN
  isFinite := Float.isFinite

namespace Double

/-- The text of a value that has no digits. -/
def special (x : Float) : String :=
  if x.isNaN then "NaN" else if x < 0 then "-inf" else "inf"

/-- Sets the sign in front of the digits that `layout` arranges. -/
def text (layout : Decimal.Digits → List Char) (x : Float) : String :=
  match Decimal.Binary.ofFloat? x with
  | none => special x
  | some b => (if b.negative then "-" else "") ++ String.ofList (layout b.shortest)

def fixed (places : Nat) (x : Float) : String :=
  match Decimal.Binary.ofFloat? x with
  | none => special x
  | some b => b.fixed places

/-- An undefined value has no sign. -/
def signed (places : Nat) (x : Float) : String :=
  let digits := fixed places x
  if x.isNaN || digits.startsWith "-" then digits else "+" ++ digits

end Double

instance : NumberText Float where
  plain := Double.text Decimal.Digits.plain
  fixed := Double.fixed
  signed := Double.signed
  literal := Double.text Decimal.Digits.literal

end Appraisal
