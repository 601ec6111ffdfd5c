import Appraisal.Arithmetic
import Appraisal.Decimal.Fixed

/-!
# Money

Prices are whole numbers of the smallest unit of a currency. Other numbers come in only through
ratios, and go back by rounding.
-/

namespace Appraisal

/-- An amount in hundredths of the currency. -/
structure Cents where
  value : Int64
  deriving DecidableEq

namespace Cents
variable {α : Type} [Arithmetic α]

instance : LT Cents := ⟨fun a b => a.value < b.value⟩
instance : LE Cents := ⟨fun a b => a.value ≤ b.value⟩
instance (a b : Cents) : Decidable (a < b) := inferInstanceAs (Decidable (a.value < b.value))
instance (a b : Cents) : Decidable (a ≤ b) := inferInstanceAs (Decidable (a.value ≤ b.value))

def isPositive (c : Cents) : Bool := 0 < c.value

def toNumber (c : Cents) : α := Arithmetic.ofInt c.value.toInt

/-- The nearest amount. Only a finite number has one. -/
def round? (x : α) : Option Cents :=
  if Arithmetic.isFinite x then some ⟨Arithmetic.toInt64 (Arithmetic.round x)⟩ else none

/-- How many times `base` goes into `c`. There is no ratio to a base that is not positive. -/
def ratio? (c base : Cents) : Option α :=
  if base.isPositive then some (c.toNumber / base.toNumber) else none

/-- The amount in whole currency with two decimal places. -/
protected def toString (c : Cents) : String :=
  (if c.value < 0 then "-" else "") ++ Decimal.withPoint 2 c.value.toInt.natAbs

instance : ToString Cents := ⟨Cents.toString⟩

end Cents
end Appraisal
