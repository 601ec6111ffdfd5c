/-!
# Arithmetic

Scores, weights, ratios and prices are computed through one class of operations. The same
definitions therefore run on binary floating point and can be read over exact numbers.
-/

namespace Appraisal

/-- What scoring and valuation need of a number. -/
class Arithmetic (α : Type) extends
    Add α, Sub α, Mul α, Div α, Neg α, LT α, LE α, BEq α, OfScientific α where
  decidableLT : DecidableLT α
  decidableLE : DecidableLE α
  ofInt : Int → α
  exp : α → α
  /-- Nearest integer, a half going away from zero. -/
  round : α → α
  /-- Drops the fraction; a value outside the range becomes the nearest end of it. -/
  toInt64 : α → Int64
  isNaN : α → Bool
  isFinite : α → Bool

namespace Arithmetic
variable {α : Type} [Arithmetic α]

instance (x y : α) : Decidable (x < y) := decidableLT x y

instance (x y : α) : Decidable (x ≤ y) := decidableLE x y

def ofNat (n : Nat) : α := ofInt n

/-- The value of an expression that has none. -/
def undefined : α := (0.0 : α) / 0.0

/-- Moves `x` into `lo..hi`. A value that is neither below `lo` nor above `hi` stays as it is. -/
def clamp (lo hi x : α) : α :=
  let raised := if x < lo then lo else x
  if hi < raised then hi else raised

/-- The sum from left to right. Nothing sums to the negative zero, which changes no term. -/
def sum (xs : List α) : α := xs.foldl (· + ·) (-(0.0 : α))

def mean? : List α → Option α
  | [] => none
  | xs => some (sum xs / ofNat xs.length)

def meanPresent? (values : List (Option α)) : Option α := mean? (values.filterMap id)

end Arithmetic
end Appraisal
