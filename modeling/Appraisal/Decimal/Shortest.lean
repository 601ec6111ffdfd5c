import Appraisal.Decimal.Binary

/-!
# Shortest digits

The fewest decimal digits that read back as the same binary number. A decimal reads back when it
lies in the interval of reals that round to the number. For each count of digits only the two
neighbours of the number on that decimal grid are tried: if any point of the grid lies in the
interval, so does one of these.
-/

namespace Appraisal.Decimal

/-- The digits `d₁ d₂ … dₙ` of a number `0.d₁d₂…dₙ · 10 ^ point`. -/
structure Digits where
  digits : List Char
  point : Int
  deriving DecidableEq, Repr

/-- A positive number together with the ends of the interval that rounds to it, in quarters of the
unit `2 ^ exponent` of its mantissa. -/
structure Interval where
  low : Nat
  value : Nat
  high : Nat
  exponent : Int
  /-- The ends themselves round to the number. -/
  closed : Bool

/-- Halfway to both neighbours; below a power of two the lower neighbour is half as far. -/
def Binary.interval (b : Binary) : Interval :=
  let gap := if b.mantissa = leadingBit ∧ -1074 < b.exponent then 1 else 2
  ⟨4 * b.mantissa - gap, 4 * b.mantissa, 4 * b.mantissa + 2, b.exponent - 2, b.mantissa % 2 = 0⟩

namespace Interval

/-- `n · 2 ^ exponent` in units of `10 ^ place`: a numerator … -/
def scaled (i : Interval) (place : Int) (n : Nat) : Nat :=
  Binary.numerator n i.exponent * Nat.pow 10 (-place).toNat

/-- … and the denominator that goes with it. -/
def unit (i : Interval) (place : Int) : Nat :=
  Binary.denominator i.exponent * Nat.pow 10 place.toNat

/-- Whether `d · 10 ^ place` reads back. -/
def contains (i : Interval) (place : Int) (d : Nat) : Bool :=
  let x := d * i.unit place
  let low := i.scaled place i.low
  let high := i.scaled place i.high
  if i.closed then low ≤ x && x ≤ high else low < x && x < high

/-- The neighbour of the value on the grid `10 ^ place` that reads back; of two, the nearer one,
and of two equally near ones the even one. -/
def onGrid? (i : Interval) (place : Int) : Option Nat :=
  let num := i.scaled place i.value
  let den := i.unit place
  let below := num / den
  let above := below + 1
  match i.contains place below, i.contains place above with
  | true, true =>
    let rest := 2 * (num % den)
    if rest < den then some below
    else if den < rest then some above
    else if below % 2 = 0 then some below else some above
  | true, false => some below
  | false, true => some above
  | false, false => none

/-- Tries the grids from coarse to fine; `fuel` grids are left. -/
def firstGrid (i : Interval) : Nat → Int → Nat × Int
  | 0, place => (i.scaled place i.value / i.unit place, place)
  | fuel + 1, place =>
    match i.onGrid? place with
    | some d => (d, place)
    | none => firstGrid i fuel (place - 1)

def reaches (i : Interval) (place : Int) : Bool := i.unit place ≤ i.scaled place i.value

/-- The least `k` with a value below `10 ^ k`, from an estimate by the binary exponent. -/
def magnitude (i : Interval) : Int :=
  let estimate := ((i.value.log2 : Int) + i.exponent) * 30103 / 100000
  if i.reaches (estimate + 1) then estimate + 2
  else if i.reaches estimate then estimate + 1
  else estimate

end Interval

def dropTrailingZeros (digits : List Char) : List Char :=
  (digits.reverse.dropWhile (· == '0')).reverse

/-- The shortest digits of a binary fraction. Seventeen digits always suffice. -/
def Binary.shortest (b : Binary) : Digits :=
  if b.mantissa = 0 then ⟨['0'], 1⟩
  else
    let interval := b.interval
    let (d, place) := interval.firstGrid 18 interval.magnitude
    let digits := Nat.toDigits 10 d
    ⟨dropTrailingZeros digits, digits.length + place⟩

end Appraisal.Decimal
