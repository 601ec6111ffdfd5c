import Appraisal.Arithmetic

/-!
# Curves

Piecewise linear maps from a quantity to a score. The points stand in order of their `x`. Left of
the first point and right of the last one a curve is level.
-/

namespace Appraisal

structure Curve (α : Type) where
  points : List (α × α)

namespace Curve
variable {α : Type} [Arithmetic α]

/-- Where on a curve a quantity lies. -/
inductive Place (α : Type) where
  /-- Level with an end point. -/
  | level (y : α)
  /-- On the segment between two neighbouring points. -/
  | between (left right : α × α)

def interpolate (left right : α × α) (x : α) : α :=
  let t := (x - left.1) / (right.1 - left.1)
  left.2 + t * (right.2 - left.2)

/-- The place of an `x` that lies right of the point `left`. -/
def placeAfter (left : α × α) (x : α) : List (α × α) → Place α
  | [] => .level left.2
  | right :: rest => if x ≤ right.1 then .between left right else placeAfter right x rest

/-- An undefined quantity has no place, and a curve without points has no places. -/
def place? (c : Curve α) (x : α) : Option (Place α) :=
  match c.points with
  | [] => none
  | first :: rest =>
    if Arithmetic.isNaN x then none
    else if x ≤ first.1 then some (.level first.2)
    else some (placeAfter first x rest)

def eval (c : Curve α) (x : α) : α :=
  match c.place? x with
  | none => Arithmetic.undefined
  | some (.level y) => y
  | some (.between left right) => interpolate left right x

end Curve
end Appraisal
