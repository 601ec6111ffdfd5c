import Appraisal.Scoring.Score

/-!
# Weighted scores

The overall score is a weighted mean over the dimensions that have a score. The weight of a
dimension without one leaves the denominator, so a missing score never counts as zero.
-/

namespace Appraisal

/-- How much each dimension counts. A dimension without a weight takes no part. -/
abbrev Weights (α : Type) := PerDimension (Option α)

namespace Weights
variable {α : Type} [Arithmetic α]

/-- Weights moved into 0 to 1; of two weights for one dimension the later one counts. -/
def ofList (weights : List (Dimension × α)) : Weights α :=
  weights.foldl (fun ws entry => ws.set entry.1 (some (Arithmetic.clamp 0.0 1.0 entry.2)))
    ⟨none, none, none⟩

def positive? (weights : Weights α) (d : Dimension) : Option α :=
  (weights.get d).filter fun w => (0.0 : α) < w

end Weights

structure Contribution (α : Type) where
  dimension : Dimension
  /-- The weight among the dimensions that contribute. -/
  weight : α
  score : Score α

namespace Contribution
variable {α : Type} [Arithmetic α]

def points (c : Contribution α) : α := c.weight * c.score.value

/-- Whether `a` is listed before `b`: it adds more, or as much and its dimension comes first. -/
def ranksBefore (a b : Contribution α) : Bool :=
  if b.points < a.points then true
  else if a.points < b.points then false
  else a.dimension.rank ≤ b.dimension.rank

end Contribution

namespace Weights
variable {α : Type} [Arithmetic α]

/-- The dimensions that have a score and a positive weight, in the usual order. -/
def weighted (weights : Weights α) (scores : Scores α) : List (Contribution α) :=
  scores.present.filterMap fun (dimension, score) =>
    (weights.positive? dimension).map fun weight => { dimension, weight, score }

/-- The contributions with their weights scaled to a sum of one. -/
def contributions (weights : Weights α) (scores : Scores α) : List (Contribution α) :=
  let parts := weights.weighted scores
  let total : α := Arithmetic.sum (parts.map (·.weight))
  if total ≤ 0.0 then [] else parts.map fun c => { c with weight := c.weight / total }

/-- The overall value and confidence, unless nothing contributes. -/
def overall? (weights : Weights α) (scores : Scores α) : Option (α × α) :=
  let parts := weights.contributions scores
  if parts.isEmpty then none
  else
    some (
      Arithmetic.clamp 0.0 100.0 (Arithmetic.sum (parts.map Contribution.points)),
      Arithmetic.clamp 0.0 1.0 (Arithmetic.sum (parts.map fun c => c.weight * c.score.confidence)))

end Weights
end Appraisal
