import Appraisal.Dimension
import Appraisal.Json.Decode
import Appraisal.Keyed

/-!
# Scores

What is said about a product along one dimension: a value, how much to trust it, and where it comes
from.
-/

namespace Appraisal

structure Component (α : Type) where
  name : String
  weight : α
  score : α
  raw : Json α
  calculation : String
  reasoning : String

structure Breakdown (α : Type) where
  components : List (Component α)
  formula : String
  total : α
  /-- The factor that the score contributes to a price. -/
  multiplier : Option α := none
  multiplierRange : Option (α × α) := none
  multiplierFormula : Option String := none
  missingData : List String := []

/-- A value between 0 and 100 with a confidence between 0 and 1. -/
structure Score (α : Type) where
  value : α
  confidence : α
  reasoning : String
  dataPoints : Keyed (Json α) := .empty
  breakdown : Option (Breakdown α) := none

namespace Score
variable {α : Type} [Arithmetic α]

/-- A score without details. Value and confidence are moved into their ranges. -/
def of (value confidence : α) (reasoning : String) : Score α where
  value := Arithmetic.clamp 0.0 100.0 value
  confidence := Arithmetic.clamp 0.0 1.0 confidence
  reasoning := reasoning

def dataNumber? (s : Score α) (key : String) : Option α := s.dataPoints.get? key >>= Json.number?

def dataText? (s : Score α) (key : String) : Option String := s.dataPoints.get? key >>= Json.string?

def multiplier (s : Score α) : Option α := s.breakdown.bind (·.multiplier)

def isFinite (s : Score α) : Bool :=
  Arithmetic.isFinite s.value && Arithmetic.isFinite s.confidence

end Score

/-- The scores of a product. A dimension without a score has nothing to say. -/
abbrev Scores (α : Type) := PerDimension (Option (Score α))

namespace Scores
variable {α : Type} [Arithmetic α]

def empty : Scores α := ⟨none, none, none⟩

/-- The mean confidence of the scores that are there. -/
def meanConfidence? (scores : Scores α) : Option α :=
  Arithmetic.mean? (scores.present.map fun entry => entry.2.confidence)

end Scores
end Appraisal
