import Appraisal.Checked
import Appraisal.Scoring.Score
import Appraisal.Valuation.Policy

/-!
# Margin of safety

How far below the intrinsic value to buy. A strategy sets the margin, and the scores move it.
-/

namespace Appraisal

inductive MarginStep where
  | lowConfidence
  | highScarcity
  | strongDemand
  | weakDemand
  deriving DecidableEq

namespace MarginStep
variable {α : Type} [Arithmetic α]

def text : MarginStep → String
  | lowConfidence => "+5% margin: low data confidence"
  | highScarcity => "-5% margin: high scarcity"
  | strongDemand => "-5% margin: strong demand"
  | weakDemand => "+5% margin: weak demand"

def apply (margin : α) : MarginStep → α
  | lowConfidence | weakDemand => margin + 0.05
  | highScarcity | strongDemand => margin - 0.05

def ofConfidence? (mean : Option α) : Option MarginStep :=
  if mean.getD 0.0 < 0.5 then some lowConfidence else none

def ofAvailability? (value : α) : Option MarginStep :=
  if (80.0 : α) ≤ value then some highScarcity else none

def ofDemand? (value : α) : Option MarginStep :=
  if (75.0 : α) ≤ value then some strongDemand
  else if value < 30.0 then some weakDemand
  else none

def steps (scores : Scores α) : List MarginStep :=
  [ ofConfidence? scores.meanConfidence?,
    scores.availability.bind fun s => ofAvailability? s.value,
    scores.demand.bind fun s => ofDemand? s.value ].filterMap id

end MarginStep

/-- The margin after all steps, within the limits of the policy. Limits that are not in order, and
limits that are not numbers, leave no margin to choose. -/
def marginOfSafety {α : Type} [Arithmetic α] (p : PricePolicy α) (base : α) (scores : Scores α) :
    Checked α :=
  if p.leastMargin ≤ p.greatestMargin then
    .value (Arithmetic.clamp p.leastMargin p.greatestMargin
      ((MarginStep.steps scores).foldl MarginStep.apply base))
  else .aborted

end Appraisal
