import Appraisal.Analysis.Availability
import Appraisal.Analysis.Demand
import Appraisal.Analysis.Quality
import Appraisal.Evidence.Validity
import Appraisal.Strategy.Registry
import Appraisal.Valuation.Basic

/-!
# Recommendations

A product is scored along every dimension, the scores are read under a strategy, and a price is put
on the product or withheld.
-/

namespace Appraisal

/-- Scores one dimension. It says nothing when it has nothing to go on. -/
structure Analyzer (α : Type) where
  name : String
  description : String
  dimension : Dimension
  analyze : Evidence α → Checked (Option (Score α))

/-- What to do with a product under one strategy. -/
structure Recommendation (α : Type) where
  productId : String
  overall : Score α
  dimensions : Scores α
  action : Action
  strategy : String
  urgency : Urgency
  /-- The expected return in percent of the price. -/
  estimatedReturn : Option α
  timeHorizon : Option String
  risks : List String
  opportunities : List String
  buyPrice : Option (BuyPrice α)

variable {α : Type} [Arithmetic α]

namespace Analyzer
variable [NumberText α]

def demand : Analyzer α where
  name := "demand"
  description :=
    "Secondary-market transaction velocity and momentum, with listing prices, community " ++
      "sentiment and retail sales as minor signals"
  dimension := .demand
  analyze e := .value (Demand.score? e.demand)

def availability : Analyzer α where
  name := "availability"
  description := "Retirement urgency, retail stock scarcity and platform listing status"
  dimension := .availability
  analyze e := Availability.score? e.availability e.asOf.year

def quality (expectedBrand : String) : Analyzer α where
  name := "quality"
  description :=
    "Star rating adjusted for review depth, brand authenticity and catalog metadata completeness"
  dimension := .quality
  analyze e := Quality.score? expectedBrand e.quality

def standard (expectedBrand : String) : List (Analyzer α) :=
  [demand, availability, quality expectedBrand]

end Analyzer

namespace Recommendation

/-- Enters what one analyzer says. A score that is not finite is refused. -/
def addScore (e : Evidence α) (scores : Scores α) (a : Analyzer α) (score : Option (Score α)) :
    Except Failure (Scores α) :=
  if score.any fun s => !s.isFinite then
    .error (.invalid s!"{a.name} analyzer produced a non-finite score for {e.productId}")
  else .ok (scores.set a.dimension score)

/-- What all analyzers say. They are all heard before the first score is refused, and of two for one
dimension the later one counts. -/
def scoreAll (analyzers : List (Analyzer α)) (e : Evidence α) : Except Failure (Checked (Scores α)) :=
  match analyzers.mapM (m := Checked) fun a => return (a, ← a.analyze e) with
  | .aborted => return .aborted
  | .value said => do
    return .value (← said.foldlM (fun scores (a, score) => addScore e scores a score) Scores.empty)

variable [NumberText α]

/-- Records that a price is withheld. The verdict itself stays. -/
def withhold (reason : Rejection α) (v : Verdict α) : Verdict α :=
  { v with
    risks := v.risks ++ [reason.message]
    overall := { v.overall with
      reasoning := s!"{v.overall.reasoning}; Buy price withheld: {reason.message}" } }

def combine (e : Evidence α) (strategy : Strategy α) (scores : Scores α) (valuation : Valuation α) :
    Recommendation α :=
  let verdict := strategy.interpret scores
  let verdict := valuation.rejection?.elim verdict (withhold · verdict)
  { productId := e.productId
    overall := verdict.overall
    dimensions := scores
    action := verdict.action
    strategy := strategy.name
    urgency := verdict.urgency
    estimatedReturn := verdict.estimatedReturn
    timeHorizon := verdict.timeHorizon
    risks := verdict.risks
    opportunities := verdict.opportunities
    buyPrice := valuation.price? }

end Recommendation

def recommend [NumberText α] (analyzers : List (Analyzer α)) (policy : PricePolicy α)
    (strategy : Strategy α) (e : Evidence α) : Except Failure (Checked (Recommendation α)) := do
  e.validate
  let scores ← Recommendation.scoreAll analyzers e
  return do
    let scores ← scores
    return .combine e strategy scores (← appraise policy e scores strategy.margin)

end Appraisal
