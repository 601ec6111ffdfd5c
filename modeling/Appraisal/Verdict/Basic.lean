import Appraisal.NumberText
import Appraisal.Verdict.Weights

/-!
# Verdicts

How a set of scores is read: an overall score, what to do and how soon, and which risks and
opportunities show.
-/

namespace Appraisal

inductive Action where
  | strongBuy
  | buy
  | hold
  | pass
  deriving DecidableEq

namespace Action

protected def name : Action → String
  | strongBuy => "strong_buy"
  | buy => "buy"
  | hold => "hold"
  | pass => "pass"

instance : Named Action where
  all := [strongBuy, buy, hold, pass]
  name := Action.name

def parse : String → Except String Action := Named.parse "action" []

end Action

inductive Urgency where
  | urgent
  | moderate
  | low
  | noRush
  deriving DecidableEq

namespace Urgency

protected def name : Urgency → String
  | urgent => "urgent"
  | moderate => "moderate"
  | low => "low"
  | noRush => "no_rush"

instance : Named Urgency where
  all := [urgent, moderate, low, noRush]
  name := Urgency.name

end Urgency

structure ActionLevels (α : Type) where
  strongBuy : α
  buy : α
  hold : α

structure UrgencyLevels (α : Type) where
  urgent : α
  moderate : α
  low : α

section Levels
variable {α : Type} [Arithmetic α]

def ActionLevels.action (levels : ActionLevels α) (value : α) : Action :=
  if levels.strongBuy ≤ value then .strongBuy
  else if levels.buy ≤ value then .buy
  else if levels.hold ≤ value then .hold
  else .pass

/-- How soon to do it. Only availability makes a purchase urgent. -/
def UrgencyLevels.urgency (levels : UrgencyLevels α) (availability : Option (Score α)) : Urgency :=
  match availability with
  | none => .noRush
  | some score =>
    if levels.urgent ≤ score.value then .urgent
    else if levels.moderate ≤ score.value then .moderate
    else if levels.low ≤ score.value then .low
    else .noRush

end Levels

structure Verdict (α : Type) where
  overall : Score α
  action : Action
  urgency : Urgency
  /-- The expected return in percent of the price. -/
  estimatedReturn : Option α := none
  timeHorizon : Option String := none
  risks : List String
  opportunities : List String

namespace Verdict
open NumberText

variable {α : Type} [Arithmetic α]

/-- What a score says by itself: a risk when it is low, an opportunity when it is high. -/
inductive Finding where
  | risk (text : String)
  | opportunity (text : String)
  deriving DecidableEq

namespace Finding

def risk? : Finding → Option String
  | risk text => some text
  | opportunity _ => none

def opportunity? : Finding → Option String
  | risk _ => none
  | opportunity text => some text

end Finding

def demandFinding? (value : α) : Option Finding :=
  if value < 30.0 then some (.risk "Low market demand")
  else if (70.0 : α) ≤ value then some (.opportunity "Strong market demand")
  else none

def availabilityFinding? (value : α) : Option Finding :=
  if (75.0 : α) ≤ value then some (.opportunity "Scarcity value")
  else if value < 30.0 then some (.risk "Readily available, no scarcity premium")
  else none

def qualityFinding? (value : α) : Option Finding :=
  if value < 40.0 then some (.risk "Quality concerns")
  else if (80.0 : α) ≤ value then some (.opportunity "High quality product")
  else none

def findings (scores : Scores α) : List Finding :=
  [ scores.demand.bind fun s => demandFinding? s.value,
    scores.availability.bind fun s => availabilityFinding? s.value,
    scores.quality.bind fun s => qualityFinding? s.value ].filterMap id

def noDataRisk (d : Dimension) : String := s!"No {d.name} data available"

/-- A dimension that should count but has no score is a risk. -/
def missingRisks (weights : Weights α) (scores : Scores α) : List String :=
  (scores.missing.filter fun d => (weights.positive? d).isSome).map noDataRisk

def opportunitiesIn (scores : Scores α) : List String :=
  (findings scores).filterMap Finding.opportunity?

def nothingScored : String := "Insufficient data to score this product"

variable [NumberText α]

def limitedDataRisk (d : Dimension) (confidence : α) : String :=
  s!"Limited {d.name} data ({whole (confidence * 100.0)}% of inputs available)"

/-- A score with little behind it is a risk. -/
def confidenceRisks (scores : Scores α) : List String :=
  scores.present.filterMap fun (d, score) =>
    if score.confidence < 0.5 then some (limitedDataRisk d score.confidence) else none

def risksIn (weights : Weights α) (scores : Scores α) : List String :=
  (findings scores).filterMap Finding.risk? ++ confidenceRisks scores ++ missingRisks weights scores

/-- What one contribution has to say in the overall reasoning. -/
def contributionText (c : Contribution α) : String :=
  s!"{c.dimension.label} {whole c.score.value}/100 ({whole (c.weight * 100.0)}% weight): " ++
    c.score.reasoning

/-- The two contributions that add most speak for the whole. -/
def overallReasoning (parts : List (Contribution α)) : String :=
  "; ".intercalate (((parts.mergeSort Contribution.ranksBefore).take 2).map contributionText)

omit [NumberText α] in
def overallDataPoints (parts : List (Contribution α)) : Keyed (Json α) :=
  .ofList <|
    (parts.flatMap fun c =>
      [ (c.dimension.name ++ "_weight", .number c.weight),
        (c.dimension.name ++ "_score", .number c.score.value) ]) ++
    [("dimensions_used", .nat parts.length)]

def overallComponent (c : Contribution α) : Component α where
  name := c.dimension.name
  weight := c.weight
  score := c.score.value
  raw := .number c.score.value
  calculation := s!"{hundredths c.weight} × {tenths c.score.value} = {hundredths c.points}"
  reasoning := c.score.reasoning

def overallBreakdown (parts : List (Contribution α)) (value : α) (missing : List Dimension) :
    Breakdown α where
  components := parts.map overallComponent
  formula := "Σ(weight × score) / Σ(weight) over scored dimensions"
  total := Arithmetic.round value
  missingData := missing.map Dimension.name

def overallScore (parts : List (Contribution α)) (value confidence : α)
    (missing : List Dimension) : Score α :=
  { Score.of value confidence (overallReasoning parts) with
    dataPoints := overallDataPoints parts
    breakdown := some (overallBreakdown parts value missing) }

/-- The verdict on some scores. When nothing contributes there is no overall score to act on. -/
def read (weights : Weights α) (actions : ActionLevels α) (urgencies : UrgencyLevels α)
    (scores : Scores α) : Verdict α :=
  let urgency := urgencies.urgency scores.availability
  let risks := risksIn weights scores
  let opportunities := opportunitiesIn scores
  match weights.overall? scores with
  | none =>
    { overall := Score.of 0.0 0.0 "Insufficient data: no dimension produced a score"
      action := .pass
      urgency
      risks := nothingScored :: risks
      opportunities }
  | some (value, confidence) =>
    { overall := overallScore (weights.contributions scores) value confidence scores.missing
      action := actions.action value
      urgency
      risks
      opportunities }

end Verdict
end Appraisal
