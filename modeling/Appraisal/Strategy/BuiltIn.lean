import Appraisal.Strategy.Basic

/-!
# Built-in strategies

Holding for the years around retirement, buying good sets below their value, and reselling within
weeks.
-/

namespace Appraisal.Strategy
open NumberText

variable {α : Type} [Arithmetic α] [NumberText α]

/-- A return that grows with the overall value above 40, up to 60 percent. -/
def holdingReturn (overall : α) : α :=
  Arithmetic.clamp 0.0 60.0 ((overall - 40.0) / (100.0 - 40.0) * 60.0)

/-- The horizon depends on where the set stands with respect to its retirement. -/
def holdingNarrative (scores : Scores α) (overall : α) : Narrative α :=
  if scores.present.isEmpty then {}
  else
    let estimatedReturn := some (holdingReturn overall)
    match scores.availability.bind (·.dataText? "retirement_phase") with
    | some "pre_retirement" =>
      { estimatedReturn
        timeHorizon := some "1-3 years (pre-retirement accumulation)"
        opportunity := some "Pre-retirement window: accumulate before supply ends" }
    | some "retired" =>
      { estimatedReturn
        timeHorizon := some "2-5 years (appreciation phase)"
        opportunity := some "Appreciation phase: retired set with fixed supply" }
    | _ => { estimatedReturn, timeHorizon := some "3-5 years" }

omit [NumberText α] in
/-- Scarcity dominates. -/
def investmentFocus : Strategy α where
  name := "Investment Focus"
  description :=
    "Long-term holds: favors sets near or past retirement where fixed supply drives appreciation"
  weights := .ofList [(.availability, 0.55), (.demand, 0.30), (.quality, 0.15)]
  actions := { strongBuy := 75.0, buy := 55.0, hold := 40.0 }
  urgencies := { urgent := 80.0, moderate := 60.0, low := 40.0 }
  margin := 0.20
  narrative := telling holdingNarrative

/-- Quality that is in demand is an opportunity, demand without quality a risk. -/
def bargainNarrative (scores : Scores α) (_overall : α) : Narrative α :=
  let timeHorizon := if scores.present.isEmpty then none else some "6-12 months"
  match scores.quality, scores.demand with
  | some quality, some demand =>
    { timeHorizon
      opportunity :=
        if (70.0 : α) ≤ quality.value ∧ (60.0 : α) ≤ demand.value then
          some "Quality goods with proven demand"
        else none
      risk :=
        if (75.0 : α) ≤ demand.value ∧ quality.value < 50.0 then
          some "Overpaying for hype: demand outpaces quality"
        else none }
  | _, _ => { timeHorizon }

omit [NumberText α] in
/-- Quality and demand balance, at a wide margin. -/
def bargainHunter : Strategy α where
  name := "Bargain Hunter"
  description := "Value buys: balances quality and demand and insists on a wide margin of safety"
  weights := .ofList [(.quality, 0.40), (.demand, 0.40), (.availability, 0.20)]
  actions := { strongBuy := 80.0, buy := 65.0, hold := 45.0 }
  urgencies := { urgent := 85.0, moderate := 65.0, low := 40.0 }
  margin := 0.30
  narrative := telling bargainNarrative

omit [NumberText α] in
/-- A return that grows with demand above 50, up to 30 percent. -/
def flipReturn (demand : α) : α := Arithmetic.clamp 0.0 30.0 ((demand - 50.0) * 0.6)

/-- A market that has risen fast may fall before the set is sold. -/
def overheatedRisk? (demand : Score α) : Option String := do
  let strength ← demand.dataNumber? "rsi"
  guard ((80.0 : α) < strength)
  return s!"Overheated market (RSI {whole strength}): prices may correct before resale"

/-- Only demand matters within a few weeks. -/
def flipNarrative (scores : Scores α) (_overall : α) : Narrative α :=
  match scores.demand with
  | none => {}
  | some demand =>
    { timeHorizon := some "0-3 months"
      estimatedReturn := some (flipReturn demand.value)
      risk := overheatedRisk? demand }

/-- Quality hardly counts. -/
def quickFlip : Strategy α where
  name := "Quick Flip"
  description := "Short-term resale: driven by live sales velocity and momentum"
  weights := .ofList [(.demand, 0.55), (.availability, 0.35), (.quality, 0.10)]
  actions := { strongBuy := 70.0, buy := 55.0, hold := 40.0 }
  urgencies := { urgent := 75.0, moderate := 55.0, low := 35.0 }
  margin := 0.25
  narrative := telling flipNarrative

end Appraisal.Strategy
