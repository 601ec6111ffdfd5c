import Appraisal.Analysis.Quality
import Appraisal.Valuation.Policy
import Appraisal.Valuation.Retirement

/-!
# Factors of a price

Each factor moves the intrinsic value away from the price on which it is anchored. A factor of one
says nothing.
-/

namespace Appraisal.Factor

variable {α : Type} [Arithmetic α]

/-- A retired set has a premium that fades with the years. -/
def retirement (p : PricePolicy α) (standing : RetirementStanding) : α :=
  match standing.status, standing.years with
  | .active, _ => 1.0
  | .retiringSoon, _ => p.retiringSoonFactor
  | .retired, some years =>
    let decay :=
      Arithmetic.exp (-(Arithmetic.ofInt (max years 0).toInt : α) / p.fadingYears)
    p.longRetiredFactor + (p.freshlyRetiredFactor - p.longRetiredFactor) * decay
  | .retired, none => p.presumedRetiredFactor

/-- Demand moves the price by at most the spread. -/
def demand (p : PricePolicy α) : Option α → α
  | some score =>
    1.0 - p.demandSpread + Arithmetic.clamp 0.0 100.0 score / 100.0 * 2.0 * p.demandSpread
  | none => 1.0

/-- A thin market is hard to sell in. -/
def liquidity : Option UInt32 → α
  | none => 1.0
  | some n => if n = 0 then 0.80 else if n ≤ 2 then 0.90 else if n ≤ 9 then 0.95 else 1.0

/-- Erratic prices are hard to rely on. -/
def volatility : Option α → α
  | some v => if (0.40 : α) < v then 0.85 else if (0.25 : α) < v then 0.93 else 1.0
  | none => 1.0

def theme (p : PricePolicy α) (theme : Option String) : α :=
  if theme.any Quality.isCollectorTheme then p.themeFactor else 1.0

/-- Sets with many parts for their price hold their value better. -/
def partsValue (p : PricePolicy α) (retail : Option Cents) (partsCount : Option UInt32) : α :=
  match retail, partsCount.filter (0 < ·) with
  | some retail, some parts =>
    let perPart : α := retail.toNumber / Arithmetic.ofNat parts.toNat
    if perPart ≤ p.cheapPartCents then 1.05
    else if p.dearPartCents < perPart then 0.95
    else 1.0
  | _, _ => 1.0

end Appraisal.Factor
