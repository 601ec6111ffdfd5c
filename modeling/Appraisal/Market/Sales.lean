import Appraisal.Money
import Appraisal.Named
import Appraisal.Calendar.Timestamp

/-!
# Sales

Statistics of single past sales of one catalog number, apart for new and for used copies.
-/

namespace Appraisal

/-- Where a series of prices or volumes is going. -/
inductive Trend where
  | increasing
  | stable
  | decreasing
  deriving DecidableEq

namespace Trend

protected def name : Trend → String
  | increasing => "increasing"
  | stable => "stable"
  | decreasing => "decreasing"

instance : Named Trend where
  all := [increasing, stable, decreasing]
  name := Trend.name

def parse : String → Except String Trend :=
  Named.parse "trend direction" [("up", increasing), ("flat", stable), ("down", decreasing)]

end Trend

structure ConditionSales (α : Type) where
  totalTransactions : UInt32
  totalQuantity : Option UInt32 := none
  /-- Sales a day over the observed window. -/
  salesVelocity : Option α := none
  recent30 : Option UInt32 := none
  recent60 : Option UInt32 := none
  recent90 : Option UInt32 := none
  averagePrice : Option Cents := none
  medianPrice : Option Cents := none
  /-- Standard deviation of the prices as a part of their mean. -/
  volatility : Option α := none
  priceTrend : Option Trend := none
  priceChangePercent : Option α := none
  /-- Relative strength of recent prices, between 0 and 100. -/
  relativeStrength : Option α := none
  volumeTrend : Option Trend := none
  lastSale : Option Date := none

structure SalesHistory (α : Type) where
  catalogNumber : String
  new : Option (ConditionSales α) := none
  used : Option (ConditionSales α) := none
  computedAt : Option Timestamp := none

namespace SalesHistory
variable {α : Type}

def sold? (sales : Option (ConditionSales α)) : Option (ConditionSales α) :=
  sales.filter fun s => 0 < s.totalTransactions

/-- The condition that speaks for the set: new copies if any was sold, else used ones if any was
sold, else whichever has statistics. -/
def primary (h : SalesHistory α) : Option (ConditionSales α) :=
  sold? h.new <|> sold? h.used <|> h.new <|> h.used

end SalesHistory
end Appraisal
