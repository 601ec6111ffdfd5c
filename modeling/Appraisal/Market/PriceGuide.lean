import Appraisal.Money
import Appraisal.Named
import Appraisal.Calendar.Timestamp

/-!
# Price guides

What the secondary market asks and pays for one catalog number: a box of statistics for new and for
used copies, now and over the last six months.
-/

namespace Appraisal

/-- Statistics of one condition over one window. A box without any value was looked at and nothing
was found. -/
structure PriceBox where
  timesSold : Option UInt32 := none
  totalLots : Option UInt32 := none
  totalQuantity : Option UInt32 := none
  minPrice : Option Cents := none
  averagePrice : Option Cents := none
  quantityAveragePrice : Option Cents := none
  maxPrice : Option Cents := none
  deriving DecidableEq

namespace PriceBox

def isEmpty (b : PriceBox) : Bool :=
  b.timesSold.isNone && b.totalLots.isNone && b.totalQuantity.isNone && b.minPrice.isNone &&
    b.averagePrice.isNone && b.quantityAveragePrice.isNone && b.maxPrice.isNone

def referencePrice (b : PriceBox) : Option Cents := b.averagePrice <|> b.quantityAveragePrice

end PriceBox

inductive BoxKind where
  | currentNew
  | currentUsed
  | sixMonthNew
  | sixMonthUsed
  deriving DecidableEq

namespace BoxKind

protected def name : BoxKind → String
  | currentNew => "current_new"
  | currentUsed => "current_used"
  | sixMonthNew => "six_month_new"
  | sixMonthUsed => "six_month_used"

instance : Named BoxKind where
  all := [currentNew, currentUsed, sixMonthNew, sixMonthUsed]
  name := BoxKind.name

def parse : String → Except String BoxKind := Named.parse "price box" []

end BoxKind

/-- The guide for one catalog number. A box that is missing was never looked at. -/
structure PriceGuide where
  catalogNumber : String
  title : Option String := none
  currentNew : Option PriceBox := none
  currentUsed : Option PriceBox := none
  sixMonthNew : Option PriceBox := none
  sixMonthUsed : Option PriceBox := none
  scrapedAt : Option Timestamp := none
  deriving DecidableEq

structure MarketPrices where
  currentNew : PriceBox
  currentUsed : PriceBox
  sixMonthNew : PriceBox
  sixMonthUsed : PriceBox
  deriving DecidableEq

namespace PriceGuide

def box (g : PriceGuide) : BoxKind → Option PriceBox
  | .currentNew => g.currentNew
  | .currentUsed => g.currentUsed
  | .sixMonthNew => g.sixMonthNew
  | .sixMonthUsed => g.sixMonthUsed

/-- The boxes that were never looked at, in their usual order. -/
def missing (g : PriceGuide) : List BoxKind := Named.all.filter fun kind => (g.box kind).isNone

def prices? (g : PriceGuide) : Option MarketPrices := do
  let currentNew ← g.currentNew
  let currentUsed ← g.currentUsed
  let sixMonthNew ← g.sixMonthNew
  let sixMonthUsed ← g.sixMonthUsed
  return { currentNew, currentUsed, sixMonthNew, sixMonthUsed }

end PriceGuide
end Appraisal
