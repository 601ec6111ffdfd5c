import Appraisal.Market.PriceGuide
import Appraisal.Market.Sales
import Appraisal.Catalog.Product

/-!
# Evidence

What is known about a product on a reference date, cut into the slices that the analyses and the
valuation read. It is gathered once and then only read.
-/

namespace Appraisal

/-- What prices are known. -/
structure PricingEvidence (α : Type) where
  retailPrice : Option Cents := none
  listingPrice : Option Cents := none
  market : Option MarketPrices := none
  transactionCount : Option UInt32 := none
  priceVolatility : Option α := none

namespace PricingEvidence
variable {α : Type}

/-- What sellers ask for a new copy. -/
def askingPrice (p : PricingEvidence α) : Option Cents :=
  p.market.bind (·.currentNew.referencePrice)

/-- What buyers paid for a new copy in the last six months. -/
def paidPrice (p : PricingEvidence α) : Option Cents :=
  p.market.bind (·.sixMonthNew.referencePrice)

end PricingEvidence

/-- What collectors say. -/
structure Community (α : Type) where
  postCount : UInt32
  totalScore : Int64
  averageScore : Option α
  totalComments : UInt32

/-- What speaks for demand. -/
structure DemandEvidence (α : Type) where
  transactions : Option (ConditionSales α) := none
  /-- Sales by the price guide; they count only without transactions. -/
  guideTimesSold : Option UInt32 := none
  askingPrice : Option Cents := none
  paidPrice : Option Cents := none
  retailPrice : Option Cents := none
  currentLots : Option UInt32 := none
  community : Option (Community α) := none
  unitsSold : Option UInt64 := none

/-- How hard the product is to get. -/
structure AvailabilityEvidence where
  stock : Option UInt64 := none
  listingStatus : Option ListingStatus := none
  /-- Missing when the catalog has no entry. -/
  retiringSoon : Option Bool := none
  expectedRetirement : Option Date := none
  daysUntilRetirement : Option Int64 := none
  yearReleased : Option Int32 := none
  /-- The year of retirement that the catalog settles. -/
  yearRetired : Option Int32 := none
  /-- The year from which retirement is counted. -/
  retirementYear : Option Int32 := none

/-- How good the product is. -/
structure QualityEvidence (α : Type) where
  rating : Option α := none
  reviewCount : Option UInt32 := none
  ratingDistribution : Option StarCounts := none
  brand : Option String := none
  theme : Option String := none
  partsCount : Option UInt32 := none

/-- Everything that is known about a product. -/
structure Evidence (α : Type) where
  productId : String
  name : String
  catalogNumber : Option String
  /-- The day on which everything is judged. -/
  asOf : Date
  pricing : PricingEvidence α
  demand : DemandEvidence α
  availability : AvailabilityEvidence
  quality : QualityEvidence α

end Appraisal
