import Appraisal.Catalog.Entry
import Appraisal.Evidence.Basic
import Appraisal.Failure
import Appraisal.Market.Discussion
import Appraisal.Text.Blank

/-!
# Building evidence

From the records about a product to the evidence that is judged. The same records and the same day
always give the same evidence.
-/

namespace Appraisal

/-- The records that share the catalog number of a product. -/
structure Related (α : Type) where
  guide : Option PriceGuide := none
  sales : Option (SalesHistory α) := none
  discussion : Option (Discussion α) := none
  entry : Option CatalogEntry := none

variable {α : Type}

/-- What the price guide of a product lacks. Without a catalog number there is no guide to ask
for. -/
def incompleteness? (product : Product α) (guide : Option PriceGuide) : Option Incomplete := do
  let catalogNumber ← product.catalogNumber
  let missing := guide.elim Named.all PriceGuide.missing
  guard !missing.isEmpty
  return { productId := product.id, catalogNumber, missing }

def PricingEvidence.ofRecords (product : Product α) (related : Related α) : PricingEvidence α :=
  let sales := related.sales.bind SalesHistory.primary
  { retailPrice := product.retailPrice.filter Cents.isPositive
    listingPrice := product.price.filter Cents.isPositive
    market := related.guide.bind PriceGuide.prices?
    transactionCount := sales.map (·.totalTransactions)
    priceVolatility := sales.bind (·.volatility) }

/-- The average score of a post, as recorded or from the totals. -/
def Discussion.average? [Arithmetic α] (d : Discussion α) : Option α :=
  d.averageScore <|>
    if 0 < d.postCount then
      some (Arithmetic.ofInt d.totalScore.toInt / Arithmetic.ofNat d.postCount.toNat)
    else none

def Community.ofDiscussion [Arithmetic α] (d : Discussion α) : Community α where
  postCount := d.postCount
  totalScore := d.totalScore
  averageScore := d.average?
  totalComments := d.totalComments

def DemandEvidence.ofRecords [Arithmetic α] (product : Product α) (related : Related α) : DemandEvidence α :=
  let prices := related.guide.bind PriceGuide.prices?
  { transactions := related.sales.bind SalesHistory.primary
    guideTimesSold := prices.bind (·.sixMonthNew.timesSold)
    askingPrice := prices.bind (·.currentNew.referencePrice)
    paidPrice := prices.bind (·.sixMonthNew.referencePrice)
    retailPrice := product.retailPrice.filter Cents.isPositive
    currentLots := prices.bind (·.currentNew.totalLots)
    community := related.discussion.map Community.ofDiscussion
    unitsSold := product.unitsSold }

/-- A year of retirement that the catalog settles counts before everything else: once it has come,
an expected date does not matter, and the flag supplies a year only when there is none. -/
def AvailabilityEvidence.ofRecords (product : Product α) (entry : Option CatalogEntry) (asOf : Date) :
    AvailabilityEvidence :=
  let yearRetired := entry.bind (·.yearRetired)
  let expected := entry.bind (·.expectedRetirement)
  let flagged := entry.any (·.retiringSoon)
  { stock := product.stock
    listingStatus := product.listingStatus
    retiringSoon := entry.map (·.retiringSoon)
    expectedRetirement := expected
    daysUntilRetirement :=
      if yearRetired.any (· ≤ asOf.year) then none
      else expected.map fun date => Int64.ofInt (date.daysSince asOf)
    yearReleased := entry.bind (·.yearReleased)
    yearRetired
    retirementYear := yearRetired <|> if flagged then expected.map (·.year) else none }

def notBlank (text : Option String) : Option String := text.filter fun s => !Text.isBlankText s

def QualityEvidence.ofRecords (product : Product α) (entry : Option CatalogEntry) : QualityEvidence α where
  rating := product.rating
  reviewCount := product.reviewCount
  ratingDistribution := product.ratingDistribution
  brand := notBlank product.brand
  theme := notBlank (entry.bind (·.theme))
  partsCount := entry.bind (·.partsCount)

def Evidence.ofRecords [Arithmetic α] (product : Product α) (related : Related α) (asOf : Date) :
    Evidence α where
  productId := product.id
  name := product.name
  catalogNumber := product.catalogNumber
  asOf
  pricing := .ofRecords product related
  demand := .ofRecords product related
  availability := .ofRecords product related.entry asOf
  quality := .ofRecords product related.entry

end Appraisal
