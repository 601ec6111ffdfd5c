import Appraisal.Document.Records
import Appraisal.Evidence.Basic

/-!
# Documents of evidence

How evidence stands in documents.
-/

namespace Appraisal
open Json Json.Decode

variable {α : Type}

namespace AvailabilityEvidence

def toJson (e : AvailabilityEvidence) : Json α := .object [
  ("stock", .ofOption ofUInt64 e.stock),
  ("listing_status", .ofOption Named.toJson e.listingStatus),
  ("retiring_soon", .ofOption .bool e.retiringSoon),
  ("expected_retirement_date", .ofOption Date.toJson e.expectedRetirement),
  ("days_until_retirement", .ofOption ofInt64 e.daysUntilRetirement),
  ("year_released", .ofOption ofInt32 e.yearReleased),
  ("year_retired", .ofOption ofInt32 e.yearRetired),
  ("retirement_year", .ofOption ofInt32 e.retirementYear)]

def ofJson? : Json α → Option AvailabilityEvidence := decodeStructure do
  return {
    stock := ← optionalNamed "stock" uint64?
    listingStatus := ← optionalNamed "listing_status" Named.ofJson?
    retiringSoon := ← optionalNamed "retiring_soon" bool?
    expectedRetirement := ← optionalNamed "expected_retirement_date" Date.ofJson?
    daysUntilRetirement := ← optionalNamed "days_until_retirement" int64?
    yearReleased := ← optionalNamed "year_released" int32?
    yearRetired := ← optionalNamed "year_retired" int32?
    retirementYear := ← optionalNamed "retirement_year" int32? }

end AvailabilityEvidence

variable [Arithmetic α]

namespace PricingEvidence

def toJson (p : PricingEvidence α) : Json α := .object [
  ("retail_price", .ofOption Cents.toJson p.retailPrice),
  ("listing_price", .ofOption Cents.toJson p.listingPrice),
  ("market", .ofOption MarketPrices.toJson p.market),
  ("transaction_count", .ofOption ofUInt32 p.transactionCount),
  ("price_volatility", .ofOption .number p.priceVolatility)]

def ofJson? : Json α → Option (PricingEvidence α) := decodeStructure do
  return {
    retailPrice := ← optionalNamed "retail_price" Cents.ofJson?
    listingPrice := ← optionalNamed "listing_price" Cents.ofJson?
    market := ← optionalNamed "market" MarketPrices.ofJson?
    transactionCount := ← optionalNamed "transaction_count" uint32?
    priceVolatility := ← optionalNamed "price_volatility" number? }

end PricingEvidence

namespace Community

def toJson (c : Community α) : Json α := .object [
  ("post_count", ofUInt32 c.postCount),
  ("total_score", ofInt64 c.totalScore),
  ("average_score", .ofOption .number c.averageScore),
  ("total_comments", ofUInt32 c.totalComments)]

def ofJson? : Json α → Option (Community α) := decodeStructure do
  return {
    postCount := ← required "post_count" uint32?
    totalScore := ← required "total_score" int64?
    averageScore := ← optionalNamed "average_score" number?
    totalComments := ← required "total_comments" uint32? }

end Community

namespace DemandEvidence

def toJson (e : DemandEvidence α) : Json α := .object [
  ("transactions", .ofOption ConditionSales.toJson e.transactions),
  ("legacy_times_sold", .ofOption ofUInt32 e.guideTimesSold),
  ("current_market_price", .ofOption Cents.toJson e.askingPrice),
  ("historical_market_price", .ofOption Cents.toJson e.paidPrice),
  ("retail_price", .ofOption Cents.toJson e.retailPrice),
  ("current_lots", .ofOption ofUInt32 e.currentLots),
  ("community", .ofOption Community.toJson e.community),
  ("units_sold", .ofOption ofUInt64 e.unitsSold)]

def ofJson? : Json α → Option (DemandEvidence α) := decodeStructure do
  return {
    transactions := ← optionalNamed "transactions" ConditionSales.ofJson?
    guideTimesSold := ← optionalNamed "legacy_times_sold" uint32?
    askingPrice := ← optionalNamed "current_market_price" Cents.ofJson?
    paidPrice := ← optionalNamed "historical_market_price" Cents.ofJson?
    retailPrice := ← optionalNamed "retail_price" Cents.ofJson?
    currentLots := ← optionalNamed "current_lots" uint32?
    community := ← optionalNamed "community" Community.ofJson?
    unitsSold := ← optionalNamed "units_sold" uint64? }

end DemandEvidence

namespace QualityEvidence

def toJson (e : QualityEvidence α) : Json α := .object [
  ("rating", .ofOption .number e.rating),
  ("review_count", .ofOption ofUInt32 e.reviewCount),
  ("rating_distribution", .ofOption StarCounts.toJson e.ratingDistribution),
  ("brand", .ofOption .string e.brand),
  ("theme", .ofOption .string e.theme),
  ("parts_count", .ofOption ofUInt32 e.partsCount)]

def ofJson? : Json α → Option (QualityEvidence α) := decodeStructure do
  return {
    rating := ← optionalNamed "rating" number?
    reviewCount := ← optionalNamed "review_count" uint32?
    ratingDistribution := ← optionalNamed "rating_distribution" StarCounts.ofJson?
    brand := ← optionalNamed "brand" string?
    theme := ← optionalNamed "theme" string?
    partsCount := ← optionalNamed "parts_count" uint32? }

end QualityEvidence

namespace Evidence

def toJson (e : Evidence α) : Json α := .object [
  ("product_id", .string e.productId),
  ("name", .string e.name),
  ("catalog_number", .ofOption .string e.catalogNumber),
  ("as_of", e.asOf.toJson),
  ("pricing", e.pricing.toJson),
  ("demand", e.demand.toJson),
  ("availability", e.availability.toJson),
  ("quality", e.quality.toJson)]

def ofJson? : Json α → Option (Evidence α) := decodeStructure do
  return {
    productId := ← required "product_id" string?
    name := ← required "name" string?
    catalogNumber := ← optionalNamed "catalog_number" string?
    asOf := ← required "as_of" Date.ofJson?
    pricing := ← required "pricing" PricingEvidence.ofJson?
    demand := ← required "demand" DemandEvidence.ofJson?
    availability := ← required "availability" AvailabilityEvidence.ofJson?
    quality := ← required "quality" QualityEvidence.ofJson? }

end Evidence
end Appraisal
