import Appraisal.Catalog.Entry
import Appraisal.Catalog.Product
import Appraisal.Document.Values
import Appraisal.Market.Discussion
import Appraisal.Market.PriceGuide
import Appraisal.Market.Sales

/-!
# Documents of records

How the records of the sources stand in documents.
-/

namespace Appraisal
open Json Json.Decode

variable {α : Type}

namespace PriceBox

def toJson (b : PriceBox) : Json α := .object [
  ("times_sold", .ofOption ofUInt32 b.timesSold),
  ("total_lots", .ofOption ofUInt32 b.totalLots),
  ("total_qty", .ofOption ofUInt32 b.totalQuantity),
  ("min_price", .ofOption Cents.toJson b.minPrice),
  ("avg_price", .ofOption Cents.toJson b.averagePrice),
  ("qty_avg_price", .ofOption Cents.toJson b.quantityAveragePrice),
  ("max_price", .ofOption Cents.toJson b.maxPrice)]

def ofJson? : Json α → Option PriceBox := decodeStructure do
  return {
    timesSold := ← optional "times_sold" uint32?
    totalLots := ← optional "total_lots" uint32?
    totalQuantity := ← optional "total_qty" uint32?
    minPrice := ← optional "min_price" Cents.ofJson?
    averagePrice := ← optional "avg_price" Cents.ofJson?
    quantityAveragePrice := ← optional "qty_avg_price" Cents.ofJson?
    maxPrice := ← optional "max_price" Cents.ofJson? }

end PriceBox

namespace PriceGuide

def toJson (g : PriceGuide) : Json α := .object [
  ("catalog_number", .string g.catalogNumber),
  ("title", .ofOption .string g.title),
  ("current_new", .ofOption PriceBox.toJson g.currentNew),
  ("current_used", .ofOption PriceBox.toJson g.currentUsed),
  ("six_month_new", .ofOption PriceBox.toJson g.sixMonthNew),
  ("six_month_used", .ofOption PriceBox.toJson g.sixMonthUsed),
  ("scraped_at", .ofOption Timestamp.toJson g.scrapedAt)]

def ofJson? : Json α → Option PriceGuide := decodeStructure do
  return {
    catalogNumber := ← required "catalog_number" string?
    title := ← optional "title" string?
    currentNew := ← optional "current_new" PriceBox.ofJson?
    currentUsed := ← optional "current_used" PriceBox.ofJson?
    sixMonthNew := ← optional "six_month_new" PriceBox.ofJson?
    sixMonthUsed := ← optional "six_month_used" PriceBox.ofJson?
    scrapedAt := ← optional "scraped_at" Timestamp.ofJson? }

end PriceGuide

namespace MarketPrices

def toJson (p : MarketPrices) : Json α := .object [
  ("current_new", p.currentNew.toJson),
  ("current_used", p.currentUsed.toJson),
  ("six_month_new", p.sixMonthNew.toJson),
  ("six_month_used", p.sixMonthUsed.toJson)]

def ofJson? : Json α → Option MarketPrices := decodeStructure do
  return {
    currentNew := ← required "current_new" PriceBox.ofJson?
    currentUsed := ← required "current_used" PriceBox.ofJson?
    sixMonthNew := ← required "six_month_new" PriceBox.ofJson?
    sixMonthUsed := ← required "six_month_used" PriceBox.ofJson? }

end MarketPrices

variable [Arithmetic α]

namespace ConditionSales

def toJson (s : ConditionSales α) : Json α := .object [
  ("total_transactions", ofUInt32 s.totalTransactions),
  ("total_quantity", .ofOption ofUInt32 s.totalQuantity),
  ("sales_velocity", .ofOption .number s.salesVelocity),
  ("recent_30d", .ofOption ofUInt32 s.recent30),
  ("recent_60d", .ofOption ofUInt32 s.recent60),
  ("recent_90d", .ofOption ofUInt32 s.recent90),
  ("avg_price", .ofOption Cents.toJson s.averagePrice),
  ("median_price", .ofOption Cents.toJson s.medianPrice),
  ("volatility", .ofOption .number s.volatility),
  ("price_trend", .ofOption Named.toJson s.priceTrend),
  ("price_change_pct", .ofOption .number s.priceChangePercent),
  ("rsi", .ofOption .number s.relativeStrength),
  ("volume_trend", .ofOption Named.toJson s.volumeTrend),
  ("last_sale", .ofOption Date.toJson s.lastSale)]

def ofJson? : Json α → Option (ConditionSales α) := decodeStructure do
  return {
    totalTransactions := ← required "total_transactions" uint32?
    totalQuantity := ← optional "total_quantity" uint32?
    salesVelocity := ← optional "sales_velocity" number?
    recent30 := ← optional "recent_30d" uint32?
    recent60 := ← optional "recent_60d" uint32?
    recent90 := ← optional "recent_90d" uint32?
    averagePrice := ← optional "avg_price" Cents.ofJson?
    medianPrice := ← optional "median_price" Cents.ofJson?
    volatility := ← optional "volatility" number?
    priceTrend := ← optional "price_trend" Named.ofJson?
    priceChangePercent := ← optional "price_change_pct" number?
    relativeStrength := ← optional "rsi" number?
    volumeTrend := ← optional "volume_trend" Named.ofJson?
    lastSale := ← optional "last_sale" Date.ofJson? }

end ConditionSales

namespace SalesHistory

def toJson (h : SalesHistory α) : Json α := .object [
  ("catalog_number", .string h.catalogNumber),
  ("new", .ofOption ConditionSales.toJson h.new),
  ("used", .ofOption ConditionSales.toJson h.used),
  ("computed_at", .ofOption Timestamp.toJson h.computedAt)]

def ofJson? : Json α → Option (SalesHistory α) := decodeStructure do
  return {
    catalogNumber := ← required "catalog_number" string?
    new := ← optional "new" ConditionSales.ofJson?
    used := ← optional "used" ConditionSales.ofJson?
    computedAt := ← optional "computed_at" Timestamp.ofJson? }

end SalesHistory

namespace Discussion

def toJson (d : Discussion α) : Json α := .object [
  ("catalog_number", .string d.catalogNumber),
  ("post_count", ofUInt32 d.postCount),
  ("total_score", ofInt64 d.totalScore),
  ("average_score", .ofOption .number d.averageScore),
  ("total_comments", ofUInt32 d.totalComments)]

def ofJson? : Json α → Option (Discussion α) := decodeStructure do
  return {
    catalogNumber := ← required "catalog_number" string?
    postCount := ← required "post_count" uint32?
    totalScore := ← defaulted "total_score" 0 int64?
    averageScore := ← optional "average_score" number?
    totalComments := ← defaulted "total_comments" 0 uint32? }

end Discussion

namespace StarCounts

omit [Arithmetic α] in
def toJson (s : StarCounts) : Json α := .list ofUInt32 s.toList

omit [Arithmetic α] in
def ofJson? (j : Json α) : Option StarCounts := do
  match ← j.list? uint32? with
  | [one, two, three, four, five] => return { one, two, three, four, five }
  | _ => failure

end StarCounts

namespace Product

def toJson (p : Product α) : Json α := .object [
  ("product_id", .string p.id),
  ("name", .string p.name),
  ("catalog_number", .ofOption .string p.catalogNumber),
  ("brand", .ofOption .string p.brand),
  ("price", .ofOption Cents.toJson p.price),
  ("retail_price", .ofOption Cents.toJson p.retailPrice),
  ("units_sold", .ofOption ofUInt64 p.unitsSold),
  ("stock", .ofOption ofUInt64 p.stock),
  ("listing_status", .ofOption Named.toJson p.listingStatus),
  ("rating", .ofOption .number p.rating),
  ("review_count", .ofOption ofUInt32 p.reviewCount),
  ("rating_distribution", .ofOption StarCounts.toJson p.ratingDistribution)]

def ofJson? : Json α → Option (Product α) := decodeStructure do
  return {
    id := ← required "product_id" string?
    name := ← required "name" string?
    catalogNumber := ← optional "catalog_number" string?
    brand := ← optional "brand" string?
    price := ← optional "price" Cents.ofJson?
    retailPrice := ← optional "retail_price" Cents.ofJson?
    unitsSold := ← optional "units_sold" uint64?
    stock := ← optional "stock" uint64?
    listingStatus := ← optional "listing_status" Named.ofJson?
    rating := ← optional "rating" number?
    reviewCount := ← optional "review_count" uint32?
    ratingDistribution := ← optional "rating_distribution" StarCounts.ofJson? }

end Product

namespace CatalogEntry

omit [Arithmetic α] in
def toJson (e : CatalogEntry) : Json α := .object [
  ("catalog_number", .string e.catalogNumber),
  ("retiring_soon", .bool e.retiringSoon),
  ("expected_retirement_date", .ofOption Date.toJson e.expectedRetirement),
  ("year_released", .ofOption ofInt32 e.yearReleased),
  ("year_retired", .ofOption ofInt32 e.yearRetired),
  ("theme", .ofOption .string e.theme),
  ("parts_count", .ofOption ofUInt32 e.partsCount)]

omit [Arithmetic α] in
def ofJson? : Json α → Option CatalogEntry := decodeStructure do
  return {
    catalogNumber := ← required "catalog_number" string?
    retiringSoon := ← defaulted "retiring_soon" false bool?
    expectedRetirement := ← optional "expected_retirement_date" Date.ofJson?
    yearReleased := ← optional "year_released" int32?
    yearRetired := ← optional "year_retired" int32?
    theme := ← optional "theme" string?
    partsCount := ← optional "parts_count" uint32? }

end CatalogEntry
end Appraisal
