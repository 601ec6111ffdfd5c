import Appraisal.Document.Records
import Appraisal.Keyed
import Appraisal.Store.Cell

/-!
# Rows

The row in which a record of each kind is kept, and how a record is read from a row again. Both go by
the position of the columns.
-/

namespace Appraisal
open Cell

variable {α : Type}

/-- How one kind of record is kept: in which table, under which key and in what row. -/
structure Layout (α ρ : Type) where
  table : Table
  key : ρ → String
  write : ρ → Row α
  read : Row α → Except Failure ρ

namespace Product
variable [Arithmetic α] [NumberText α]

def toRow (p : Product α) : Row α := [
  .text p.id,
  .text p.name,
  .ofOption .text p.catalogNumber,
  .ofOption .text p.brand,
  .ofOption (.integer ·.value) p.price,
  .ofOption (.integer ·.value) p.retailPrice,
  .ofOption .ofCount p.unitsSold,
  .ofOption .ofCount p.stock,
  .ofOption (.text ·.name) p.listingStatus,
  .ofOption .ofReal p.rating,
  .ofOption .ofUInt32 p.reviewCount,
  .ofOption (.ofDocument ·.toJson) p.ratingDistribution]

omit [NumberText α] in
/-- A listing status that is not known is passed over, and so is a negative count. -/
def ofRow (row : Row α) : Except Failure (Product α) := do
  let status ← row.get .products 8 (nullable readText)
  let unitsSold ← row.get .products 6 (nullable readInteger)
  let stock ← row.get .products 7 (nullable readInteger)
  return {
    id := ← row.get .products 0 readText
    name := ← row.get .products 1 readText
    catalogNumber := ← row.get .products 2 (nullable readText)
    brand := ← row.get .products 3 (nullable readText)
    price := (← row.get .products 4 (nullable readInteger)).map Cents.mk
    retailPrice := (← row.get .products 5 (nullable readInteger)).map Cents.mk
    unitsSold := unitsSold.bind count?
    stock := stock.bind count?
    listingStatus := status.bind fun s => (ListingStatus.parse s).toOption
    rating := ← row.get .products 9 (nullable readReal)
    reviewCount := ← row.get .products 10 (nullable readUInt32)
    ratingDistribution := ← row.get .products 11 (nullable (readDocument StarCounts.ofJson?)) }

end Product

namespace PriceGuide
variable [NumberText α]

def toRow (g : PriceGuide) : Row α := [
  .text g.catalogNumber,
  .ofOption .text g.title,
  .ofOption (.ofDocument ·.toJson) g.currentNew,
  .ofOption (.ofDocument ·.toJson) g.currentUsed,
  .ofOption (.ofDocument ·.toJson) g.sixMonthNew,
  .ofOption (.ofDocument ·.toJson) g.sixMonthUsed,
  .ofOption .ofMoment g.scrapedAt]

omit [NumberText α] in
def ofRow [Arithmetic α] (row : Row α) : Except Failure PriceGuide := do
  return {
    catalogNumber := ← row.get .guides 0 readText
    title := ← row.get .guides 1 (nullable readText)
    currentNew := ← row.get .guides 2 (nullable (readDocument PriceBox.ofJson?))
    currentUsed := ← row.get .guides 3 (nullable (readDocument PriceBox.ofJson?))
    sixMonthNew := ← row.get .guides 4 (nullable (readDocument PriceBox.ofJson?))
    sixMonthUsed := ← row.get .guides 5 (nullable (readDocument PriceBox.ofJson?))
    scrapedAt := ← row.get .guides 6 readMoment }

end PriceGuide

namespace SalesHistory
variable [Arithmetic α] [NumberText α]

def toRow (h : SalesHistory α) : Row α := [
  .text h.catalogNumber,
  .ofOption (.ofDocument ·.toJson) h.new,
  .ofOption (.ofDocument ·.toJson) h.used,
  .ofOption .ofMoment h.computedAt]

omit [NumberText α] in
def ofRow (row : Row α) : Except Failure (SalesHistory α) := do
  return {
    catalogNumber := ← row.get .sales 0 readText
    new := ← row.get .sales 1 (nullable (readDocument ConditionSales.ofJson?))
    used := ← row.get .sales 2 (nullable (readDocument ConditionSales.ofJson?))
    computedAt := ← row.get .sales 3 readMoment }

end SalesHistory

namespace Discussion
variable [Arithmetic α]

def toRow (d : Discussion α) : Row α := [
  .text d.catalogNumber,
  .ofUInt32 d.postCount,
  .integer d.totalScore,
  .ofOption .ofReal d.averageScore,
  .ofUInt32 d.totalComments]

def ofRow (row : Row α) : Except Failure (Discussion α) := do
  return {
    catalogNumber := ← row.get .discussions 0 readText
    postCount := ← row.get .discussions 1 readUInt32
    totalScore := ← row.get .discussions 2 readInteger
    averageScore := ← row.get .discussions 3 (nullable readReal)
    totalComments := ← row.get .discussions 4 readUInt32 }

end Discussion

namespace CatalogEntry

def toRow (e : CatalogEntry) : Row α := [
  .text e.catalogNumber,
  .ofBool e.retiringSoon,
  .ofOption .ofDate e.expectedRetirement,
  .ofOption .ofInt32 e.yearReleased,
  .ofOption .ofInt32 e.yearRetired,
  .ofOption .text e.theme,
  .ofOption .ofUInt32 e.partsCount]

def ofRow (row : Row α) : Except Failure CatalogEntry := do
  return {
    catalogNumber := ← row.get .entries 0 readText
    retiringSoon := ← row.get .entries 1 readBool
    expectedRetirement := ← row.get .entries 2 (nullable readDate)
    yearReleased := ← row.get .entries 3 (nullable readInt32)
    yearRetired := ← row.get .entries 4 (nullable readInt32)
    theme := ← row.get .entries 5 (nullable readText)
    partsCount := ← row.get .entries 6 (nullable readUInt32) }

end CatalogEntry

namespace Layout
variable [Arithmetic α] [NumberText α]

def product : Layout α (Product α) := ⟨.products, Product.id, Product.toRow, Product.ofRow⟩

def guide : Layout α PriceGuide :=
  ⟨.guides, PriceGuide.catalogNumber, PriceGuide.toRow, PriceGuide.ofRow⟩

def sales : Layout α (SalesHistory α) :=
  ⟨.sales, SalesHistory.catalogNumber, SalesHistory.toRow, SalesHistory.ofRow⟩

omit [NumberText α] in
def discussion : Layout α (Discussion α) :=
  ⟨.discussions, Discussion.catalogNumber, Discussion.toRow, Discussion.ofRow⟩

omit [Arithmetic α] [NumberText α] in
def entry : Layout α CatalogEntry :=
  ⟨.entries, CatalogEntry.catalogNumber, CatalogEntry.toRow, CatalogEntry.ofRow⟩

omit [Arithmetic α] [NumberText α]
variable {ρ : Type}

/-- Keeps a record; one with the same key gives way. -/
def put (l : Layout α ρ) (rows : Keyed (Row α)) (record : ρ) : Keyed (Row α) :=
  rows.insert (l.key record) (l.write record)

def find (l : Layout α ρ) (rows : Keyed (Row α)) (key : String) : Except Failure (Option ρ) :=
  match rows.get? key with
  | some row => (l.read row).map some
  | none => .ok none

/-- The records under some keys, in ascending order of the keys. There are only so many keys that can
be looked up at once. -/
def findAll (l : Layout α ρ) (rows : Keyed (Row α)) (keys : List String) : Except Failure (List ρ) :=
  l.table.lookUp keys ((rows.restrict keys).values.mapM l.read)

/-- The records under some keys, each under its own key. -/
def findMany (l : Layout α ρ) (rows : Keyed (Row α)) (keys : List String) : Except Failure (Keyed ρ) :=
  (l.findAll rows keys).map (.byKey l.key)

end Layout
end Appraisal
