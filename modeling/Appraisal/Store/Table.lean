import Appraisal.Failure

/-!
# Tables

The tables of records, and the lookup of many keys in one of them. The lookup is a text that numbers
its keys, and there are only so many numbers.
-/

namespace Appraisal

inductive Table where
  | products
  | guides
  | sales
  | discussions
  | entries
  deriving DecidableEq

namespace Table

def name : Table → String
  | products => "products"
  | guides => "market_records"
  | sales => "sales_statistics"
  | discussions => "sentiment"
  | entries => "retirement"

def columns : Table → List String
  | products => [
    "product_id", "name", "catalog_number", "brand", "price_cents", "retail_price_cents",
    "units_sold", "stock", "listing_status", "rating", "review_count", "rating_distribution"]
  | guides => [
    "catalog_number", "title", "current_new", "current_used", "six_month_new", "six_month_used",
    "scraped_at"]
  | sales => ["catalog_number", "new_stats", "used_stats", "computed_at"]
  | discussions =>
    ["catalog_number", "post_count", "total_score", "average_score", "total_comments"]
  | entries => [
    "catalog_number", "retiring_soon", "expected_retirement_date", "year_released",
    "year_retired", "theme", "parts_count"]

def keyColumn (t : Table) : String := t.columns.headD ""

/-- The numbers of `count` keys. -/
def keyNumbers (count : Nat) : String :=
  commaList ((List.range count).map fun n => "?" ++ Nat.repr (n + 1))

/-- The lookup of `count` keys up to the first of their numbers. -/
def lookupStart (t : Table) : String :=
  "SELECT " ++ commaList t.columns ++ " FROM " ++ t.name ++ " WHERE " ++ t.keyColumn ++ " IN ("

def lookupText (t : Table) (count : Nat) : String := t.lookupStart ++ keyNumbers count ++ ")"

/-- No lookup numbers more keys. -/
def mostKeys : Nat := 32766

/-- Where the first number stands that is too large. -/
def lookupLimit (t : Table) : Nat := (t.lookupStart ++ keyNumbers mostKeys ++ ", ").utf8ByteSize

/-- Refuses a lookup of too many keys. -/
def lookUp {β : Type} (t : Table) (keys : List String) (found : Except Failure β) :
    Except Failure β :=
  if keys.length ≤ mostKeys then found
  else .error (.database (
    "variable number must be between ?1 and ?" ++ Nat.repr mostKeys ++ " in " ++
      t.lookupText keys.length ++ " at offset " ++ Nat.repr t.lookupLimit))

end Table
end Appraisal
