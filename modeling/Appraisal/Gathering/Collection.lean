import Appraisal.Gathering.Sources

/-!
# Collections

Records in memory, each kind in a map. Single lookups and batches read the same maps.
-/

namespace Appraisal

/-- The records of all sources. -/
structure Collection (α : Type) where
  products : Keyed (Product α)
  guides : Keyed PriceGuide
  sales : Keyed (SalesHistory α)
  discussions : Keyed (Discussion α)
  entries : Keyed CatalogEntry

namespace Collection
variable {α : Type}

def sources (c : Collection α) : Sources α where
  product id := .ok (c.products.get? id)
  products ids := .ok (ids.filterMap c.products.get?)
  guide key := .ok (c.guides.get? key)
  guides keys := .ok (c.guides.restrict keys)
  sales key := .ok (c.sales.get? key)
  salesOf keys := .ok (c.sales.restrict keys)
  discussion key := .ok (c.discussions.get? key)
  discussions keys := .ok (c.discussions.restrict keys)
  entry key := .ok (c.entries.get? key)
  entries keys := .ok (c.entries.restrict keys)

end Collection
end Appraisal
