import Appraisal.Gathering.Sources

/-!
# Gathering evidence

For one product or for a batch, all related records are looked up and the price guides are checked
before any evidence is built. Catalog numbers whose guides are incomplete are reported for a refresh.
-/

namespace Appraisal

/-- What gathering works with. -/
structure Gatherer (α : Type) where
  sources : Sources α
  /-- Where catalog numbers with incomplete guides are reported, if anywhere. A report may fail. -/
  queue : Option (List String → Except Failure Unit)
  asOf : Date

namespace Gatherer
variable {α : Type}

/-- Reports the guides of some products, if there is a queue. A report that fails is dropped. -/
def reportIncomplete (g : Gatherer α) (products : List Incomplete) : Traced Unit :=
  match g.queue with
  | none => pure ()
  | some enqueue => do
    let keys := sortedDistinct (products.map (·.catalogNumber))
    discard (Traced.request (.refresh keys) (enqueue keys)).attempt

/-- Everything that is filed under a catalog number. -/
def related (g : Gatherer α) (key : String) : Traced (Related α) := do
  let guide ← .request (.single .guide key) (g.sources.guide key)
  let sales ← .request (.single .sales key) (g.sources.sales key)
  let discussion ← .request (.single .discussion key) (g.sources.discussion key)
  let entry ← .request (.single .entry key) (g.sources.entry key)
  return { guide, sales, discussion, entry }

/-- The evidence for one product. A product without a catalog number has no related records. -/
def gather [Arithmetic α] (g : Gatherer α) (id : String) : Traced (Evidence α) := do
  match ← .request (.product id) (g.sources.product id) with
  | none => .fail (.notFound s!"product {id}")
  | some product =>
    match product.catalogNumber with
    | none => return Evidence.ofRecords product {} g.asOf
    | some key =>
      let related ← g.related key
      match incompleteness? product related.guide with
      | some incomplete =>
        g.reportIncomplete [incomplete]
        .fail (.incomplete [incomplete])
      | none => return Evidence.ofRecords product related g.asOf

/-- The products of the different ids, in the order in which the ids come first. One unknown id
fails the whole request. -/
def fetch (g : Gatherer α) (ids : List String) : Traced (List (Product α)) := do
  let wanted := distinct ids
  let found ← .request (.products wanted) (g.sources.products wanted)
  let byId := Keyed.byKey Product.id found
  let unknown := wanted.filter fun id => !byId.contains id
  if unknown.isEmpty then return wanted.filterMap byId.get?
  else .fail (.notFound s!"products {commaList unknown}")

/-- The records of a batch, by catalog number. -/
structure Records (α : Type) where
  guides : Keyed PriceGuide := .empty
  sales : Keyed (SalesHistory α) := .empty
  discussions : Keyed (Discussion α) := .empty
  entries : Keyed CatalogEntry := .empty

namespace Records

/-- The records that belong to a product. -/
def of (r : Records α) (product : Product α) : Related α where
  guide := product.catalogNumber.bind r.guides.get?
  sales := product.catalogNumber.bind r.sales.get?
  discussion := product.catalogNumber.bind r.discussions.get?
  entry := product.catalogNumber.bind r.entries.get?

end Records

/-- The records under some catalog numbers; one request a source, and none without a number. -/
def records (g : Gatherer α) (keys : List String) : Traced (Records α) :=
  if keys.isEmpty then pure {}
  else do
    let guides ← .request (.batch .guide keys) (g.sources.guides keys)
    let sales ← .request (.batch .sales keys) (g.sources.salesOf keys)
    let discussions ← .request (.batch .discussion keys) (g.sources.discussions keys)
    let entries ← .request (.batch .entry keys) (g.sources.entries keys)
    return { guides, sales, discussions, entries }

/-- The evidence for some products, by product id. One incomplete price guide fails the whole
batch, and the failure names all of them. -/
def gatherAll [Arithmetic α] (g : Gatherer α) (products : List (Product α)) :
    Traced (Keyed (Evidence α)) := do
  let records ← g.records (sortedDistinct (products.filterMap (·.catalogNumber)))
  let incomplete := products.filterMap fun p => incompleteness? p (records.of p).guide
  if incomplete.isEmpty then
    return .ofList (products.map fun p => (p.id, Evidence.ofRecords p (records.of p) g.asOf))
  else
    g.reportIncomplete incomplete
    .fail (.incomplete incomplete)

end Gatherer
end Appraisal
