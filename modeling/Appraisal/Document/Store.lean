import Appraisal.Document.Evidence
import Appraisal.Document.Recommendation
import Appraisal.Json.Reader
import Appraisal.Service

/-!
# Documents of the store

How bundles and answers stand in documents. Whether moments are shown is left to the caller.
-/

namespace Appraisal
open Json Json.Decode

variable {α : Type}

def Bundle.ofJson? [Arithmetic α] : Json α → Option (Bundle α) := decodeStructure do
  return {
    products := ← defaulted "products" [] (list? Product.ofJson?)
    guides := ← defaulted "market_records" [] (list? PriceGuide.ofJson?)
    sales := ← defaulted "sales_statistics" [] (list? SalesHistory.ofJson?)
    discussions := ← defaulted "sentiment" [] (list? Discussion.ofJson?)
    entries := ← defaulted "retirement" [] (list? CatalogEntry.ofJson?) }

/-- Reads the text of a bundle. Only the members that a bundle has need to mean something. -/
def Bundle.read [Arithmetic α] (text : String) : Except Failure (Bundle α) :=
  match Json.readLoosely? text >>= Bundle.ofJson? with
  | some bundle => .ok bundle
  | none => .error .unreadable

def BundleCounts.toJson (c : BundleCounts) : Json α := .object [
  ("products", .nat c.products),
  ("market_records", .nat c.guides),
  ("sales_statistics", .nat c.sales),
  ("sentiment", .nat c.discussions),
  ("retirement", .nat c.entries)]

/-- A request; when it was first made is shown to those who ask. -/
def RefreshRequest.toJson (requestedAt : Option (String → String)) (r : RefreshRequest) : Json α :=
  .object (
    [("catalog_number", .string r.catalogNumber)] ++
    member? "requested_at" (fun text => .string (text r.requestedAt)) requestedAt ++
    [("request_count", ofUInt32 r.count)])

variable [Arithmetic α]

def Record.toJson : Record α → Json α
  | .product p => p.toJson
  | .guide g => g.toJson
  | .sales h => h.toJson
  | .discussion d => d.toJson
  | .entry e => e.toJson

end Appraisal
