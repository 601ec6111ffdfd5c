import Appraisal.Evidence.Build
import Appraisal.Keyed

/-!
# Sources

Where records come from. Every lookup may fail. A batch of lookups costs one request, however many
keys it has.
-/

namespace Appraisal

/-- The kinds of records that are filed under a catalog number. -/
inductive RecordKind where
  | guide
  | sales
  | discussion
  | entry
  deriving DecidableEq

/-- A request to a source, or one to refresh price guides. -/
inductive Call where
  | product (id : String)
  | products (ids : List String)
  | single (kind : RecordKind) (key : String)
  | batch (kind : RecordKind) (keys : List String)
  | refresh (keys : List String)
  deriving DecidableEq

/-- The lookups of all sources. -/
structure Sources (α : Type) where
  product : String → Except Failure (Option (Product α))
  /-- Unknown ids are left out. -/
  products : List String → Except Failure (List (Product α))
  guide : String → Except Failure (Option PriceGuide)
  guides : List String → Except Failure (Keyed PriceGuide)
  sales : String → Except Failure (Option (SalesHistory α))
  salesOf : List String → Except Failure (Keyed (SalesHistory α))
  discussion : String → Except Failure (Option (Discussion α))
  discussions : List String → Except Failure (Keyed (Discussion α))
  entry : String → Except Failure (Option CatalogEntry)
  entries : List String → Except Failure (Keyed CatalogEntry)

/-- A computation that asks sources: the requests it made, in order, and how it ended. -/
structure Traced (β : Type) where
  calls : List Call
  result : Except Failure β

namespace Traced
variable {β γ : Type}

instance : Monad Traced where
  pure x := ⟨[], .ok x⟩
  bind x f :=
    match x.result with
    | .error e => ⟨x.calls, .error e⟩
    | .ok a => ⟨x.calls ++ (f a).calls, (f a).result⟩

/-- One request. It counts even when it fails. -/
def request (call : Call) (result : Except Failure β) : Traced β := ⟨[call], result⟩

def fail (e : Failure) : Traced β := ⟨[], .error e⟩

/-- A step that asks no source. -/
def lift (result : Except Failure β) : Traced β := ⟨[], result⟩

/-- A computation whose failure is for the next step to see, and does not end the whole. -/
def attempt (x : Traced β) : Traced (Except Failure β) := ⟨x.calls, .ok x.result⟩

end Traced
end Appraisal
