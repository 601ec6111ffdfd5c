import Appraisal.Gathering.Basic
import Appraisal.Recommendation.Basic

/-!
# Engine

Recommendations for product ids: the strategy is resolved, the evidence is gathered, and every
product is scored.
-/

namespace Appraisal

/-- Everything that recommendations depend on. -/
structure Engine (α : Type) where
  gatherer : Gatherer α
  analyzers : List (Analyzer α)
  policy : PricePolicy α
  registry : Registry α
  /-- For requests that name no strategy. -/
  defaultStrategy : String

/-- A product of a batch that could not be scored. -/
structure Unscored where
  productId : String
  error : String
  deriving DecidableEq

/-- The recommendations of a batch, by product id, and the products without one. -/
structure Batch (α : Type) where
  recommendations : Keyed (Recommendation α)
  failures : List Unscored

/-- A part of the engine, for listings. -/
structure PartInfo where
  name : String
  description : String
  deriving DecidableEq

namespace Batch
variable {α : Type}

def empty : Batch α := ⟨.empty, []⟩

def add (b : Batch α) (productId : String) :
    Except Failure (Checked (Recommendation α)) → Checked (Batch α)
  | .ok r => return { b with recommendations := b.recommendations.insert productId (← r) }
  | .error e => return { b with failures := b.failures ++ [⟨productId, e.message⟩] }

end Batch

namespace Engine
variable {α : Type}

def resolve (engine : Engine α) (strategy : Option String) : Except Failure (Strategy α) :=
  engine.registry.get (strategy.getD engine.defaultStrategy)

def strategies (engine : Engine α) : List PartInfo :=
  engine.registry.strategies.map fun s => ⟨s.name, s.description⟩

def analyzerParts (engine : Engine α) : List PartInfo :=
  engine.analyzers.map fun a => ⟨a.name, a.description⟩

/-- The weights of every strategy, by its name. -/
def weightsByStrategy (engine : Engine α) : Keyed (Weights α) :=
  .ofList (engine.registry.strategies.map fun s => (s.name, s.weights))

variable [Arithmetic α] [NumberText α]

def score (engine : Engine α) (strategy : Strategy α) (e : Evidence α) :
    Except Failure (Checked (Recommendation α)) :=
  recommend engine.analyzers engine.policy strategy e

def analyze (engine : Engine α) (id : String) (strategy : Option String) :
    Traced (Checked (Recommendation α)) := do
  let strategy ← .lift (engine.resolve strategy)
  let evidence ← engine.gatherer.gather id
  .lift (engine.score strategy evidence)

/-- The recommendations for several products, with one request a source. Unknown products and
incomplete price guides fail the batch; products that cannot be scored are listed with it. One whose
score is aborted takes the whole batch with it. -/
def analyzeAll (engine : Engine α) (ids : List String) (strategy : Option String) :
    Traced (Checked (Batch α)) := do
  let strategy ← .lift (engine.resolve strategy)
  let products ← engine.gatherer.fetch ids
  let evidence ← engine.gatherer.gatherAll products
  return evidence.values.foldlM (fun b e => b.add e.productId (engine.score strategy e)) .empty

end Engine
end Appraisal
