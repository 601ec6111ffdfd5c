import Appraisal.Document.Scores
import Appraisal.Recommendation.Engine

/-!
# Documents of recommendations

How recommendations, prices and listings stand in documents.
-/

namespace Appraisal
open Json

variable {α : Type} [Arithmetic α]

namespace Derivation

def toJson (d : Derivation α) : Json α := .object [
  ("anchor", d.anchor.price.toJson),
  ("anchor_source", Named.toJson d.anchor.source),
  ("retirement_status", Named.toJson d.status),
  ("retirement_multiplier", .number d.factors.retirement),
  ("demand_multiplier", .number d.factors.demand),
  ("scarcity_multiplier", .number d.factors.scarcity),
  ("liquidity_multiplier", .number d.factors.liquidity),
  ("volatility_multiplier", .number d.factors.volatility),
  ("theme_multiplier", .number d.factors.theme),
  ("parts_value_multiplier", .number d.factors.partsValue),
  ("intrinsic_value", d.intrinsicValue.toJson),
  ("margin_of_safety", .number d.margin),
  ("adjustments", .strings d.adjustments)]

end Derivation

namespace BuyPrice

def members (p : BuyPrice α) : List (String × Json α) :=
  [ ("price", p.price.toJson),
    ("reasoning", .string p.reasoning),
    ("confidence", .number p.confidence) ] ++
  member? "breakdown" Derivation.toJson p.derivation

def toJson (p : BuyPrice α) : Json α := .object p.members

end BuyPrice

/-- A valuation says first how it ended. -/
def Valuation.toJson [NumberText α] : Valuation α → Json α
  | .priced price => .object (("outcome", .string "priced") :: price.members)
  | .rejected reason =>
    .object [("outcome", .string "rejected"), ("reason", .string reason.message)]

/-- A recommendation; `analyzedAt` is when it was made, for those who ask. -/
def Recommendation.toJson (analyzedAt : Option String) (r : Recommendation α) : Json α := .object (
  [ ("product_id", .string r.productId),
    ("overall", r.overall.toJson),
    ("dimensions", Scores.toJson r.dimensions),
    ("action", Named.toJson r.action),
    ("strategy", .string r.strategy),
    ("urgency", Named.toJson r.urgency) ] ++
  member? "estimated_roi" .number r.estimatedReturn ++
  member? "time_horizon" .string r.timeHorizon ++
  [ ("risks", .strings r.risks),
    ("opportunities", .strings r.opportunities) ] ++
  member? "recommended_buy_price" BuyPrice.toJson r.buyPrice ++
  member? "analyzed_at" .string analyzedAt)

omit [Arithmetic α] in
def Unscored.toJson (f : Unscored) : Json α := .object [
  ("product_id", .string f.productId), ("error", .string f.error)]

def Batch.toJson (analyzedAt : Option String) (b : Batch α) : Json α := .object [
  ("recommendations", b.recommendations.toJson (Recommendation.toJson analyzedAt)),
  ("failures", .list Unscored.toJson b.failures)]

omit [Arithmetic α] in
def PartInfo.toJson (p : PartInfo) : Json α := .object [
  ("name", .string p.name), ("description", .string p.description)]

/-- The weights that are there, by dimension. -/
def Weights.toJson (w : Weights α) : Json α :=
  (Keyed.ofList (w.present.map fun (d, x) => (d.name, x))).toJson .number

end Appraisal
