import Appraisal.Evidence.Basic
import Appraisal.Failure
import Appraisal.NumberText

/-!
# Valid evidence

Numbers that no analysis can reason about are refused before anything is scored.
-/

namespace Appraisal.Evidence
open NumberText

variable {α : Type} [Arithmetic α]

/-- Whether a rating lies on the scale of 0 to 5 stars. -/
def isOnScale (rating : α) : Bool :=
  Arithmetic.isFinite rating && (0.0 : α) ≤ rating && rating ≤ 5.0

omit [Arithmetic α] in
/-- The numbers that have to be finite, with their names. -/
def measures (e : Evidence α) : List (String × Option α) :=
  [("price_volatility", e.pricing.priceVolatility)] ++
    (e.demand.transactions.elim [] fun t =>
      [ ("sales_velocity", t.salesVelocity), ("volatility", t.volatility),
        ("price_change_pct", t.priceChangePercent), ("rsi", t.relativeStrength) ]) ++
    e.demand.community.elim [] fun c => [("average_score", c.averageScore)]

/-- The name of the first number that is there and not finite. -/
def firstInfinite? (measures : List (String × Option α)) : Option String :=
  (measures.find? fun entry => entry.2.any fun x => !Arithmetic.isFinite x).map (·.1)

variable [NumberText α]

def validate (e : Evidence α) : Except Failure Unit := do
  match e.quality.rating.filter fun rating => !isOnScale rating with
  | some rating =>
    throw (.invalid s!"product {e.productId}: rating {plain rating} is outside 0-5")
  | none => pure ()
  match firstInfinite? e.measures with
  | some field => throw (.invalid s!"product {e.productId}: {field} is not a finite number")
  | none => pure ()

end Appraisal.Evidence
