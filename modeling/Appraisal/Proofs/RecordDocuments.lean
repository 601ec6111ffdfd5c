import Appraisal.Document.Records
import Appraisal.Proofs.CalendarTexts
import Appraisal.Proofs.Documents
import Mathlib.Data.List.Nodup

/-!
# Documents of statistics

The statistics inside a record read back from their documents. A number that is not finite has no
written form and is absent afterwards.
-/

namespace Appraisal
open Readers

variable {α β : Type}

namespace Json

/-! ### Values -/

namespace Decode

variable {members : List (String × Json α)}

end Decode

variable [Arithmetic α]

variable [NumberText α]

end Json

open Json Decode

variable [Arithmetic α] [NumberText α]

namespace PriceBox

end PriceBox

namespace StarCounts

end StarCounts

namespace ConditionSales

/-- The statistics that are numbers. -/
def numbers (s : ConditionSales α) : List (Option α) :=
  [s.salesVelocity, s.volatility, s.priceChangePercent, s.relativeStrength]

/-- Whether all numbers that have a written form read back from it. -/
def IsLegible (s : ConditionSales α) : Prop :=
  ∀ x, some x ∈ s.numbers → Arithmetic.isFinite x → Json.IsLegible x

omit [NumberText α] in
/-- What is left of statistics in their document. -/
def kept (s : ConditionSales α) : ConditionSales α where
  __ := s
  salesVelocity := s.salesVelocity.filter Arithmetic.isFinite
  volatility := s.volatility.filter Arithmetic.isFinite
  priceChangePercent := s.priceChangePercent.filter Arithmetic.isFinite
  relativeStrength := s.relativeStrength.filter Arithmetic.isFinite

end ConditionSales
end Appraisal
