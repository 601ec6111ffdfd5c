import Appraisal.Proofs.RecordDocuments
import Appraisal.Store.Row

/-!
# Rows of records

What of a record can be read from its row again. An undefined number is absent afterwards, and so are
a count that does not fit a signed integer and a timestamp of a year that is written with a sign.
-/

namespace Appraisal
open Json

variable {α β : Type}

namespace Cell

/-! ### Cells -/

section
variable [Arithmetic α]

/-- What of a number is left in a cell. -/
def keptReal (x : α) : Option α :=
  if Arithmetic.isNaN x then none else some (if x == (0.0 : α) then 0.0 else x)

variable [NumberText α]

end
end Cell

namespace Row

end Row

open Cell

/-! ### Records -/

section
variable [Arithmetic α]

namespace CatalogEntry

end CatalogEntry

namespace Discussion

/-- What of a discussion is left in its row. -/
def kept (d : Discussion α) : Discussion α where
  __ := d
  averageScore := d.averageScore.bind keptReal

end Discussion

variable [NumberText α]

namespace PriceGuide

/-- What of a price guide is left in its row. -/
def kept (g : PriceGuide) : PriceGuide where
  __ := g
  scrapedAt := g.scrapedAt.filter fun t => decide t.HasPlainYear

end PriceGuide

namespace SalesHistory

/-- Whether all numbers that have a written form read back from it. -/
def IsLegible (h : SalesHistory α) : Prop :=
  (∀ s ∈ h.new, s.IsLegible) ∧ ∀ s ∈ h.used, s.IsLegible

omit [NumberText α] in
/-- What of the sales is left in their row. -/
def kept (h : SalesHistory α) : SalesHistory α where
  __ := h
  new := h.new.map ConditionSales.kept
  used := h.used.map ConditionSales.kept
  computedAt := h.computedAt.filter fun t => decide t.HasPlainYear

end SalesHistory

namespace Product

/-- Whether a count fits a signed integer. -/
def fitsSigned (n : UInt64) : Bool := n.toNat < 2 ^ 63

omit [NumberText α] in
/-- What of a product is left in its row. -/
def kept (p : Product α) : Product α where
  __ := p
  unitsSold := p.unitsSold.filter fitsSigned
  stock := p.stock.filter fitsSigned
  rating := p.rating.bind keptReal

end Product
end
end Appraisal
