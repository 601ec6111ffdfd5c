import Appraisal.Calendar.Date
import Appraisal.Named

/-!
# Catalog entries

What the maker's catalog says about a set: when it leaves the shelves, and what it is.
-/

namespace Appraisal

structure CatalogEntry where
  catalogNumber : String
  retiringSoon : Bool := false
  expectedRetirement : Option Date := none
  yearReleased : Option Int32 := none
  /-- The year of retirement, if the catalog settles it; it overrules the flag. -/
  yearRetired : Option Int32 := none
  theme : Option String := none
  partsCount : Option UInt32 := none
  deriving DecidableEq

inductive RetirementStatus where
  | active
  | retiringSoon
  | retired
  deriving DecidableEq

namespace RetirementStatus

protected def name : RetirementStatus → String
  | active => "active"
  | retiringSoon => "retiring_soon"
  | retired => "retired"

instance : Named RetirementStatus where
  all := [active, retiringSoon, retired]
  name := RetirementStatus.name

end RetirementStatus
end Appraisal
