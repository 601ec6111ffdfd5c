import Appraisal.Catalog.Entry
import Appraisal.Checked
import Appraisal.Evidence.Basic

/-!
# Retirement of a set

Where a set stands, and for how many years it has been retired.
-/

namespace Appraisal

/-- A retirement status; the years since retirement are there only for a retired set whose year is
known. -/
structure RetirementStanding where
  status : RetirementStatus
  years : Option Int32
  deriving DecidableEq

/-- The year that the catalog settles comes first, then an expected date that has passed, then the
flag, then the age of the set. -/
def retirementStanding (e : AvailabilityEvidence) (currentYear retirementAge : Int32) :
    Checked RetirementStanding := do
  match e.yearRetired with
  | some year =>
    if year ≤ currentYear then return ⟨.retired, some (← Checked.sub currentYear year)⟩
    else return ⟨.retiringSoon, none⟩
  | none =>
    if e.daysUntilRetirement.any (· < 0) then
      match e.retirementYear with
      | some year => return ⟨.retired, some (max (← Checked.sub currentYear year) 0)⟩
      | none => return ⟨.retired, some 0⟩
    else if e.retiringSoon = some true then return ⟨.retiringSoon, none⟩
    else
      match e.yearReleased with
      | some year =>
        if retirementAge < (← Checked.sub currentYear year) then return ⟨.retired, none⟩
        else return ⟨.active, none⟩
      | none => return ⟨.active, none⟩

end Appraisal
