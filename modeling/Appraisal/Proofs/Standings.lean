import Appraisal.Proofs.Checked
import Appraisal.Valuation.Retirement

/-!
# Where a set stands

A standing is found in one of five ways, by what the catalog tells of the set. Three of them count years, and the
computation is aborted when the years do not fit into 32 bits.
-/

namespace Appraisal
open Checked
variable {e : AvailabilityEvidence} {currentYear retirementAge year : Int32}

/-- Whether a date of retirement has passed. -/
def AvailabilityEvidence.IsPassed (e : AvailabilityEvidence) : Prop := e.daysUntilRetirement.any (· < 0)

instance : DecidablePred AvailabilityEvidence.IsPassed := fun e =>
  inferInstanceAs (Decidable (e.daysUntilRetirement.any (· < 0) = true))

lemma retirementStanding_of_settled (hyear : e.yearRetired = some year) (hle : year ≤ currentYear) :
    retirementStanding e currentYear retirementAge =
      (sub currentYear year).map fun years => ⟨.retired, some years⟩ := by
  unfold retirementStanding
  rw [hyear]
  dsimp only
  rw [if_pos hle, bind_pure_eq_map]

lemma retirementStanding_of_scheduled (hyear : e.yearRetired = some year) (hlt : ¬ year ≤ currentYear) :
    retirementStanding e currentYear retirementAge = .value ⟨.retiringSoon, none⟩ := by
  unfold retirementStanding
  rw [hyear]
  dsimp only
  rw [if_neg hlt]
  rfl

lemma retirementStanding_of_passed (hyear : e.yearRetired = none) (hpassed : e.IsPassed) :
    retirementStanding e currentYear retirementAge =
      e.retirementYear.elim (.value ⟨.retired, some 0⟩) fun year =>
        (sub currentYear year).map fun years => ⟨.retired, some (max years 0)⟩ := by
  unfold retirementStanding
  rw [hyear]
  unfold AvailabilityEvidence.IsPassed at hpassed
  dsimp only
  rw [if_pos hpassed]
  cases e.retirementYear with
  | none => rfl
  | some year => exact bind_pure_eq_map _ _

lemma retirementStanding_of_flagged (hyear : e.yearRetired = none) (hpassed : ¬ e.IsPassed)
    (hflag : e.retiringSoon = some true) :
    retirementStanding e currentYear retirementAge = .value ⟨.retiringSoon, none⟩ := by
  unfold retirementStanding
  rw [hyear]
  unfold AvailabilityEvidence.IsPassed at hpassed
  dsimp only
  rw [if_neg hpassed, if_pos hflag]
  rfl

lemma retirementStanding_of_untold (hyear : e.yearRetired = none) (hpassed : ¬ e.IsPassed)
    (hflag : e.retiringSoon ≠ some true) :
    retirementStanding e currentYear retirementAge =
      e.yearReleased.elim (.value ⟨.active, none⟩) fun year =>
        (sub currentYear year).map fun age =>
          if retirementAge < age then ⟨.retired, none⟩ else ⟨.active, none⟩ := by
  unfold retirementStanding
  rw [hyear]
  unfold AvailabilityEvidence.IsPassed at hpassed
  dsimp only
  rw [if_neg hpassed, if_neg hflag]
  cases e.yearReleased with
  | none => rfl
  | some year =>
    cases hage : sub currentYear year with
    | aborted => simp [hage]
    | value age => by_cases hold : retirementAge < age <;> simp [hage, hold]

/-- The year from which the years of a set are counted, if they are. -/
def AvailabilityEvidence.countedYear? (e : AvailabilityEvidence) (currentYear : Int32) : Option Int32 :=
  match e.yearRetired with
  | some year => if year ≤ currentYear then some year else none
  | none =>
    if e.IsPassed then e.retirementYear
    else if e.retiringSoon = some true then none
    else e.yearReleased

/-- Whether the years that are counted fit. -/
def AvailabilityEvidence.YearsFit (e : AvailabilityEvidence) (currentYear : Int32) : Prop :=
  ∀ year, e.countedYear? currentYear = some year → FitsInt32 (currentYear.toInt - year.toInt)

/-- Only years that do not fit abort the computation. -/
theorem retirementStanding_eq_aborted_iff :
    retirementStanding e currentYear retirementAge = .aborted ↔ ¬ e.YearsFit currentYear := by
  unfold AvailabilityEvidence.YearsFit AvailabilityEvidence.countedYear?
  cases hyear : e.yearRetired with
  | some year =>
    by_cases hle : year ≤ currentYear
    · simp [retirementStanding_of_settled hyear hle, hle, map_eq_aborted_iff, sub_eq_aborted_iff]
    · simp [retirementStanding_of_scheduled hyear hle, hle]
  | none =>
    by_cases hpassed : e.IsPassed
    · rw [retirementStanding_of_passed hyear hpassed]
      cases e.retirementYear <;> simp [hpassed, map_eq_aborted_iff, sub_eq_aborted_iff]
    · by_cases hflag : e.retiringSoon = some true
      · simp [retirementStanding_of_flagged hyear hpassed hflag, hpassed, hflag]
      · rw [retirementStanding_of_untold hyear hpassed hflag]
        cases e.yearReleased <;> simp [hpassed, hflag, map_eq_aborted_iff, sub_eq_aborted_iff]

end Appraisal
