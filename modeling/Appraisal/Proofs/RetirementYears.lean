import Appraisal.Proofs.PriceMoves
import Appraisal.Proofs.RetirementPhase

/-!
# Years since a retirement

The years since a retirement are a difference of two years in 32 bits. A difference to the year of a date always
fits, one to a year that the catalog gives only if the two are less than `2 ^ 31` years apart: there is no standing
otherwise. A date of retirement that has passed gives its year to a set that is flagged; a set without the flag is
retired for 0 years.
-/

namespace Appraisal

/-- The years from one year to another, without a bound. -/
def yearsBetween (year year' : Int32) : Int := year'.toInt - year.toInt

section Years
variable {day asOf : Date}

lemma Date.year_mem (d : Date) : -262143 ≤ d.year.toInt ∧ d.year.toInt ≤ 262142 := by
  obtain ⟨hfirst, hlast, -⟩ := (isDay_iff _ _ _).mp d.valid
  exact ⟨hfirst, hlast⟩

lemma yearsBetween_nonneg_of_precedes (h : day.Precedes asOf) : 0 ≤ yearsBetween day.year asOf.year := by
  unfold Date.Precedes at h
  unfold yearsBetween
  omega

/-- Two dates are never too many years apart. -/
lemma exists_sub_of_precedes (h : day.Precedes asOf) : ∃ years, Checked.sub asOf.year day.year = .value years ∧
    (max years 0).toInt = yearsBetween day.year asOf.year := by
  have hnonneg := yearsBetween_nonneg_of_precedes h
  have hday := day.year_mem
  have hasOf := asOf.year_mem
  have hfits : Checked.FitsInt32 (yearsBetween day.year asOf.year) := by
    unfold yearsBetween
    constructor <;> omega
  obtain ⟨years, hyears, hexact⟩ := Checked.exists_sub hfits
  refine ⟨years, hyears, ?_⟩
  rw [toInt_max, hexact]
  exact max_eq_left hnonneg

end Years

section Standing
variable {α : Type} (product : Product α) {entry : CatalogEntry} {asOf day : Date} (retirementAge : Int32)
  {year : Int32}

/-- The standing that the records of a product give it. -/
def recordedStanding (product : Product α) (entry : CatalogEntry) (asOf : Date) (retirementAge : Int32) :
    Checked RetirementStanding :=
  retirementStanding (.ofRecords product (some entry) asOf) asOf.year retirementAge

lemma recordedStanding_of_settled (hyear : entry.yearRetired = some year) (hle : year ≤ asOf.year) :
    recordedStanding product entry asOf retirementAge =
      (Checked.sub asOf.year year).map fun years => ⟨.retired, some years⟩ :=
  retirementStanding_of_settled (by simp [AvailabilityEvidence.ofRecords, hyear]) hle

/-- The years for which a set is retired by a day that has passed: those since the day when the set is flagged,
and none without a flag. -/
def CatalogEntry.yearsSinceDay (entry : CatalogEntry) (day asOf : Date) : Int :=
  if entry.retiringSoon then yearsBetween day.year asOf.year else 0

lemma CatalogEntry.yearsSinceDay_nonneg (hpassed : day.Precedes asOf) : 0 ≤ entry.yearsSinceDay day asOf := by
  unfold yearsSinceDay
  split
  · exact yearsBetween_nonneg_of_precedes hpassed
  · exact le_rfl

lemma recordedStanding_of_day (hyear : entry.yearRetired = none) (hday : entry.expectedRetirement = some day)
    (hpassed : day.Precedes asOf) : ∃ years,
      recordedStanding product entry asOf retirementAge = .value ⟨.retired, some years⟩ ∧
        years.toInt = entry.yearsSinceDay day asOf := by
  have hdays : (AvailabilityEvidence.ofRecords product (some entry) asOf).IsPassed := by
    simpa [AvailabilityEvidence.IsPassed, AvailabilityEvidence.ofRecords, hyear, hday] using
      (Date.daysSince_neg_iff day asOf).mpr hpassed
  unfold recordedStanding CatalogEntry.yearsSinceDay
  rw [retirementStanding_of_passed (by simp [AvailabilityEvidence.ofRecords, hyear]) hdays]
  cases hflag : entry.retiringSoon with
  | false => exact ⟨0, by simp [AvailabilityEvidence.ofRecords, hyear, hflag], rfl⟩
  | true =>
    obtain ⟨years, hyears, hexact⟩ := exists_sub_of_precedes hpassed
    exact ⟨max years 0, by simp [AvailabilityEvidence.ofRecords, hyear, hday, hflag, hyears], hexact⟩

lemma recordedStanding_of_untold (hyear : entry.yearRetired = none) (hflag : entry.retiringSoon = false)
    (hcoming : ∀ day, entry.expectedRetirement = some day → ¬ day.Precedes asOf) :
    recordedStanding product entry asOf retirementAge =
      entry.yearReleased.elim (.value ⟨.active, none⟩) fun year =>
        (Checked.sub asOf.year year).map fun age =>
          if retirementAge < age then ⟨.retired, none⟩ else ⟨.active, none⟩ := by
  refine retirementStanding_of_untold (by simp [AvailabilityEvidence.ofRecords, hyear]) ?_
    (by simp [AvailabilityEvidence.ofRecords, hflag])
  unfold AvailabilityEvidence.IsPassed AvailabilityEvidence.ofRecords
  cases hday : entry.expectedRetirement with
  | none => simp [hyear, hday]
  | some day =>
    have hnot := hcoming day hday
    rw [← Date.daysSince_neg_iff] at hnot
    simpa [hyear, hday] using hnot

/-- A day of retirement that has passed retires a set, and it ages a set that is flagged: the premium fades with the
years since the day, and is no higher the earlier the day. A set without the flag keeps the premium of a set that
has just retired. -/
theorem passed_day_ages_flagged_set [Arithmetic α] (hyear : entry.yearRetired = none)
    (hday : entry.expectedRetirement = some day) (hpassed : day.Precedes asOf) :
    ∃ years, recordedStanding product entry asOf retirementAge = .value ⟨.retired, some years⟩ ∧
      years.toInt = entry.yearsSinceDay day asOf ∧ 0 ≤ entry.yearsSinceDay day asOf ∧
      (∀ policy : PricePolicy α, Factor.retirement policy ⟨.retired, some years⟩ = policy.longRetiredFactor +
        (policy.freshlyRetiredFactor - policy.longRetiredFactor) *
          Arithmetic.exp (-(Arithmetic.ofInt (entry.yearsSinceDay day asOf) : α) / policy.fadingYears)) ∧
      ∀ [Exponential], Monotone Exponential.exp → ∀ later, day.year ≤ later.year → later.Precedes asOf →
        ∃ years', recordedStanding product { entry with expectedRetirement := some later } asOf retirementAge =
            .value ⟨.retired, some years'⟩ ∧
          (Factor.retirement .standard ⟨.retired, some years⟩ : ℚ) ≤
            Factor.retirement .standard ⟨.retired, some years'⟩ := by
  obtain ⟨years, hstanding, hyears⟩ := recordedStanding_of_day product retirementAge hyear hday hpassed
  have hnonneg := entry.yearsSinceDay_nonneg hpassed
  refine ⟨years, hstanding, hyears, hnonneg, fun policy => ?_, fun hmono later hle hlater => ?_⟩
  · have hmax : (max years 0).toInt = entry.yearsSinceDay day asOf := by
      rw [toInt_max, hyears]
      exact max_eq_left hnonneg
    unfold Factor.retirement
    dsimp only
    rw [hmax]
  · let entry' : CatalogEntry := { entry with expectedRetirement := some later }
    have hyear' : entry'.yearRetired = none := hyear
    obtain ⟨years', hstanding', hyears'⟩ := recordedStanding_of_day product retirementAge hyear' rfl hlater
    refine ⟨years', hstanding', Factor.retirement_anti hmono ?_⟩
    rw [Int32.le_iff_toInt_le, hyears, hyears']
    have hyear_le := Int32.le_iff_toInt_le.mp hle
    unfold CatalogEntry.yearsSinceDay yearsBetween
    change (if entry.retiringSoon then asOf.year.toInt - later.year.toInt else 0) ≤ _
    split <;> omega

def lapsedDay : Date := ⟨2016, 6, 1, by decide⟩

/-- An entry for a set that was to retire on a day of 2016. -/
def lapsedEntry (retiringSoon : Bool) : CatalogEntry :=
  { catalogNumber := "10305-1", retiringSoon, expectedRetirement := some lapsedDay }

def castle : Product Float := { id := "p-1", name := "Castle" }

/-- Ten years after the day the flagged set has aged by ten years, and is priced no higher than a set with a later
day. -/
theorem lapsedEntry_aged :
    letI := gentleExponential
    let asOf : Date := ⟨2026, 6, 1, by decide⟩
    let standing (retiringSoon : Bool) := recordedStanding castle (lapsedEntry retiringSoon) asOf 3
    let later : CatalogEntry := { lapsedEntry true with expectedRetirement := some ⟨2024, 6, 1, by decide⟩ }
    lapsedDay.Precedes asOf ∧ Monotone gentleExponential.exp ∧
    (∃ years years', standing true = .value ⟨.retired, some years⟩ ∧ years.toInt = 10 ∧
      recordedStanding castle later asOf 3 = .value ⟨.retired, some years'⟩ ∧
      (Factor.retirement .standard ⟨.retired, some years⟩ : ℚ) ≤
        Factor.retirement .standard ⟨.retired, some years'⟩) ∧
    ∃ years, standing false = .value ⟨.retired, some years⟩ ∧ years.toInt = 0 := by
  intro asOf standing later
  have hpassed : lapsedDay.Precedes asOf := .inl (by decide)
  obtain ⟨years, hflagged, hten, -, -, hfades⟩ := passed_day_ages_flagged_set castle 3
    (show (lapsedEntry true).yearRetired = none from rfl) rfl hpassed
  obtain ⟨years₀, hplain, hnone, -⟩ := passed_day_ages_flagged_set castle 3
    (show (lapsedEntry false).yearRetired = none from rfl) rfl hpassed
  let _ := gentleExponential
  obtain ⟨years', hlater, hle⟩ :=
    hfades gentleExponential_mono ⟨2024, 6, 1, by decide⟩ (by decide) (.inl (by decide))
  exact ⟨hpassed, gentleExponential_mono, ⟨years, years', hflagged, hten.trans (by decide), hlater, hle⟩,
    years₀, hplain, hnone.trans (by decide)⟩

/-- Without the flag the same ten years do not count. -/
theorem lapsed_day_unaged_without_flag :
    let asOf : Date := ⟨2026, 6, 1, by decide⟩
    (lapsedEntry false).yearRetired = none ∧ (lapsedEntry false).expectedRetirement = some lapsedDay ∧
    lapsedDay.Precedes asOf ∧ yearsBetween lapsedDay.year asOf.year = 10 ∧
    recordedStanding castle (lapsedEntry false) asOf 3 = .value ⟨.retired, some 0⟩ ∧
    recordedStanding castle (lapsedEntry true) asOf 3 = .value ⟨.retired, some 10⟩ :=
  ⟨rfl, rfl, .inl (by decide), by decide, by decide, by decide⟩

variable (entry asOf) in
/-- The years since a retirement are exact when they fit: those since a year that the catalog gives when it lies less
than `2 ^ 31` years back, and those since a date always. By its age alone a set is retired exactly when its years are
more than they may be. Years that do not fit leave no standing. -/
theorem retirement_years_counted :
    let standing := recordedStanding product entry asOf retirementAge
    (∀ year, entry.yearRetired = some year → year ≤ asOf.year →
      (yearsBetween year asOf.year < 2 ^ 31 → ∃ years, standing = .value ⟨.retired, some years⟩ ∧
        years.toInt = yearsBetween year asOf.year ∧ 0 ≤ years.toInt) ∧
      (2 ^ 31 ≤ yearsBetween year asOf.year → standing = .aborted)) ∧
    (∀ day, entry.yearRetired = none → entry.retiringSoon → entry.expectedRetirement = some day →
      day.Precedes asOf → ∃ years, standing = .value ⟨.retired, some years⟩ ∧
        years.toInt = yearsBetween day.year asOf.year ∧ 0 ≤ years.toInt) ∧
    (entry.yearRetired = none → entry.retiringSoon = false →
      (∀ day, entry.expectedRetirement = some day → ¬ day.Precedes asOf) →
      (entry.yearReleased = none → standing = .value ⟨.active, none⟩) ∧
      ∀ released, entry.yearReleased = some released →
        (Checked.FitsInt32 (yearsBetween released asOf.year) → ∃ found, standing = .value found ∧
          (found.status = .retired ↔ retirementAge.toInt < yearsBetween released asOf.year)) ∧
        (¬ Checked.FitsInt32 (yearsBetween released asOf.year) → standing = .aborted)) := by
  intro standing
  refine ⟨fun year hyear hle => ?_, fun day hyear hflag hday hpassed => ?_, fun hyear hflag hcoming => ?_⟩
  · have hstanding : standing = _ := recordedStanding_of_settled product retirementAge hyear hle
    have hnonneg : 0 ≤ yearsBetween year asOf.year := Int.sub_nonneg.mpr (Int32.le_iff_toInt_le.mp hle)
    rw [hstanding]
    refine ⟨fun hfew => ?_, fun hmany => ?_⟩
    · have hfits : Checked.FitsInt32 (yearsBetween year asOf.year) := ⟨by omega, hfew⟩
      obtain ⟨years, hyears, hexact⟩ := Checked.exists_sub hfits
      exact ⟨years, by rw [hyears]; rfl, hexact, hnonneg.trans_eq hexact.symm⟩
    · have hunfit : ¬ Checked.FitsInt32 (yearsBetween year asOf.year) := fun hfits =>
        absurd hfits.2 (not_lt.mpr hmany)
      rw [Checked.sub_eq_aborted_iff.mpr hunfit]
      rfl
  · obtain ⟨years, hstanding, hyears⟩ := recordedStanding_of_day product retirementAge hyear hday hpassed
    rw [CatalogEntry.yearsSinceDay, if_pos hflag] at hyears
    exact ⟨years, hstanding, hyears, hyears ▸ yearsBetween_nonneg_of_precedes hpassed⟩
  · have hstanding : standing = _ := recordedStanding_of_untold product retirementAge hyear hflag hcoming
    refine ⟨fun hnone => by rw [hstanding, hnone]; rfl, fun released hreleased => ?_⟩
    rw [hstanding, hreleased, Option.elim_some]
    refine ⟨fun hfits => ?_, fun hunfit => ?_⟩
    · obtain ⟨age, hage, hexact⟩ := Checked.exists_sub hfits
      refine ⟨_, by rw [hage]; rfl, ?_⟩
      rw [yearsBetween, ← hexact, ← Int32.lt_iff_toInt_lt]
      by_cases hold : retirementAge < age <;> simp [hold]
    · rw [Checked.sub_eq_aborted_iff.mpr hunfit]
      rfl

def settledEntry (year : Int32) : CatalogEntry := { catalogNumber := "10305-1", yearRetired := some year }

def releasedEntry (year : Int32) : CatalogEntry := { catalogNumber := "10305-1", yearReleased := some year }

/-- The first year that is counted in 2026, and a release longer ago than a set stays on sale. -/
theorem first_counted_year :
    let asOf : Date := ⟨2026, 6, 1, by decide⟩
    (∃ years, recordedStanding castle (settledEntry (-2147481621)) asOf 3 = .value ⟨.retired, some years⟩ ∧
      years.toInt = 2147483647) ∧
    (∃ years, recordedStanding castle (lapsedEntry true) asOf 3 = .value ⟨.retired, some years⟩ ∧
      years.toInt = 10) ∧
    ∃ found, recordedStanding castle (releasedEntry 2022) asOf 3 = .value found ∧ found.status = .retired := by
  intro asOf
  obtain ⟨hsettled, -, -⟩ := retirement_years_counted castle (settledEntry (-2147481621)) asOf 3
  obtain ⟨-, hlapsed, -⟩ := retirement_years_counted castle (lapsedEntry true) asOf 3
  obtain ⟨-, -, hreleased⟩ := retirement_years_counted castle (releasedEntry 2022) asOf 3
  obtain ⟨years, hyears, hmost, -⟩ := (hsettled (-2147481621) rfl (by decide)).1 (by decide)
  obtain ⟨years', hyears', hten, -⟩ := hlapsed lapsedDay rfl rfl rfl (.inl (by decide))
  obtain ⟨found, hfound, hretired⟩ := ((hreleased rfl rfl nofun).2 2022 rfl).1 (by decide)
  exact ⟨⟨years, hyears, hmost.trans (by decide)⟩, ⟨years', hyears', hten.trans (by decide)⟩,
    found, hfound, hretired.mpr (by decide)⟩

/-- A set that retired before that has no standing, and neither has one that came out then. -/
theorem unfitting_year_without_standing :
    let asOf : Date := ⟨2026, 6, 1, by decide⟩
    yearsBetween Int32.minValue asOf.year = 2147485674 ∧
    recordedStanding castle (settledEntry Int32.minValue) asOf 3 = .aborted ∧
    recordedStanding castle (releasedEntry Int32.minValue) asOf 3 = .aborted := by
  decide

end Standing
end Appraisal
