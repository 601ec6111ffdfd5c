import Appraisal.Proofs.RetirementPhase
import Appraisal.Proofs.SettledRetirement

/-!
# A scheduled year of retirement

When the catalog names a year to come, the availability analysis does not look at an expected day that has passed.
It does look at every other day, also at one that lies in another year than the catalog names.
-/

namespace Appraisal

/-- The entry without the day on which the set is expected to retire. -/
def CatalogEntry.withoutDay (entry : CatalogEntry) : CatalogEntry := { entry with expectedRetirement := none }

section Records
open Availability
variable {α : Type} (product : Product α) {entry : CatalogEntry} {asOf day : Date} {year : Int32}

/-- The score that the records of a product give to its availability. -/
def availabilityScore? [Arithmetic α] [NumberText α] (product : Product α) (entry : CatalogEntry) (asOf : Date) :
    Checked (Option (Score α)) :=
  Availability.score? (.ofRecords product (some entry) asOf) asOf.year

lemma timing_of_scheduled (hyear : entry.yearRetired = some year) (hcoming : asOf.year < year) :
    timing (.ofRecords product (some entry) asOf) asOf.year =
      ((entry.expectedRetirement.map fun day => Int64.ofInt (day.daysSince asOf)).filter (0 ≤ ·)).elim
        (.scheduled year) (.scheduledWithDate year) := by
  have hnot : ¬ year ≤ asOf.year := Int32.not_le.mpr hcoming
  simp only [timing, AvailabilityEvidence.ofRecords, Option.bind_some, hyear, Option.any_some, hnot, decide_false,
    Bool.false_eq_true, if_false]
  split <;> simp [*]

lemma timing_of_passed_day (hyear : entry.yearRetired = some year) (hcoming : asOf.year < year)
    (hpassed : ∀ day, entry.expectedRetirement = some day → day.Precedes asOf) :
    timing (.ofRecords product (some entry) asOf) asOf.year = .scheduled year := by
  rw [timing_of_scheduled product hyear hcoming]
  cases hday : entry.expectedRetirement with
  | none => rfl
  | some day =>
    have hneg := (Date.daysSince_neg_iff day asOf).mpr (hpassed day hday)
    simp [Option.filter_some, Int64.not_le.mpr hneg]

lemma timing_withoutDay (hyear : entry.yearRetired = some year) (hcoming : asOf.year < year) :
    timing (.ofRecords product (some entry.withoutDay) asOf) asOf.year = .scheduled year :=
  timing_of_passed_day product (show entry.withoutDay.yearRetired = some year from hyear) hcoming nofun

lemma timing_of_coming_day (hyear : entry.yearRetired = some year) (hcoming : asOf.year < year)
    (hday : entry.expectedRetirement = some day) (hnot : ¬ day.Precedes asOf) :
    timing (.ofRecords product (some entry) asOf) asOf.year =
      .scheduledWithDate year (Int64.ofInt (day.daysSince asOf)) := by
  rw [← Date.daysSince_neg_iff, Int64.not_lt] at hnot
  rw [timing_of_scheduled product hyear hcoming, hday]
  simp [Option.filter_some, hnot]

variable [Arithmetic α] [NumberText α]

lemma exists_availabilityScore {t : Timing} {score : α}
    (htiming : timing (.ofRecords product (some entry) asOf) asOf.year = t) (hscore : t.score? = some score) :
    ∃ s : Score α, availabilityScore? product entry asOf = .value (some s) ∧
      s.dataPoints.get? "days_until_retirement" = t.days?.map fun days => .int days.toInt := by
  subst htiming
  have htimed : isTimed (.ofRecords product (some entry) asOf) := by
    rw [← isSome_score? (α := α) _ asOf.year, hscore]
    rfl
  obtain ⟨s, hs⟩ := exists_score? (score?_ofRecords_ne_aborted product (some entry) asOf asOf.year) htimed
  exact ⟨s, hs, daysLeft_of_score? hs⟩

/-- With a coming day the days until it are published, and without a day none are. -/
lemma availabilityScore?_ne (hyear : entry.yearRetired = some year) (hcoming : asOf.year < year)
    (hday : entry.expectedRetirement = some day) (hnot : ¬ day.Precedes asOf) :
    availabilityScore? product entry asOf ≠ availabilityScore? product entry.withoutDay asOf := by
  intro hsame
  obtain ⟨s, hs, hdays⟩ := exists_availabilityScore product
    (timing_of_coming_day product hyear hcoming hday hnot) rfl
  obtain ⟨s', hs', hdays'⟩ := exists_availabilityScore product (timing_withoutDay product hyear hcoming) rfl
  rw [hsame, hs'] at hs
  obtain rfl := Option.some.inj (Checked.value.inj hs)
  rw [hdays] at hdays'
  cases hdays'

/-- Before a scheduled year the analysis comes out as it does without an expected day, in all that it tells, exactly
when there is no such day that has not passed. The days until one that has not passed are published, whatever its
year. -/
theorem scheduled_year_ignores_passed_day (hyear : entry.yearRetired = some year) (hcoming : asOf.year < year) :
    (availabilityScore? product entry asOf = availabilityScore? product entry.withoutDay asOf ↔
      ∀ day, entry.expectedRetirement = some day → day.Precedes asOf) ∧
    ∀ day, entry.expectedRetirement = some day → ¬ day.Precedes asOf →
      ∃ s : Score α, availabilityScore? product entry asOf = .value (some s) ∧
        s.dataPoints.get? "days_until_retirement" = some (.int (day.daysSince asOf)) := by
  refine ⟨⟨fun hsame day hday => ?_, fun hpassed => ?_⟩, fun day hday hnot => ?_⟩
  · by_contra hnot
    exact availabilityScore?_ne product hyear hcoming hday hnot hsame
  · refine score?_congr rfl rfl rfl hyear ?_
    rw [timing_of_passed_day product hyear hcoming hpassed, timing_withoutDay product hyear hcoming]
  · obtain ⟨s, hs, hdays⟩ := exists_availabilityScore product
      (timing_of_coming_day product hyear hcoming hday hnot) rfl
    rw [← Date.toInt_daysSince day asOf]
    exact ⟨s, hs, hdays⟩

end Records

/-- An entry for a set that is to retire in 2030, and on a day of another year. -/
def contradictedEntry (day : Date) : CatalogEntry :=
  { catalogNumber := "10305-1", yearRetired := some 2030, expectedRetirement := some day }

/-- A day ten years ago is ignored, and a day in nineteen days is published. -/
theorem contradictedEntry_scored :
    let product : Product Float := { id := "p-1", name := "Castle" }
    let asOf : Date := ⟨2026, 6, 1, by decide⟩
    let passed := contradictedEntry ⟨2016, 6, 1, by decide⟩
    let coming := contradictedEntry ⟨2026, 6, 20, by decide⟩
    asOf.year < 2030 ∧
    availabilityScore? product passed asOf = availabilityScore? product passed.withoutDay asOf ∧
    ∃ s, availabilityScore? product coming asOf = .value (some s) ∧
      s.dataPoints.get? "days_until_retirement" = some (.int 19) := by
  intro product asOf passed coming
  have hcoming : asOf.year < 2030 := by decide
  have hyear : passed.yearRetired = some 2030 := rfl
  have hyear' : coming.yearRetired = some 2030 := rfl
  obtain ⟨hsame, -⟩ := scheduled_year_ignores_passed_day product hyear hcoming
  obtain ⟨-, hpublished⟩ := scheduled_year_ignores_passed_day product hyear' hcoming
  have hpassed : ∀ day, passed.expectedRetirement = some day → day.Precedes asOf := by
    rintro _ ⟨⟩
    exact .inl (by decide)
  have hnot : ¬ (⟨2026, 6, 20, by decide⟩ : Date).Precedes asOf := by
    unfold Date.Precedes
    decide
  have hdays : (⟨2026, 6, 20, by decide⟩ : Date).daysSince asOf = 19 := by decide
  exact ⟨hcoming, hsame.mpr hpassed, hdays ▸ hpublished _ rfl hnot⟩

/-- A day that is not in the scheduled year makes a set that retires years later a set that retires in days. -/
theorem contradicting_day_not_ignored :
    let product : Product Float := { id := "p-1", name := "Castle" }
    let asOf : Date := ⟨2026, 6, 1, by decide⟩
    let entry := contradictedEntry ⟨2026, 6, 20, by decide⟩
    let told (entry : CatalogEntry) :=
      (Availability.timing (.ofRecords product (some entry) asOf) asOf.year).reasoning
    entry.yearRetired = some 2030 ∧ asOf.year < 2030 ∧
    (∀ day, entry.expectedRetirement = some day → day.year ≠ 2030) ∧
    availabilityScore? product entry asOf ≠ availabilityScore? product entry.withoutDay asOf ∧
    told entry = .value "Retiring in 19 days (CRITICAL WINDOW)" ∧
    told entry.withoutDay = .value "Scheduled to retire in 2030" := by
  intro product asOf entry told
  have hcoming : asOf.year < 2030 := by decide
  have hnot : ¬ (⟨2026, 6, 20, by decide⟩ : Date).Precedes asOf := by
    unfold Date.Precedes
    decide
  refine ⟨rfl, hcoming, ?_, availabilityScore?_ne product rfl hcoming rfl hnot, ?_, ?_⟩
  · rintro _ ⟨⟩
    decide
  · decide +kernel
  · decide +kernel

end Appraisal
