import Appraisal.Double
import Appraisal.Evidence.Build
import Appraisal.Proofs.Checked
import Appraisal.Recommendation.Basic
import Mathlib.Tactic.Common

/-!
# A retirement that the catalog settles

A recommendation sees the availability of a product through its score and through the standing of the
set. Once the year of retirement has come, neither looks at what else the catalog says about it.
-/

namespace Appraisal
variable {α : Type}

/-- Slices with a year of retirement are scored alike when they tell of the same shelves at the same time. -/
lemma Availability.score?_congr [Arithmetic α] [NumberText α] {e e' : AvailabilityEvidence} {currentYear year : Int32}
    (hstock : e'.stock = e.stock) (hstatus : e'.listingStatus = e.listingStatus)
    (hsame : e'.yearRetired = e.yearRetired) (hyear : e.yearRetired = some year)
    (htiming : timing e' currentYear = timing e currentYear) :
    (score? e' currentYear : Checked (Option (Score α))) = score? e currentYear := by
  unfold score? card slotEntries
  rw [htiming, hstock, hstatus, hsame, hyear]
  rfl

namespace AvailabilityEvidence

/-- Whether two slices tell of the same shelves and of the same retirement, which has come by a year. -/
structure SettledAlike (currentYear : Int32) (e e' : AvailabilityEvidence) : Prop where
  stock : e'.stock = e.stock
  listingStatus : e'.listingStatus = e.listingStatus
  yearRetired : e'.yearRetired = e.yearRetired
  hasCome : ∃ year, e.yearRetired = some year ∧ year ≤ currentYear

namespace SettledAlike
variable {currentYear : Int32} {e e' : AvailabilityEvidence} (h : SettledAlike currentYear e e')
include h

lemma timing_eq : Availability.timing e' currentYear = Availability.timing e currentYear := by
  obtain ⟨year, hyear, hle⟩ := h.hasCome
  unfold Availability.timing
  rw [h.yearRetired, hyear]
  simp only [hle, if_true]

lemma score?_eq [Arithmetic α] [NumberText α] :
    (Availability.score? e' currentYear : Checked (Option (Score α))) = Availability.score? e currentYear := by
  obtain ⟨year, hyear, -⟩ := h.hasCome
  exact Availability.score?_congr h.stock h.listingStatus h.yearRetired hyear h.timing_eq

lemma standing_eq (retirementAge : Int32) :
    retirementStanding e' currentYear retirementAge = retirementStanding e currentYear retirementAge := by
  obtain ⟨year, hyear, -⟩ := h.hasCome
  unfold retirementStanding
  rw [h.yearRetired, hyear]

end SettledAlike

lemma settledAlike_ofRecords (product : Product α) {entry entry' : CatalogEntry} {asOf : Date} {year : Int32}
    (hsame : entry'.yearRetired = entry.yearRetired) (hyear : entry.yearRetired = some year)
    (hle : year ≤ asOf.year) :
    SettledAlike asOf.year (ofRecords product (some entry) asOf) (ofRecords product (some entry') asOf) where
  stock := rfl
  listingStatus := rfl
  yearRetired := hsame
  hasCome := ⟨year, hyear, hle⟩

end AvailabilityEvidence

variable [Arithmetic α]

/-- Analyzers that see the same in two pieces of evidence about one product are scored alike. -/
lemma Recommendation.scoreAll_congr {analyzers : List (Analyzer α)} {e e' : Evidence α}
    (hid : e'.productId = e.productId) (h : ∀ a ∈ analyzers, a.analyze e' = a.analyze e) :
    scoreAll analyzers e' = scoreAll analyzers e := by
  have hsaid : analyzers.mapM (m := Checked) (fun a => return (a, ← a.analyze e')) =
      analyzers.mapM fun a => return (a, ← a.analyze e) :=
    Checked.mapM_congr fun a ha => by rw [h a ha]
  have hadd : addScore (α := α) e' = addScore e := by
    funext scores a score
    unfold addScore
    rw [hid]
  unfold scoreAll
  rw [hsaid, hadd]

variable [NumberText α]

/-- A recommendation sees the availability of a product through its score and its standing alone. -/
lemma recommend_withAvailability (expectedBrand : String) (policy : PricePolicy α) (strategy : Strategy α)
    (e : Evidence α) {a : AvailabilityEvidence}
    (hscore : (Availability.score? a e.asOf.year : Checked (Option (Score α))) =
      Availability.score? e.availability e.asOf.year)
    (hstanding : retirementStanding a e.asOf.year policy.retirementAge =
      retirementStanding e.availability e.asOf.year policy.retirementAge) :
    recommend (Analyzer.standard expectedBrand) policy strategy { e with availability := a } =
      recommend (Analyzer.standard expectedBrand) policy strategy e := by
  have hscores : Recommendation.scoreAll (Analyzer.standard expectedBrand) { e with availability := a } =
      Recommendation.scoreAll (Analyzer.standard expectedBrand) e := by
    refine Recommendation.scoreAll_congr rfl fun analyzer hanalyzer => ?_
    simp only [Analyzer.standard, List.mem_cons, List.not_mem_nil, or_false] at hanalyzer
    obtain rfl | rfl | rfl := hanalyzer
    · rfl
    · exact hscore
    · rfl
  have hprice (scores : Scores α) : appraise policy { e with availability := a } scores strategy.margin =
      appraise policy e scores strategy.margin := by
    have hsame : Valuation.standing policy { e with availability := a } = Valuation.standing policy e :=
      hstanding
    unfold appraise Valuation.priceOn Valuation.factors
    rw [hsame]
    rfl
  unfold recommend
  rw [hscores]
  simp only [hprice]
  rfl

/-- A year of retirement that has come overrules what else the catalog says about the retirement of a set:
the flag, an expected date and the year of release change nothing about the recommendation. -/
theorem recommend_of_settled_year (expectedBrand : String) (policy : PricePolicy α) (strategy : Strategy α)
    (product : Product α) (related : Related α) (asOf : Date) {entry : CatalogEntry} {year : Int32}
    (hentry : related.entry = some entry) (hyear : entry.yearRetired = some year) (hle : year ≤ asOf.year)
    (retiringSoon : Bool) (expectedRetirement : Option Date) (yearReleased : Option Int32) :
    let entry' := { entry with retiringSoon, expectedRetirement, yearReleased }
    recommend (Analyzer.standard expectedBrand) policy strategy
        (.ofRecords product { related with entry := some entry' } asOf) =
      recommend (Analyzer.standard expectedBrand) policy strategy (.ofRecords product related asOf) := by
  intro entry'
  have halike := AvailabilityEvidence.settledAlike_ofRecords product
    (show entry'.yearRetired = entry.yearRetired from rfl) hyear hle
  rw [← hentry] at halike
  have hevidence : Evidence.ofRecords product { related with entry := some entry' } asOf =
      { Evidence.ofRecords product related asOf with
        availability := .ofRecords product (some entry') asOf } := by
    unfold Evidence.ofRecords QualityEvidence.ofRecords
    rw [hentry]
    rfl
  rw [hevidence]
  exact recommend_withAvailability expectedBrand policy strategy _ halike.score?_eq (halike.standing_eq _)

/-- An entry for a set that retired in 2024. -/
def retiredEntry : CatalogEntry := { catalogNumber := "10305-1", yearRetired := some 2024 }

/-- A flag, a date to come and an early release do not bring a retired set back. -/
theorem retiredEntry_recommended_alike :
    let product : Product Float := { id := "p-1", name := "Castle", stock := some 3 }
    let asOf : Date := ⟨2026, 6, 1, by decide⟩
    let entry' := { retiredEntry with
      retiringSoon := true
      expectedRetirement := some ⟨2027, 1, 31, by decide⟩
      yearReleased := some 2010 }
    retiredEntry.yearRetired = some 2024 ∧ (2024 : Int32) ≤ asOf.year ∧
    recommend (Analyzer.standard "LEGO") .standard Strategy.investmentFocus
        (.ofRecords product { entry := some entry' } asOf) =
      recommend (Analyzer.standard "LEGO") .standard Strategy.investmentFocus
        (.ofRecords product { entry := some retiredEntry } asOf) := by
  intro product asOf entry'
  have hyear : retiredEntry.yearRetired = some 2024 := rfl
  have hle : (2024 : Int32) ≤ asOf.year := by decide
  exact ⟨hyear, hle, recommend_of_settled_year "LEGO" .standard Strategy.investmentFocus product
    { entry := some retiredEntry } asOf rfl hyear hle true (some ⟨2027, 1, 31, by decide⟩) (some 2010)⟩

end Appraisal
