import Appraisal.Analysis.Availability
import Appraisal.Analysis.Quality
import Appraisal.Proofs.Standings
import Appraisal.Valuation.Basic

/-!
# Aborted computations

An analysis is aborted by a day that has no opposite or by reviews that cannot be counted, and an appraisal by years
that do not fit or by limits of the margin that are not in order. Nothing else aborts them.
-/

namespace Appraisal
open Checked
variable {α : Type} [Arithmetic α]

namespace Availability
variable {e : AvailabilityEvidence} {currentYear : Int32}

/-- Only the number of days since the earliest day of all cannot be written. -/
lemma urgencyReason_eq_aborted_iff {days : Int64} : urgencyReason days = .aborted ↔ days = Int64.minValue := by
  unfold urgencyReason
  split
  · simp [bind_eq_aborted_iff, neg_eq_aborted_iff]
  · rename_i hcoming
    have hne : days ≠ Int64.minValue := by
      rintro rfl
      exact hcoming (by decide)
    simp only [hne, iff_false]
    repeat' split
    all_goals simp

/-- A date counts against a scheduled year only if it has not passed, so such a date can be written. -/
theorem score?_eq_aborted_iff [NumberText α] :
    (score? e currentYear : Checked (Option (Score α))) = .aborted ↔
      e.yearRetired = none ∧ e.daysUntilRetirement = some Int64.minValue := by
  rw [score?, bind_eq_aborted_iff, or_iff_left (by simp)]
  unfold timing
  cases e.yearRetired with
  | some year =>
    by_cases hle : year ≤ currentYear
    · simp [hle, Timing.reasoning]
    · cases hdays : e.daysUntilRetirement.filter (0 ≤ ·) with
      | none => simp [hle, Timing.reasoning]
      | some days =>
        have hcoming : 0 ≤ days := by simpa using (Option.filter_eq_some_iff.mp hdays).2
        have hne : days ≠ Int64.minValue := by
          rintro rfl
          exact absurd hcoming (by decide)
        simp [hle, Timing.reasoning, urgencyReason_eq_aborted_iff, hne]
  | none =>
    cases e.daysUntilRetirement with
    | some days => simp [Timing.reasoning, urgencyReason_eq_aborted_iff]
    | none => rcases e.retiringSoon with _ | _ | _ <;> simp [Timing.reasoning]

end Availability

namespace StarCounts
variable {stars : StarCounts}

/-- How many reviews there are, counted without a bound. -/
def reviews (stars : StarCounts) : Nat := (stars.toList.map UInt32.toNat).sum

lemma total_eq_value_iff {n : UInt32} : stars.total = .value n ↔ n.toNat = stars.reviews := sum_eq_value_iff

lemma total_eq_aborted_iff : stars.total = .aborted ↔ 2 ^ 32 ≤ stars.reviews := sum_eq_aborted_iff

end StarCounts

namespace Quality
variable {stars : StarCounts}

lemma isBelievable_eq_aborted_iff : isBelievable α stars = .aborted ↔ 2 ^ 32 ≤ stars.reviews := by
  rw [← StarCounts.total_eq_aborted_iff, isBelievable, bind_eq_aborted_iff]
  refine or_iff_left ?_
  rintro ⟨total, -, haborted⟩
  split at haborted <;> cases haborted

lemma reviewPattern_eq_aborted_iff : reviewPattern α stars = .aborted ↔ 2 ^ 32 ≤ stars.reviews := by
  rw [← isBelievable_eq_aborted_iff (α := α), reviewPattern, bind_eq_aborted_iff]
  refine or_iff_left ?_
  rintro ⟨believable, hvalue, haborted⟩
  cases believable with
  | true => cases haborted
  | false =>
    -- What was counted once can be counted again.
    cases htotal : stars.total with
    | aborted =>
      rw [isBelievable, htotal] at hvalue
      cases hvalue
    | value total =>
      rw [htotal] at haborted
      by_cases hmany : 10 ≤ total <;> simp [hmany] at haborted

/-- The reviews are counted only beside a rating. -/
theorem score?_eq_aborted_iff [NumberText α] {expectedBrand : String} {e : QualityEvidence α} :
    score? expectedBrand e = .aborted ↔
      e.rating.isSome ∧ ∃ stars, e.ratingDistribution = some stars ∧ 2 ^ 32 ≤ stars.reviews := by
  rw [score?, bind_eq_aborted_iff, or_iff_left (by simp)]
  unfold reviews
  cases e.rating with
  | none => simp
  | some rating =>
    cases e.ratingDistribution with
    | none => simp
    | some stars => simp [map_eq_aborted_iff, reviewPattern_eq_aborted_iff]

end Quality

lemma marginOfSafety_eq_aborted_iff {policy : PricePolicy α} {base : α} {scores : Scores α} :
    marginOfSafety policy base scores = .aborted ↔ ¬ policy.leastMargin ≤ policy.greatestMargin := by
  unfold marginOfSafety
  split <;> simp_all

namespace Valuation
variable [NumberText α] {policy : PricePolicy α} {e : Evidence α} {scores : Scores α} {base : α}

lemma priceOn_eq_aborted_iff {anchor : Anchor} :
    priceOn policy e scores base anchor = .aborted ↔
      ∀ s, standing policy e = .value s → positiveCents? (intrinsic anchor (factors policy s e scores)) ≠ none ∧
        ¬ policy.leastMargin ≤ policy.greatestMargin := by
  rw [priceOn]
  cases standing policy e with
  | aborted => simp
  | value s =>
    simp only [value_bind, value.injEq, forall_eq']
    cases positiveCents? (intrinsic anchor (factors policy s e scores)) with
    | none => simp
    | some value =>
      rw [bind_eq_aborted_iff, marginOfSafety_eq_aborted_iff]
      simp only [ne_eq, reduceCtorEq, not_false_eq_true, true_and]
      refine or_iff_left ?_
      rintro ⟨margin, -, haborted⟩
      split at haborted <;> cases haborted

/-- What is appraised at all needs years that fit, and limits for the margin that are in order as soon as the anchor
has a value. -/
theorem appraise_eq_aborted_iff :
    appraise policy e scores base = .aborted ↔
      ∃ anchor, anchor? e.pricing = some anchor ∧ objection? policy e.pricing anchor = none ∧
        ∀ s, standing policy e = .value s → positiveCents? (intrinsic anchor (factors policy s e scores)) ≠ none ∧
          ¬ policy.leastMargin ≤ policy.greatestMargin := by
  unfold appraise
  cases anchor? e.pricing with
  | none => simp
  | some anchor =>
    cases hobjection : objection? policy e.pricing anchor with
    | some reason => simp [hobjection]
    | none => simp [hobjection, priceOn_eq_aborted_iff]

/-- With years that fit and limits that are in order there is an answer. -/
lemma exists_appraise (hyears : e.availability.YearsFit e.asOf.year)
    (horder : policy.leastMargin ≤ policy.greatestMargin) :
    ∃ answer, appraise policy e scores base = .value answer := by
  refine exists_value fun haborted => ?_
  obtain ⟨anchor, -, -, hnever⟩ := appraise_eq_aborted_iff.mp haborted
  obtain ⟨s, hs⟩ : ∃ s, standing policy e = .value s :=
    exists_value (mt retirementStanding_eq_aborted_iff.mp (not_not.mpr hyears))
  exact (hnever s hs).2 horder

end Valuation

/-- Whether the integers that are worked out from evidence fit: the days since an expected date when no year of
retirement is known, the reviews behind a rating, and the years since a set left the shelves or came to them. -/
structure Evidence.Fits (e : Evidence α) : Prop where
  days : e.availability.yearRetired = none → e.availability.daysUntilRetirement ≠ some Int64.minValue
  reviews : ∀ stars, e.quality.ratingDistribution = some stars → e.quality.rating.isSome → stars.reviews < 2 ^ 32
  years : e.availability.YearsFit e.asOf.year

end Appraisal
