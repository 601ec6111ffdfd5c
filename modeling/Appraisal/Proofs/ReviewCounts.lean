import Appraisal.Proofs.Aborted
import Appraisal.Proofs.Quotients

/-!
# Believable distributions of reviews

Whether a distribution of stars is believed depends on a share that is a rounded quotient. Rounding never turns
the answer: it is that of whole numbers. The reviews are counted in 32 bits, so there is an answer only as long as
there are fewer than `2 ^ 32` of them.
-/

namespace Appraisal

namespace Quality
open Double

/-- The number that stands for a share of 0.95. -/
lemma exactly_fiveLimit : Exactly ((8556839292003942 : Nat) * 2 ^ (-53 : Int)) (0.95 : Float) :=
  ⟨by decide, rfl⟩

section Share
variable {five total : Nat}

lemma share_moderate (hzero : five ≠ 0) (hfive : five < 2 ^ 32) (htotal : 0 < total) (hmost : total < 2 ^ 32) :
    (2 : ℚ) ^ (-1000 : Int) ≤ five / total ∧ (five : ℚ) / total < 2 ^ (800 : Int) := by
  have hpos : (0 : ℚ) < total := by exact_mod_cast htotal
  have hone : (1 : ℚ) ≤ five := by exact_mod_cast Nat.one_le_iff_ne_zero.mpr hzero
  have hfive' : (five : ℚ) < 2 ^ 32 := by exact_mod_cast hfive
  have hmost' : (total : ℚ) ≤ 4294967296 := by exact_mod_cast hmost.le
  constructor
  · calc (2 : ℚ) ^ (-1000 : Int) ≤ 2 ^ (-32 : Int) := zpow_le_zpow_right₀ (by norm_num) (by norm_num)
      _ ≤ five / total := by
        rw [le_div_iff₀ hpos]
        norm_num
        linarith
  · calc (five : ℚ) / total ≤ five := div_le_self (by linarith) (by exact_mod_cast htotal)
      _ < 2 ^ (32 : Int) := hfive'
      _ ≤ 2 ^ (800 : Int) := zpow_le_zpow_right₀ (by norm_num) (by norm_num)

/-- A share of less than 0.95 is less by more than the last digit of a quotient. -/
lemma share_le_of_lt (h : 20 * five < 19 * total) (hmost : total < 2 ^ 32) :
    (five : ℚ) / total ≤ 19 / 20 - 1 / (20 * 2 ^ 32) := by
  have hpos : (0 : ℚ) < total := by exact_mod_cast (by omega : 0 < total)
  have hmost' : (total : ℚ) ≤ 4294967296 := by exact_mod_cast hmost.le
  have hgap : (20 : ℚ) * five + 1 ≤ 19 * total := by exact_mod_cast h
  rw [div_le_iff₀ hpos]
  norm_num
  linarith

lemma fiveLimit_le_share (h : 19 * total ≤ 20 * five) (htotal : 0 < total) :
    ((8556839292003942 : Nat) : ℚ) * 2 ^ (-53 : Int) ≤ five / total := by
  have hpos : (0 : ℚ) < total := by exact_mod_cast htotal
  have hmore : (19 : ℚ) * total ≤ 20 * five := by exact_mod_cast h
  rw [le_div_iff₀ hpos]
  norm_num
  linarith

/-- A share of whole numbers is compared with 0.95 as the exact share is. -/
lemma share_lt_iff (hfive : five < 2 ^ 32) (htotal : total ≠ 0) (hmost : total < 2 ^ 32) :
    (Arithmetic.ofNat five : Float) / Arithmetic.ofNat total < 0.95 ↔ 20 * five < 19 * total := by
  have hden : Exactly total (Arithmetic.ofNat total : Float) := ofNat_exactly htotal (by omega)
  by_cases hzero : five = 0
  · subst hzero
    exact iff_of_true (zero_div_lt hden exactly_fiveLimit) (by omega)
  · have hnum : Exactly five (Arithmetic.ofNat five : Float) := ofNat_exactly hzero (by omega)
    obtain ⟨hlow, hhigh⟩ := share_moderate hzero hfive (Nat.pos_of_ne_zero htotal) hmost
    obtain ⟨share, hnext, hshare⟩ := hnum.div hden hlow hhigh
    rw [hshare.lt_iff exactly_fiveLimit]
    by_cases hless : 20 * five < 19 * total
    · have hgap := share_le_of_lt hless hmost
      have hround := hnext.le_add (j := 0) (by norm_num; linarith)
      refine iff_of_true ?_ hless
      norm_num at hround hgap ⊢
      linarith
    · have hlimit := fiveLimit_le_share (not_lt.mp hless) (Nat.pos_of_ne_zero htotal)
      exact iff_of_false (hnext.le_of_le (by norm_num) hlimit).not_gt hless

end Share

/-- With all reviews counted there is an answer, and it is the one about the exact counts. -/
lemma isBelievable_of_counted {stars : StarCounts} (hcounted : stars.reviews < 2 ^ 32) :
    isBelievable Float stars =
      .value (2 ≤ stars.toList.countP (0 < ·) && 20 * stars.five.toNat < 19 * stars.reviews) := by
  cases htotal : stars.total with
  | aborted => exact absurd (StarCounts.total_eq_aborted_iff.mp htotal) (by omega)
  | value total =>
    have hexact := StarCounts.total_eq_value_iff.mp htotal
    rw [isBelievable, htotal, Checked.value_bind]
    by_cases hzero : total = 0
    · have hnone : stars.reviews = 0 := by rw [← hexact, hzero]; rfl
      simp [hzero, hnone]
    · have hsome : total.toNat ≠ 0 := fun h => hzero (UInt32.toNat_inj.mp h)
      have hshare := share_lt_iff stars.five.toNat_lt hsome total.toNat_lt
      rw [if_neg hzero]
      simp only [hshare, Checked.pure_eq]
      rw [hexact]

end Quality

open Quality in
/-- As long as there are fewer than `2 ^ 32` reviews they are counted exactly: a distribution is believed when it uses
two levels of stars and less than 19 in 20 of the reviews give five, and ten reviews or more that are not believed
raise a doubt. With more reviews than that there is no answer, and no analysis of a product with a rating. -/
theorem believable_iff_counted (stars : StarCounts) :
    (stars.reviews < 2 ^ 32 → ∃ total, stars.total = .value total ∧ total.toNat = stars.reviews ∧
      ∃ believable, isBelievable Float stars = .value believable ∧
        (believable ↔ 2 ≤ stars.toList.countP (0 < ·) ∧ 20 * stars.five.toNat < 19 * stars.reviews) ∧
        reviewPattern Float stars = .value (if believable then .believable else
          if 10 ≤ stars.reviews then .suspicious else .scarce)) ∧
    (2 ^ 32 ≤ stars.reviews → stars.total = .aborted ∧ isBelievable Float stars = .aborted ∧
      reviewPattern Float stars = .aborted) ∧
    ∀ (expectedBrand : String) (e : QualityEvidence Float), e.ratingDistribution = some stars →
      (score? expectedBrand e = .aborted ↔ e.rating.isSome ∧ 2 ^ 32 ≤ stars.reviews) := by
  refine ⟨fun hcounted => ?_, fun hmany => ?_, fun expectedBrand e hstars => ?_⟩
  · have hbelieved := isBelievable_of_counted hcounted
    cases htotal : stars.total with
    | aborted => exact absurd (StarCounts.total_eq_aborted_iff.mp htotal) (by omega)
    | value total =>
      have hexact := StarCounts.total_eq_value_iff.mp htotal
      refine ⟨total, rfl, hexact, _, hbelieved, by simp, ?_⟩
      have hten : 10 ≤ total ↔ 10 ≤ stars.reviews := by
        rw [UInt32.le_iff_toNat_le, hexact]
        rfl
      rw [reviewPattern, hbelieved, htotal, Checked.value_bind, Checked.value_bind]
      simp only [hten]
      split
      · rfl
      · split <;> rfl
  · exact ⟨StarCounts.total_eq_aborted_iff.mpr hmany, isBelievable_eq_aborted_iff.mpr hmany,
      reviewPattern_eq_aborted_iff.mpr hmany⟩
  · rw [score?_eq_aborted_iff, hstars]
    simp

/-- As many reviews as can be counted, nearly 19 in 20 of them with five stars. -/
def mostlyFive : StarCounts := ⟨214748365, 0, 0, 0, 4080218930⟩

theorem mostlyFive_believable :
    mostlyFive.reviews < 2 ^ 32 ∧ Quality.isBelievable Float mostlyFive = .value true ∧
      Quality.reviewPattern Float mostlyFive = .value .believable := by
  have hcounted : mostlyFive.reviews < 2 ^ 32 := by decide
  obtain ⟨-, -, -, believable, hanswer, hiff, hpattern⟩ := (believable_iff_counted mostlyFive).1 hcounted
  obtain rfl : believable = true := hiff.mpr ⟨by decide, by decide⟩
  exact ⟨hcounted, hanswer, hpattern⟩

/-- One review more than can be counted, none with five stars: there is no answer, and no score for a product that is
rated. -/
theorem uncounted_reviews_aborted :
    let stars : StarCounts := ⟨4294967295, 1, 0, 0, 0⟩
    stars.reviews = 2 ^ 32 ∧ (2 ≤ stars.toList.countP (0 < ·) ∧ 20 * stars.five.toNat < 19 * stars.reviews) ∧
    stars.total = .aborted ∧ Quality.isBelievable Float stars = .aborted ∧
    Quality.score? "LEGO" { rating := some (4.5 : Float), ratingDistribution := some stars } = .aborted := by
  intro stars
  have hreviews : stars.reviews = 2 ^ 32 := by decide
  exact ⟨hreviews, ⟨by decide, by decide⟩, StarCounts.total_eq_aborted_iff.mpr hreviews.ge,
    Quality.isBelievable_eq_aborted_iff.mpr hreviews.ge,
    Quality.score?_eq_aborted_iff.mpr ⟨rfl, stars, rfl, hreviews.ge⟩⟩

end Appraisal
