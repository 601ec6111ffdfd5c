import Appraisal.Proofs.Abstention
import Appraisal.Proofs.Curves
import Appraisal.Proofs.Marks

/-!
# Stronger signals

When buyers buy more, pay more or talk more, or sellers offer fewer lots, the demand score does not fall, and
neither does the quality score when a set is rated higher or by more reviewers. Which parts are found depends only
on which signals are there, and each part is a chain of steps none of which turns a larger signal into a lower score.
-/

namespace Appraisal
open Scorecard

/-- Whether sales are at least as good as before, by the same statistics. -/
structure ConditionSales.NoSlower (t t' : ConditionSales ℚ) : Prop where
  totalTransactions : t.totalTransactions ≤ t'.totalTransactions
  salesVelocity : Option.Rel (· ≤ ·) t.salesVelocity t'.salesVelocity
  recent30 : Option.Rel (· ≤ ·) t.recent30 t'.recent30
  recent90 : Option.Rel (· ≤ ·) t.recent90 t'.recent90
  priceTrend : t'.priceTrend = t.priceTrend
  relativeStrength : t'.relativeStrength = t.relativeStrength
  volumeTrend : t'.volumeTrend = t.volumeTrend

structure Community.NoQuieter (c c' : Community ℚ) : Prop where
  postCount : c.postCount ≤ c'.postCount
  averageScore : Option.Rel (· ≤ ·) c.averageScore c'.averageScore

/-- Whether the same signals of demand are there as before, and all of them at least as strong. -/
structure DemandEvidence.NoWeaker (e e' : DemandEvidence ℚ) : Prop where
  transactions : Option.Rel ConditionSales.NoSlower e.transactions e'.transactions
  guideTimesSold : Option.Rel (· ≤ ·) e.guideTimesSold e'.guideTimesSold
  askingPrice : Option.Rel (· ≤ ·) e.askingPrice e'.askingPrice
  paidPrice : e'.paidPrice = e.paidPrice
  retailPrice : e'.retailPrice = e.retailPrice
  currentLots : Option.Rel (fun lots lots' => lots' ≤ lots) e.currentLots e'.currentLots
  community : Option.Rel Community.NoQuieter e.community e'.community
  unitsSold : Option.Rel (· ≤ ·) e.unitsSold e'.unitsSold

/-- Whether a set is rated as high as before or higher, and by as many reviewers or more. -/
structure QualityEvidence.NoWeaker (e e' : QualityEvidence ℚ) : Prop where
  rating : Option.Rel (· ≤ ·) e.rating e'.rating
  reviewCount : Option.Rel (· ≤ ·) e.reviewCount e'.reviewCount
  ratingDistribution : e'.ratingDistribution = e.ratingDistribution
  brand : e'.brand = e.brand
  theme : e'.theme = e.theme
  partsCount : e'.partsCount = e.partsCount

variable [Exponential]

lemma Exact.mean?_mono {xs ys : List ℚ} (h : List.Forall₂ (· ≤ ·) xs ys) :
    Option.Rel (· ≤ ·) (Arithmetic.mean? xs) (Arithmetic.mean? ys) := by
  have hsum : Arithmetic.sum xs ≤ Arithmetic.sum ys := by
    rw [Exact.sum_eq, Exact.sum_eq]
    exact h.sum_le_sum
  have hcount : (0 : ℚ) ≤ Arithmetic.ofNat ys.length := Int.cast_nonneg (Int.natCast_nonneg _)
  have hlength := h.length_eq
  cases h with
  | nil => exact .none
  | cons _ _ =>
    apply Option.Rel.some
    rw [hlength]
    exact div_le_div_of_nonneg_right hsum hcount

lemma Exact.meanPresent?_mono {xs ys : List (Option ℚ)} (h : List.Forall₂ (Option.Rel (· ≤ ·)) xs ys) :
    Option.Rel (· ≤ ·) (Arithmetic.meanPresent? xs) (Arithmetic.meanPresent? ys) :=
  mean?_mono (List.rel_filterMap (fun _ _ hvalue => hvalue) h)

lemma Cents.ratio?_mono {c c' : Cents} (h : c ≤ c') (base : Cents) :
    Option.Rel (· ≤ ·) (c.ratio? base : Option ℚ) (c'.ratio? base) := by
  have hnumbers : (c.value.toInt : ℚ) ≤ c'.value.toInt := by exact_mod_cast Int64.le_iff_toInt_le.mp h
  unfold ratio?
  split
  · rename_i hbase
    have hpositive : (0 : ℚ) < base.value.toInt := by exact_mod_cast (isPositive_iff base).mp hbase
    exact .some (div_le_div_of_nonneg_right hnumbers hpositive.le)
  · exact .none

namespace Demand

lemma curves_rise : ∀ c ∈ ([byPace, byRecentSales, byPriceTrend, byPremium, byPosts, byPostScore, byUnitsSold] :
    List (Curve ℚ)), c.points.IsChain Curve.Rises := by
  norm_num [byPace, byRecentSales, byPriceTrend, byPremium, byPosts, byPostScore, byUnitsSold, Curve.Rises]

lemma byLots_falls : (byLots : Curve ℚ).points.IsChain Curve.Falls := by
  norm_num [byLots, Curve.Falls]

lemma count_mono {n n' : UInt32} (h : n ≤ n') : (count n : ℚ) ≤ count n' :=
  Exact.ofNat_mono (UInt32.le_iff_toNat_le.mp h)

lemma byPace_mono {x x' : ℚ} (h : x ≤ x') : byPace.eval x ≤ byPace.eval x' :=
  Curve.eval_mono (curves_rise _ (by simp)) h

section Sales
variable {t t' : ConditionSales ℚ} (h : t.NoSlower t')
include h

lemma salesPerDay_mono : salesPerDay t ≤ salesPerDay t' := by
  have hday : ∀ {n n' : UInt32} {days : ℚ}, 0 ≤ days → n ≤ n' → count n / days ≤ count n' / days :=
    fun hdays hle => div_le_div_of_nonneg_right (count_mono hle) hdays
  unfold salesPerDay
  -- Every source of the pace grows, and the first one that is there is the same as before.
  apply rel_getD (R := (· ≤ ·))
  · apply rel_orElse h.salesVelocity
    apply rel_orElse
    · exact rel_map h.recent90 (hday (by norm_num))
    · exact rel_map h.recent30 (hday (by norm_num))
  · exact hday (by norm_num [guideDays]) h.totalTransactions

lemma velocityScore_mono : velocityScore t ≤ velocityScore t' := by
  have hpace := byPace_mono (salesPerDay_mono h)
  have hrecent := h.recent30
  unfold velocityScore
  dsimp only
  generalize t.recent30 = n, t'.recent30 = n' at hrecent ⊢
  cases hrecent with
  | none => exact hpace
  | some hle =>
    have hcount : byRecentSales.eval (count _) ≤ byRecentSales.eval (count _) :=
      Curve.eval_mono (curves_rise _ (by simp)) (count_mono hle)
    dsimp only
    gcongr

lemma momentumScore?_eq : momentumScore? t' = momentumScore? t := by
  unfold momentumScore?
  rw [h.priceTrend, h.relativeStrength, h.volumeTrend]

end Sales

lemma communityScore_mono {c c' : Community ℚ} (h : c.NoQuieter c') : communityScore c ≤ communityScore c' := by
  have hposts : byPosts.eval (count c.postCount) ≤ byPosts.eval (count c'.postCount) :=
    Curve.eval_mono (curves_rise _ (by simp)) (count_mono h.postCount)
  unfold communityScore
  apply rel_getD (R := (· ≤ ·)) _ hposts
  apply Exact.meanPresent?_mono
  refine .cons (.some hposts) (.cons ?_ .nil)
  exact rel_map h.averageScore fun hle => Curve.eval_mono (curves_rise _ (by simp)) hle

section Signals
variable {e e' : DemandEvidence ℚ} (h : e.NoWeaker e')
include h

lemma pace?_mono : Option.Rel (· ≤ ·) (pace? e) (pace? e') := by
  have htransactions := h.transactions
  unfold pace?
  generalize e.transactions = t, e'.transactions = t' at htransactions ⊢
  cases htransactions with
  | some hsales => exact .some (velocityScore_mono hsales)
  | none =>
    refine rel_map h.guideTimesSold fun hle => byPace_mono ?_
    exact div_le_div_of_nonneg_right (count_mono hle) (by norm_num [guideDays])

lemma momentum_mono :
    Option.Rel (· ≤ ·) (e.transactions.bind momentumScore?) (e'.transactions.bind momentumScore?) := by
  refine rel_bind h.transactions fun hsales => ?_
  rw [momentumScore?_eq hsales]
  exact rel_refl le_refl _

lemma priceTrendRatio?_mono : Option.Rel (· ≤ ·) (priceTrendRatio? e) (priceTrendRatio? e') := by
  unfold priceTrendRatio?
  rw [h.paidPrice]
  refine rel_bind h.askingPrice fun hle => ?_
  exact rel_bind (rel_refl (R := Eq) (fun _ => rfl) _) fun hsame => hsame ▸ Cents.ratio?_mono hle _

lemma retailPremium?_mono : Option.Rel (· ≤ ·) (retailPremium? e) (retailPremium? e') := by
  have hmarket : Option.Rel (· ≤ ·) (e.askingPrice <|> e.paidPrice) (e'.askingPrice <|> e'.paidPrice) := by
    rw [h.paidPrice]
    exact rel_orElse h.askingPrice (rel_refl (fun c => Int64.le_refl c.value) _)
  unfold retailPremium?
  rw [h.retailPrice]
  refine rel_bind hmarket fun hle => ?_
  exact rel_bind (rel_refl (R := Eq) (fun _ => rfl) _) fun hsame => hsame ▸ Cents.ratio?_mono hle _

lemma listingScore?_mono : Option.Rel (· ≤ ·) (listingScore? e) (listingScore? e') := by
  apply Exact.meanPresent?_mono
  refine .cons ?_ (.cons ?_ (.cons ?_ .nil))
  · exact rel_map (priceTrendRatio?_mono h) fun hle => Curve.eval_mono (curves_rise _ (by simp)) hle
  · exact rel_map (retailPremium?_mono h) fun hle => Curve.eval_mono (curves_rise _ (by simp)) hle
  · exact rel_map h.currentLots fun hle => Curve.eval_anti byLots_falls (count_mono hle)

lemma unitsScore_mono :
    Option.Rel (· ≤ ·) (e.unitsSold.map fun units => byUnitsSold.eval (Arithmetic.ofNat units.toNat : ℚ))
      (e'.unitsSold.map fun units => byUnitsSold.eval (Arithmetic.ofNat units.toNat : ℚ)) := by
  refine rel_map h.unitsSold fun hle => ?_
  apply Curve.eval_mono (curves_rise _ (by simp))
  exact Exact.ofNat_mono (UInt64.le_iff_toNat_le.mp hle)

lemma marks_mono [NumberText ℚ] : MarksNoLower (card e).marks (card e').marks := by
  have hvelocity : (0 : ℚ) ≤ velocityWeight := by norm_num [velocityWeight]
  have hmomentum : (0 : ℚ) ≤ momentumWeight := by norm_num [momentumWeight]
  have hlisting : (0 : ℚ) ≤ listingWeight := by norm_num [listingWeight]
  have hcommunity : (0 : ℚ) ≤ communityWeight := by norm_num [communityWeight]
  have hretail : (0 : ℚ) ≤ retailWeight := by norm_num [retailWeight]
  rw [marks_card, marks_card]
  exact ((((mark_noLower hvelocity (pace?_mono h)).append (mark_noLower hmomentum (momentum_mono h))).append
    (mark_noLower hlisting (listingScore?_mono h))).append
    (mark_noLower hcommunity (rel_map h.community communityScore_mono))).append
    (mark_noLower hretail (unitsScore_mono h))

end Signals
end Demand

namespace Quality
variable {e e' : QualityEvidence ℚ}

lemma reviewFactor_nonneg (n : Option UInt32) : (0 : ℚ) ≤ reviewFactor n := by
  unfold reviewFactor
  split
  · norm_num
  · split_ifs <;> norm_num

lemma reviewFactor_mono {n n' : Option UInt32} (h : Option.Rel (· ≤ ·) n n') :
    (reviewFactor n : ℚ) ≤ reviewFactor n' := by
  cases h with
  | none => exact le_rfl
  | some hle =>
    rw [UInt32.le_iff_toNat_le] at hle
    unfold reviewFactor
    simp only [UInt32.lt_iff_toNat_lt, UInt32.reduceToNat]
    split_ifs <;> first
      -- A level that was reached before is still reached.
      | omega
      | norm_num

lemma ratingScore_mono (h : e.NoWeaker e') (pattern : Option ReviewPattern) {rating rating' : ℚ}
    (hrating : 0 ≤ rating) (hle : rating ≤ rating') :
    ratingScore e pattern rating ≤ ratingScore e' pattern rating' := by
  have hpercent : 0 ≤ ratingPercent rating := by
    unfold ratingPercent
    positivity
  have hpercent' : ratingPercent rating ≤ ratingPercent rating' := by
    unfold ratingPercent
    gcongr
  have hscore : ratingPercent rating * reviewFactor e.reviewCount ≤
      ratingPercent rating' * reviewFactor e'.reviewCount :=
    mul_le_mul hpercent' (reviewFactor_mono h.reviewCount) (reviewFactor_nonneg _) (hpercent.trans hpercent')
  unfold ratingScore
  dsimp only
  split
  · exact add_le_add_left hscore _
  · exact hscore

lemma marks_mono [NumberText ℚ] (h : e.NoWeaker e') (hrating : ∀ rating, e.rating = some rating → 0 ≤ rating)
    (expectedBrand : String) (pattern : Option ReviewPattern) :
    MarksNoLower (card expectedBrand e pattern).marks (card expectedBrand e' pattern).marks := by
  have hweight : (0 : ℚ) ≤ ratingWeight := by norm_num [ratingWeight]
  have hbrand : (0 : ℚ) ≤ brandWeight := by norm_num [brandWeight]
  have hmetadata : (0 : ℚ) ≤ metadataWeight := by norm_num [metadataWeight]
  have hscores : Option.Rel (· ≤ ·) (e.rating.map (ratingScore e pattern))
      (e'.rating.map (ratingScore e' pattern)) := by
    have hrel := h.rating
    generalize e.rating = r, e'.rating = r' at hrel hrating ⊢
    cases hrel with
    | none => exact .none
    | some hle => exact .some (ratingScore_mono h pattern (hrating _ rfl) hle)
  have hsame : metadataScore e' = metadataScore e := by
    unfold metadataScore
    rw [h.theme, h.partsCount]
  rw [marks_card, marks_card, h.brand, h.theme, h.partsCount, hsame]
  exact ((mark_noLower hweight hscores).append (mark_noLower hbrand (rel_refl le_refl _))).append
    (mark_noLower hmetadata (rel_refl le_refl _))

/-- The reviews are read alike, as far as they can be counted. -/
lemma reviews_eq (h : e.NoWeaker e') : reviews e' = reviews e := by
  have hrating := h.rating
  unfold reviews
  rw [h.ratingDistribution]
  generalize e.rating = r, e'.rating = r' at hrating ⊢
  cases hrating with
  | none => rfl
  | some _ => cases e.ratingDistribution <;> rfl

lemma score?_mono [NumberText ℚ] (h : e.NoWeaker e') (hrating : ∀ rating, e.rating = some rating → 0 ≤ rating)
    (expectedBrand : String) :
    Checked.Rel (Option.Rel fun s s' => s.value ≤ s'.value) (score? expectedBrand e) (score? expectedBrand e') := by
  unfold score?
  rw [reviews_eq h]
  cases reviews e with
  | aborted => exact .aborted
  | value pattern => exact .value (toScore?_noLower (marks_mono h hrating expectedBrand pattern) formula)

end Quality

variable [NumberText ℚ]

/-- Stronger signals never lower a score, one by one or together: not that of demand, and not that of quality as
long as ratings are not negative. Neither do they bring a score or take one away, or abort the analysis. -/
theorem stronger_signals_no_lower_score {d d' : DemandEvidence ℚ} (hdemand : d.NoWeaker d')
    {q q' : QualityEvidence ℚ} (hquality : q.NoWeaker q')
    (hrating : ∀ rating, q.rating = some rating → 0 ≤ rating) (expectedBrand : String) :
    Option.Rel (fun s s' => s.value ≤ s'.value) (Demand.score? d) (Demand.score? d') ∧
    Checked.Rel (Option.Rel fun s s' => s.value ≤ s'.value) (Quality.score? expectedBrand q)
      (Quality.score? expectedBrand q') :=
  ⟨toScore?_noLower (Demand.marks_mono hdemand) _, Quality.score?_mono hquality hrating expectedBrand⟩

omit [Exponential] [NumberText ℚ]

/-- A set of which nothing is known but sales without a recorded pace, asking prices and talk. -/
def watchedSet (recent posts lots : UInt32) (asking : Cents) : DemandEvidence ℚ where
  transactions := some { totalTransactions := 40, recent30 := some recent, volumeTrend := some .stable }
  askingPrice := some asking
  paidPrice := some ⟨9000⟩
  currentLots := some lots
  community := some { postCount := posts, totalScore := 0, averageScore := some (-1), totalComments := 0 }

def reviewedSet (rating : ℚ) (reviews : UInt32) : QualityEvidence ℚ where
  rating := some rating
  reviewCount := some reviews

theorem watchedSet_no_lower_score :
    letI := gentleExponential
    letI := fractionText
    let quiet := watchedSet 3 0 50 ⟨8000⟩
    let busy := watchedSet 9 12 4 ⟨12000⟩
    quiet.NoWeaker busy ∧ (reviewedSet 0 4).NoWeaker (reviewedSet 5 50) ∧
    (∀ rating, (reviewedSet 0 4).rating = some rating → 0 ≤ rating) ∧
    (Demand.score? quiet).isSome ∧
    Option.Rel (fun s s' => s.value ≤ s'.value) (Demand.score? quiet) (Demand.score? busy) ∧
    ∃ s s', Quality.score? "LEGO" (reviewedSet 0 4) = .value (some s) ∧
      Quality.score? "LEGO" (reviewedSet 5 50) = .value (some s') ∧ s.value ≤ s'.value := by
  let _ := gentleExponential
  let _ := fractionText
  intro quiet busy
  have hsales : ConditionSales.NoSlower { totalTransactions := 40, recent30 := some 3, volumeTrend := some .stable }
      { totalTransactions := 40, recent30 := some 9, volumeTrend := some .stable } :=
    ⟨by decide, .none, .some (by decide), .none, rfl, rfl, rfl⟩
  have hdemand : quiet.NoWeaker busy :=
    ⟨.some hsales, .none, .some (by decide), rfl, rfl, .some (by decide),
      .some ⟨by decide, .some le_rfl⟩, .none⟩
  have hquality : (reviewedSet 0 4).NoWeaker (reviewedSet 5 50) :=
    ⟨.some (by norm_num), .some (by decide), rfl, rfl, rfl, rfl⟩
  have hrating : ∀ rating, (reviewedSet 0 4).rating = some rating → 0 ≤ rating := by
    intro rating h
    obtain rfl := Option.some.inj h
    exact le_rfl
  obtain ⟨hscores, hscores'⟩ := stronger_signals_no_lower_score hdemand hquality hrating "LEGO"
  obtain ⟨s, hs⟩ : ∃ s, Quality.score? "LEGO" (reviewedSet 0 4) = .value (some s) :=
    Checked.exists_value_some (mt Quality.score?_eq_aborted_iff.mp (by simp [reviewedSet]))
      (mt Quality.score?_eq_none_iff.mp (by simp [reviewedSet]))
  refine ⟨hdemand, hquality, hrating, ?_, hscores, s, ?_⟩
  · rw [Option.isSome_iff_ne_none, ne_eq, Demand.score?_eq_none_iff]
    simp [quiet, watchedSet]
  · rw [hs] at hscores' ⊢
    generalize Quality.score? "LEGO" (reviewedSet 5 50) = found at hscores' ⊢
    obtain ⟨⟨hle⟩⟩ := hscores'
    exact ⟨_, rfl, rfl, hle⟩

end Appraisal
