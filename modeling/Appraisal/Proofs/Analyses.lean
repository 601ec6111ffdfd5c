import Appraisal.Analysis.Availability
import Appraisal.Analysis.Demand
import Appraisal.Analysis.Quality
import Appraisal.Evidence.Validity
import Appraisal.Proofs.CardContents
import Appraisal.Proofs.Scoring

/-!
# Analyses

Every analysis of evidence with finite measures gives a score in its range. Counts, prices and days
reach a curve only through quotients of bounded numbers, and the measures as they are.
-/

namespace Appraisal
open Double Scorecard

/-- A measure that is there is defined. -/
def IsDefined? (x : Option Float) : Prop := ∀ y, x = some y → Arithmetic.isNaN y = false

namespace Cents

lemma natAbs_lt (c : Cents) : c.value.toInt.natAbs < 2 ^ 64 := by
  have hle := c.value.le_toInt
  have hlt := c.value.toInt_lt
  omega

lemma atLeast_of_isPositive {base : Cents} (h : base.isPositive = true) :
    AtLeast 0 (base.toNumber : Float) := by
  have hpos : 0 < base.value.toInt := Int64.lt_iff_toInt_lt.mp (of_decide_eq_true h)
  have hlt := base.natAbs_lt
  unfold toNumber
  obtain ⟨n, hn⟩ := Int.eq_ofNat_of_zero_le (Int.le_of_lt hpos)
  rw [hn] at hpos hlt ⊢
  exact atLeast_ofNat (by omega) hlt

/-- A ratio of prices is defined. -/
lemma isDefined_ratio? (c base : Cents) : IsDefined? (c.ratio? base) := by
  intro x hx
  unfold ratio? at hx
  split at hx
  · rename_i hpos
    cases hx
    have hnum : Below 70 (c.toNumber : Float) := below_ofInt _ c.natAbs_lt
    exact (hnum.div (atLeast_of_isPositive hpos) (by omega) (by omega)).isNaN
  · cases hx

end Cents

namespace Demand

lemma below_count (n : UInt32) : Below 70 (count n : Float) :=
  below_ofNat (Nat.lt_trans n.toNat_lt (by decide))

section Velocity
variable {t : ConditionSales Float}

lemma isNaN_salesPerDay (h : IsDefined? t.salesVelocity) :
    Arithmetic.isNaN (salesPerDay t) = false := by
  have hquotient {l : Int} {days : Float} (n : UInt32) (hdays : AtLeast l days) (hl : 0 ≤ l)
      (hl' : l ≤ 10) : Arithmetic.isNaN ((count n : Float) / days) = false :=
    ((below_count n).div hdays (by omega) (by omega)).isNaN
  unfold salesPerDay
  cases hvelocity : t.salesVelocity with
  | some x => exact h x hvelocity
  | none =>
    cases t.recent90 with
    | some n => exact hquotient n (l := 6) (by decide) (by omega) (by omega)
    | none =>
      cases t.recent30 with
      | some n => exact hquotient n (l := 4) (by decide) (by omega) (by omega)
      | none => exact hquotient _ (l := 7) (by decide) (by omega) (by omega)

lemma below_byPace {x : Float} (h : Arithmetic.isNaN x = false) : Below 33 (byPace.eval x) :=
  Curve.IsGentle.below_eval (by decide) h

lemma isNaN_velocityScore (h : IsDefined? t.salesVelocity) :
    Arithmetic.isNaN (velocityScore t) = false := by
  have hpace := below_byPace (isNaN_salesPerDay h)
  unfold velocityScore
  cases t.recent30 with
  | none => exact hpace.isNaN
  | some recent =>
    have hrecent : Below 33 (byRecentSales.eval (count recent : Float)) :=
      Curve.IsGentle.below_eval (by decide) (below_count recent).isNaN
    have hshare : Below 0 (0.7 : Float) := by decide
    have hshare' : Below 0 (0.3 : Float) := by decide
    exact ((hshare.mul hpace (by omega) (by omega)).add
      (hshare'.mul hrecent (by omega) (by omega)) (by omega) (by omega)).isNaN

lemma velocityEntries_isSound (h : IsDefined? t.salesVelocity) :
    IsSound 5 (velocityEntries t) := by
  unfold velocityEntries
  have hchange : IsSound 1 (given (paceChange? t) fun text => [.reason text]) :=
    IsSound.given fun text _ => isSound_nil.reason
  have hweight : Below 0 (velocityWeight : Float) := by decide
  apply (isSound_nil.reason.append (m := 1) hchange).append (n := 3)
  apply IsSound.dataPoint
  apply IsSound.dataPoint
  exact IsSound.component isSound_nil hweight (isNaN_velocityScore h)

lemma guideVelocityEntries_isSound (timesSold : UInt32) :
    IsSound 3 (guideVelocityEntries timesSold : Scorecard Float) := by
  have hdays : AtLeast 7 (guideDays : Float) := by decide
  have hpace := below_byPace ((below_count timesSold).div hdays (by omega) (by omega)).isNaN
  have hweight : Below 0 (velocityWeight : Float) := by decide
  unfold guideVelocityEntries
  apply IsSound.reason
  apply IsSound.dataPoint
  exact IsSound.component isSound_nil hweight hpace.isNaN

end Velocity

section Momentum

lemma below_priceTrendScore (trend : Trend) : Below 7 (priceTrendScore trend : Float) := by
  cases trend <;> decide

lemma below_volumeScore (trend : Trend) : Below 7 (volumeScore trend : Float) := by
  cases trend <;> decide

lemma below_strengthScore (strength : Float) : Below 7 (strengthScore strength).1 := by
  unfold strengthScore
  repeat' split
  all_goals decide

lemma isDefined_momentumScore? (t : ConditionSales Float) : IsDefined? (momentumScore? t) := by
  intro score hscore
  apply isNaN_meanPresent? _ (by simp) hscore
  rw [List.forall_mem_cons, List.forall_mem_cons, List.forall_mem_singleton]
  refine ⟨below?_map ?_, below?_map ?_, below?_map ?_⟩
  · intro trend _
    exact (below_priceTrendScore trend).mono (by omega)
  · intro strength _
    exact (below_strengthScore strength).mono (by omega)
  · intro trend _
    exact (below_volumeScore trend).mono (by omega)

lemma momentumEntries_isSound (t : ConditionSales Float) : IsSound 3 (momentumEntries t) := by
  unfold momentumEntries
  apply IsSound.given
  intro score hscore
  have hstrength : IsSound 1
      (given t.relativeStrength fun strength => [.dataPoint "rsi" (.number strength)]) :=
    IsSound.given fun strength _ => isSound_nil.dataPoint
  have hweight : Below 0 (momentumWeight : Float) := by decide
  apply hstrength.append (n := 2)
  apply IsSound.reason
  exact IsSound.component isSound_nil hweight (isDefined_momentumScore? t score hscore)

end Momentum

section Listings
variable {e : DemandEvidence Float}

lemma isDefined_priceTrendRatio? (e : DemandEvidence Float) : IsDefined? (priceTrendRatio? e) := by
  intro x hx
  unfold priceTrendRatio? at hx
  obtain ⟨current, -, hx⟩ := Option.bind_eq_some_iff.mp hx
  obtain ⟨historical, -, hx⟩ := Option.bind_eq_some_iff.mp hx
  exact Cents.isDefined_ratio? current historical x hx

lemma isDefined_retailPremium? (e : DemandEvidence Float) : IsDefined? (retailPremium? e) := by
  intro x hx
  unfold retailPremium? at hx
  obtain ⟨market, -, hx⟩ := Option.bind_eq_some_iff.mp hx
  obtain ⟨retail, -, hx⟩ := Option.bind_eq_some_iff.mp hx
  exact Cents.isDefined_ratio? market retail x hx

lemma isDefined_listingScore? (e : DemandEvidence Float) : IsDefined? (listingScore? e) := by
  intro score hscore
  apply isNaN_meanPresent? _ (by simp) hscore
  rw [List.forall_mem_cons, List.forall_mem_cons, List.forall_mem_singleton]
  refine ⟨below?_map ?_, below?_map ?_, below?_map ?_⟩
  · intro ratio hratio
    have hx := isDefined_priceTrendRatio? e ratio hratio
    exact (Curve.IsGentle.below_eval (by decide) hx).mono (by omega)
  · intro ratio hratio
    have hx := isDefined_retailPremium? e ratio hratio
    exact (Curve.IsGentle.below_eval (by decide) hx).mono (by omega)
  · intro lots _
    have hx := (below_count lots).isNaN
    exact (Curve.IsGentle.below_eval (by decide) hx).mono (by omega)

lemma listingEntries_isSound (e : DemandEvidence Float) : IsSound 4 (listingEntries e) := by
  unfold listingEntries
  apply IsSound.given
  intro score hscore
  have hratio : IsSound 1 (given (priceTrendRatio? e)
      fun ratio => [.dataPoint "price_trend_ratio" (.number ratio)]) :=
    IsSound.given fun ratio _ => isSound_nil.dataPoint
  have hpremium : IsSound 1 (given (retailPremium? e)
      fun ratio => [.dataPoint "retail_premium" (.number ratio)]) :=
    IsSound.given fun ratio _ => isSound_nil.dataPoint
  have hweight : Below 0 (listingWeight : Float) := by decide
  apply (hratio.append hpremium).append (n := 2)
  apply IsSound.reason
  exact IsSound.component isSound_nil hweight (isDefined_listingScore? e score hscore)

end Listings

section Community
variable {c : Community Float}

lemma isNaN_communityScore (h : IsDefined? c.averageScore) :
    Arithmetic.isNaN (communityScore c) = false := by
  have hposts : Below 33 (byPosts.eval (count c.postCount : Float)) :=
    Curve.IsGentle.below_eval (by decide) (below_count c.postCount).isNaN
  unfold communityScore
  simp only
  cases hmean : Arithmetic.meanPresent? [some (byPosts.eval (count c.postCount : Float)),
      c.averageScore.map byPostScore.eval] with
  | none => exact hposts.isNaN
  | some mean =>
    apply isNaN_meanPresent? _ (by simp) hmean
    rw [List.forall_mem_cons, List.forall_mem_singleton]
    constructor
    · intro y hy
      cases hy
      exact hposts.mono (by omega)
    · apply below?_map
      intro average haverage
      have hx := h average haverage
      exact (Curve.IsGentle.below_eval (by decide) hx).mono (by omega)

lemma communityEntries_isSound (h : IsDefined? c.averageScore) :
    IsSound 1 (communityEntries c) := by
  have hweight : Below 0 (communityWeight : Float) := by decide
  unfold communityEntries
  exact IsSound.component isSound_nil hweight (isNaN_communityScore h)

end Community

lemma retailEntries_isSound (units : UInt64) :
    IsSound 1 (retailEntries units : Scorecard Float) := by
  have hunits : Below 70 (Arithmetic.ofNat units.toNat : Float) := below_ofNat units.toNat_lt
  have hscore : Below 33 (byUnitsSold.eval (Arithmetic.ofNat units.toNat : Float)) :=
    Curve.IsGentle.below_eval (by decide) hunits.isNaN
  have hweight : Below 0 (retailWeight : Float) := by decide
  unfold retailEntries
  exact IsSound.component isSound_nil hweight hscore.isNaN

/-- The measures that demand reads are defined. -/
structure HasDefinedMeasures (e : DemandEvidence Float) : Prop where
  salesVelocity : ∀ t, e.transactions = some t → IsDefined? t.salesVelocity
  averageScore : ∀ c, e.community = some c → IsDefined? c.averageScore

lemma salesEntries_isSound {e : DemandEvidence Float} (h : HasDefinedMeasures e) :
    IsSound 8 (salesEntries e) := by
  unfold salesEntries
  cases htransactions : e.transactions with
  | some t =>
    exact (velocityEntries_isSound (h.salesVelocity t htransactions)).append
      (momentumEntries_isSound t)
  | none =>
    apply IsSound.mono (m := 3) _ (by omega)
    exact IsSound.given fun timesSold _ => guideVelocityEntries_isSound timesSold

lemma card_isSound {e : DemandEvidence Float} (h : HasDefinedMeasures e) :
    IsSound 23 (card e) := by
  have hslots : IsSound 8 (slotEntries e) := by
    repeat apply IsSound.slot
    exact isSound_nil
  have hcommunity : IsSound 1 (given e.community communityEntries) :=
    IsSound.given fun c hc => communityEntries_isSound (h.averageScore c hc)
  have hretail : IsSound 1 (given e.unitsSold retailEntries) :=
    IsSound.given fun units _ => retailEntries_isSound units
  unfold card
  apply ((((hslots.append (salesEntries_isSound h)).append (listingEntries_isSound e)).append
    hcommunity).append hretail).append (n := 1)
  exact isSound_nil.dataPoint

/-- The demand score is in range. -/
lemma score?_isInRange {e : DemandEvidence Float} (h : HasDefinedMeasures e) {s : Score Float}
    (hs : score? e = some s) : s.IsInRange :=
  (card_isSound h).toScore?_isInRange (by omega) hs

end Demand

namespace Availability

lemma isNaN_urgencyScore (days : Int64) : Arithmetic.isNaN (urgencyScore days : Float) = false := by
  unfold urgencyScore
  split
  · rfl
  · have hle := days.le_toInt
    have hlt := days.toInt_lt
    have hdays : Below 70 (Arithmetic.ofInt days.toInt : Float) := below_ofInt _ (by omega)
    exact (Curve.IsGentle.below_eval (by decide) hdays.isNaN).isNaN

lemma isDefined_score? (t : Timing) : IsDefined? t.score? := by
  intro score hscore
  cases t with
  | retiredIn year => cases hscore; rfl
  | scheduledWithDate year days => cases hscore; exact isNaN_urgencyScore days
  | scheduled year => cases hscore; rfl
  | dated days => cases hscore; exact isNaN_urgencyScore days
  | flagged => cases hscore; rfl
  | notRetiring => cases hscore; rfl
  | unknown => cases hscore

lemma timingEntries_isSound (t : Timing) (reasoning : String) :
    IsSound 4 (t.entries reasoning : Scorecard Float) := by
  have hdays : IsSound 1 (given t.days?
      fun days => [.dataPoint "days_until_retirement" (.int days.toInt)]) :=
    IsSound.given fun days _ => isSound_nil.dataPoint
  have hweight : Below 0 (retirementWeight : Float) := by decide
  unfold Timing.entries
  have hreason : IsSound 1 (if t.isNotable then [.reason reasoning] else []) :=
    isSound_nil.reason.ite isSound_nil
  apply ((hdays.append hreason).append (n := 1) (IsSound.given _)).append (n := 1)
  · exact isSound_nil.dataPoint
  · intro score hscore
    exact IsSound.component isSound_nil hweight (isDefined_score? t score hscore)

lemma stockEntries_isSound (stock : UInt64) : IsSound 3 (stockEntries stock : Scorecard Float) := by
  have hstock : Below 70 (Arithmetic.ofNat stock.toNat : Float) := below_ofNat stock.toNat_lt
  have hscore : Below 33 (byStock.eval (Arithmetic.ofNat stock.toNat : Float)) :=
    Curve.IsGentle.below_eval (by decide) hstock.isNaN
  have hweight : Below 0 (stockWeight : Float) := by decide
  unfold stockEntries
  apply (isSound_nil.reason.ite isSound_nil).append (m := 1) (n := 2)
  apply IsSound.dataPoint
  exact IsSound.component isSound_nil hweight hscore.isNaN

lemma statusEntries_isSound (status : ListingStatus) :
    IsSound 2 (statusEntries status : Scorecard Float) := by
  have hscore : Arithmetic.isNaN (statusScore status : Float) = false := by
    cases status <;> rfl
  have hweight : Below 0 (listingStatusWeight : Float) := by decide
  unfold statusEntries
  apply (isSound_nil.ite isSound_nil.reason).append (m := 1) (n := 1)
  exact IsSound.component isSound_nil hweight hscore

lemma card_isSound (e : AvailabilityEvidence) (currentYear : Int32) (timingReason : String) :
    IsSound 12 (card e currentYear timingReason : Scorecard Float) := by
  have hslots : IsSound 3 (slotEntries e : Scorecard Float) := by
    repeat apply IsSound.slot
    exact isSound_nil
  have hstock : IsSound 3 (given e.stock stockEntries) :=
    IsSound.given fun stock _ => stockEntries_isSound stock
  have hstatus : IsSound 2 (given e.listingStatus statusEntries) :=
    IsSound.given fun status _ => statusEntries_isSound status
  unfold card
  exact ((hslots.append (timingEntries_isSound _ timingReason)).append hstock).append hstatus

/-- The availability score is in range. -/
lemma score?_isInRange {e : AvailabilityEvidence} {currentYear : Int32} {s : Score Float}
    (hs : score? e currentYear = .value (some s)) : s.IsInRange := by
  obtain ⟨reason, -, hcard⟩ := score?_eq_value_iff.mp hs
  obtain ⟨bare, hbare, rfl⟩ := Option.map_eq_some_iff.mp hcard
  have hrange : bare.IsInRange := (card_isSound e currentYear reason).toScore?_isInRange (by omega) hbare
  exact hrange

end Availability

namespace Quality

lemma below_rating {rating : Float} (h : Evidence.isOnScale rating = true) : Below 3 rating := by
  unfold Evidence.isOnScale at h
  simp only [Bool.and_eq_true, decide_eq_true_eq] at h
  exact Below.of_between (by decide) (by decide) h.1.2 h.2

lemma below_reviewFactor (count : Option UInt32) : Below 1 (reviewFactor count : Float) := by
  unfold reviewFactor
  repeat' split
  all_goals decide

lemma isNaN_ratingScore (e : QualityEvidence Float) (pattern : Option ReviewPattern) {rating : Float}
    (h : Evidence.isOnScale rating = true) : Arithmetic.isNaN (ratingScore e pattern rating) = false := by
  have hfive : AtLeast 2 (5.0 : Float) := by decide
  have hhundred : Below 7 (100.0 : Float) := by decide
  have hpercent : Below 10 (ratingPercent rating) :=
    ((below_rating h).div hfive (by omega) (by omega)).mul hhundred (by omega) (by omega)
  have hscore : Below 12 (ratingPercent rating * reviewFactor e.reviewCount) :=
    hpercent.mul (below_reviewFactor e.reviewCount) (by omega) (by omega)
  have hbonus : Below 12 (believableBonus : Float) := by decide
  unfold ratingScore
  simp only
  split
  · exact (hscore.add hbonus (by omega) (by omega)).isNaN
  · exact hscore.isNaN

lemma ratingEntries_isSound (e : QualityEvidence Float) (pattern : Option ReviewPattern) {rating : Float}
    (h : Evidence.isOnScale rating = true) : IsSound 3 (ratingEntries e pattern rating) := by
  have hweight : Below 0 (ratingWeight : Float) := by decide
  unfold ratingEntries
  apply IsSound.reason
  apply IsSound.dataPoint
  exact IsSound.component isSound_nil hweight (isNaN_ratingScore e pattern h)

lemma brandEntries_isSound (expected brand : String) :
    IsSound 2 (brandEntries expected brand : Scorecard Float) := by
  have hscore : ∀ found : BrandMatch, Arithmetic.isNaN (found.score : Float) = false := by
    intro found
    cases found <;> rfl
  have hweight : Below 0 (brandWeight : Float) := by decide
  unfold brandEntries
  apply IsSound.reason
  exact IsSound.component isSound_nil hweight (hscore (matchBrand brand expected))

lemma isNaN_metadataScore (e : QualityEvidence Float) :
    Arithmetic.isNaN (metadataScore e) = false := by
  unfold metadataScore
  repeat' split
  all_goals decide

lemma metadataEntries_isSound (e : QualityEvidence Float) : IsSound 2 (metadataEntries e) := by
  have hweight : Below 0 (metadataWeight : Float) := by decide
  unfold metadataEntries
  split
  · apply IsSound.reason
    exact IsSound.component isSound_nil hweight (isNaN_metadataScore e)
  · exact isSound_nil

lemma card_isSound {e : QualityEvidence Float} (expected : String)
    (h : ∀ rating, e.rating = some rating → Evidence.isOnScale rating = true)
    (pattern : Option ReviewPattern) : IsSound 12 (card expected e pattern) := by
  have hslots : IsSound 5 (slotEntries e) := by
    repeat apply IsSound.slot
    exact isSound_nil
  have hrating : IsSound 3 (given e.rating (ratingEntries e pattern)) :=
    IsSound.given fun rating hmem => ratingEntries_isSound e pattern (h rating hmem)
  have hbrand : IsSound 2 (given e.brand (brandEntries expected)) :=
    IsSound.given fun brand _ => brandEntries_isSound expected brand
  unfold card
  exact ((hslots.append hrating).append hbrand).append (metadataEntries_isSound e)

/-- The quality score is in range. -/
lemma score?_isInRange {e : QualityEvidence Float} {expected : String}
    (h : ∀ rating, e.rating = some rating → Evidence.isOnScale rating = true) {s : Score Float}
    (hs : score? expected e = .value (some s)) : s.IsInRange := by
  obtain ⟨pattern, -, hcard⟩ := score?_eq_value_iff.mp hs
  exact (card_isSound expected h pattern).toScore?_isInRange (by omega) hcard

end Quality
end Appraisal
