import Appraisal.Proofs.Analyses
import Appraisal.Proofs.Contributions
import Appraisal.Proofs.Merging
import Mathlib.Data.List.Sublists

/-!
# Recommendations for valid evidence

Valid evidence is always scored. The strategies weigh any dimensions that have a score, and the
weighted mean of scores in their ranges is in range.
-/

namespace Appraisal
open Double

namespace Weights

/-- The weights of some dimensions, scaled to a sum of one. -/
def shares (weights : Weights Float) (dims : List Dimension) : List Float :=
  let present := dims.filterMap weights.positive?
  present.map (· / Arithmetic.sum present)

/-- The weights can be scaled to a sum of one, whichever dimensions take part. -/
def IsBalanced (weights : Weights Float) : Prop :=
  ∀ dims ∈ (Named.all : List Dimension).sublists, ∀ share ∈ weights.shares dims, Below 1 share

instance : DecidablePred IsBalanced := fun weights => inferInstanceAs (Decidable
  (∀ dims ∈ (Named.all : List Dimension).sublists, ∀ share ∈ weights.shares dims, Below 1 share))

variable {weights : Weights Float} {scores : Scores Float}

lemma present_dims_mem (scores : Scores Float) :
    scores.present.map (·.1) ∈ (Named.all : List Dimension).sublists := by
  rw [PerDimension.present_dims, List.mem_sublists]
  exact List.filter_sublist

lemma present_length_le (scores : Scores Float) : scores.present.length ≤ 3 :=
  List.length_filterMap_le _ _

lemma contributions_length_le (weights : Weights Float) (scores : Scores Float) :
    (weights.contributions scores).length ≤ 3 := by
  have hle : (weights.weighted scores).length ≤ 3 :=
    Nat.le_trans (List.length_filterMap_le _ _) (present_length_le scores)
  unfold contributions
  simp only
  split
  · exact Nat.zero_le 3
  · rw [List.length_map]
    exact hle

/-- A contribution has one of the shares for its weight, and the score of its dimension. -/
lemma contribution_facts {P : Float → Prop}
    (h : ∀ dims ∈ (Named.all : List Dimension).sublists, ∀ share ∈ weights.shares dims, P share)
    {c : Contribution Float} (hc : c ∈ weights.contributions scores) :
    P c.weight ∧ (c.dimension, c.score) ∈ scores.present := by
  unfold contributions at hc
  simp only at hc
  split at hc
  · cases hc
  · obtain ⟨part, hpart, rfl⟩ := List.mem_map.mp hc
    constructor
    · apply h _ (present_dims_mem scores)
      unfold shares
      simp only
      rw [← weighted_weights]
      exact List.mem_map.mpr ⟨part.weight, List.mem_map_of_mem hpart, rfl⟩
    · obtain ⟨entry, hentry, hmap⟩ := List.mem_filterMap.mp hpart
      obtain ⟨weight, -, rfl⟩ := Option.map_eq_some_iff.mp hmap
      exact hentry

variable (h : weights.IsBalanced) (hscores : ∀ entry ∈ scores.present, entry.2.IsInRange)
include h hscores

/-- What the contributions add up to is defined when each of them is bounded. -/
lemma isNaN_sum_contributions (f : Contribution Float → Float)
    (hf : ∀ c : Contribution Float, Below 1 c.weight → c.score.IsInRange → Below 9 (f c)) :
    Arithmetic.isNaN (Arithmetic.sum ((weights.contributions scores).map f)) = false := by
  have hlength := contributions_length_le weights scores
  have hterms : ∀ y ∈ (weights.contributions scores).map f, Below 9 y := by
    intro y hy
    obtain ⟨c, hc, rfl⟩ := List.mem_map.mp hy
    obtain ⟨hweight, hmem⟩ := contribution_facts h hc
    exact hf c hweight (hscores (c.dimension, c.score) hmem)
  rw [← List.length_map f] at hlength
  exact (below_sum hterms (by omega) (by omega)).isNaN

/-- The overall score of scores in range is in range. -/
lemma read_isInRange (actions : ActionLevels Float) (urgencies : UrgencyLevels Float) :
    (Verdict.read weights actions urgencies scores).overall.IsInRange := by
  have hpoints : ∀ c : Contribution Float, Below 1 c.weight → c.score.IsInRange →
      Below 9 c.points := by
    intro c hweight hscore
    exact hweight.mul hscore.below_value (by omega) (by omega)
  have hshares : ∀ c : Contribution Float, Below 1 c.weight → c.score.IsInRange →
      Below 9 (c.weight * c.score.confidence) := by
    intro c hweight hscore
    exact (hweight.mul hscore.below_confidence (by omega) (by omega)).mono (by omega)
  have hvalue := clamp_mem (isNaN_sum_contributions h hscores _ hpoints) Score.percent_range
  have hconfidence := clamp_mem (isNaN_sum_contributions h hscores _ hshares) Score.share_range
  unfold Verdict.read
  simp only
  unfold overall?
  simp only
  split
  · exact Score.of_isInRange rfl rfl _
  · rename_i hoverall
    split at hoverall
    · cases hoverall
    · cases hoverall
      exact Score.of_isInRange (isNaN_of_le hvalue.2).1 (isNaN_of_le hconfidence.2).1
        (Verdict.overallReasoning (weights.contributions scores))

end Weights

/-- The weights can be scaled, and the overall score is the one that they give. -/
structure Strategy.IsBalanced (s : Strategy Float) : Prop where
  weights : s.weights.IsBalanced
  overall : ∀ scores, (s.interpret scores).overall = (s.baseVerdict scores).overall

namespace Registry

lemma builtIn_isBalanced {strategy : Strategy Float} (h : strategy ∈ builtIn.strategies) :
    strategy.IsBalanced := by
  rcases mem_builtIn h with rfl | rfl | rfl
  · exact ⟨by decide, fun _ => rfl⟩
  · exact ⟨by decide, fun _ => rfl⟩
  · exact ⟨by decide, fun _ => rfl⟩

end Registry

namespace Evidence
variable {e : Evidence Float}

lemma isOnScale_of_validate (h : e.validate = .ok ()) {rating : Float}
    (hrating : e.quality.rating = some rating) : isOnScale rating = true := by
  unfold validate at h
  cases hscale : isOnScale rating with
  | true => rfl
  | false =>
    rw [hrating] at h
    simp [Option.filter, hscale] at h
    cases h

lemma isFinite_of_validate (h : e.validate = .ok ()) (name : String) {x : Float}
    (hmem : (name, some x) ∈ e.measures) : Arithmetic.isFinite x = true := by
  unfold validate at h
  cases hrating : e.quality.rating.filter fun rating => !isOnScale rating with
  | some rating =>
    rw [hrating] at h
    cases h
  | none =>
    rw [hrating] at h
    cases hfirst : firstInfinite? e.measures with
    | some field =>
      rw [hfirst] at h
      cases h
    | none =>
      have hnone := List.find?_eq_none.mp (Option.map_eq_none_iff.mp hfirst) _ hmem
      simpa using hnone

/-- Valid evidence has measures that demand can read. -/
lemma hasDefinedMeasures_of_validate (h : e.validate = .ok ()) :
    Demand.HasDefinedMeasures e.demand := by
  constructor
  · intro t ht x hx
    apply isNaN_of_isFinite
    apply isFinite_of_validate h "sales_velocity"
    unfold measures
    rw [ht, ← hx]
    simp
  · intro c hc x hx
    apply isNaN_of_isFinite
    apply isFinite_of_validate h "average_score"
    unfold measures
    rw [hc, ← hx]
    simp

end Evidence

namespace Recommendation

section Standard
variable {α : Type} [Arithmetic α] [NumberText α] {expectedBrand : String} {e : Evidence α}

/-- What the standard analyses say of evidence. -/
def standardScores (expectedBrand : String) (e : Evidence α) : Checked (Scores α) := do
  let availability ← Availability.score? e.availability e.asOf.year
  let quality ← Quality.score? expectedBrand e.quality
  return { demand := Demand.score? e.demand, availability, quality }

lemma standardScores_eq_value_iff {scores : Scores α} :
    standardScores expectedBrand e = .value scores ↔
      Demand.score? e.demand = scores.demand ∧
      Availability.score? e.availability e.asOf.year = .value scores.availability ∧
      Quality.score? expectedBrand e.quality = .value scores.quality := by
  unfold standardScores
  simp only [Checked.bind_eq_value_iff, Checked.pure_eq, Checked.value.injEq]
  constructor
  · rintro ⟨availability, havailability, quality, hquality, rfl⟩
    exact ⟨rfl, havailability, hquality⟩
  · rintro ⟨hdemand, havailability, hquality⟩
    exact ⟨_, havailability, _, hquality, by rw [hdemand]⟩

lemma standardScores_eq_aborted_iff :
    standardScores expectedBrand e = .aborted ↔
      (Availability.score? e.availability e.asOf.year : Checked (Option (Score α))) = .aborted ∨
      Quality.score? expectedBrand e.quality = .aborted := by
  unfold standardScores
  cases (Availability.score? e.availability e.asOf.year : Checked (Option (Score α))) <;>
    simp [Checked.bind_eq_aborted_iff]

lemma exists_standardScores (h : e.Fits) (expectedBrand : String) :
    ∃ scores, standardScores expectedBrand e = .value scores := by
  refine Checked.exists_value fun haborted => ?_
  rcases standardScores_eq_aborted_iff.mp haborted with havailability | hquality
  · obtain ⟨hyear, hday⟩ := Availability.score?_eq_aborted_iff.mp havailability
    exact h.days hyear hday
  · obtain ⟨hrating, stars, hstars, hmany⟩ := Quality.score?_eq_aborted_iff.mp hquality
    exact absurd hmany (Nat.not_le.mpr (h.reviews stars hstars hrating))

end Standard

variable {e : Evidence Float} {expectedBrand : String} {scores : Scores Float}

lemma standardScores_isInRange (h : e.validate = .ok ()) (hscores : standardScores expectedBrand e = .value scores)
    {d : Dimension} {s : Score Float} (hs : scores.get d = some s) : s.IsInRange := by
  obtain ⟨hdemand, havailability, hquality⟩ := standardScores_eq_value_iff.mp hscores
  cases d with
  | demand => exact Demand.score?_isInRange (Evidence.hasDefinedMeasures_of_validate h) (hdemand.trans hs)
  | availability => exact Availability.score?_isInRange (havailability.trans (congrArg Checked.value hs))
  | quality =>
    refine Quality.score?_isInRange ?_ (hquality.trans (congrArg Checked.value hs))
    intro rating hrating
    exact Evidence.isOnScale_of_validate h hrating

lemma present_isInRange (h : e.validate = .ok ()) (hscores : standardScores expectedBrand e = .value scores)
    {entry : Dimension × Score Float} (hentry : entry ∈ scores.present) : entry.2.IsInRange := by
  obtain ⟨d, -, hd⟩ := List.mem_filterMap.mp hentry
  obtain ⟨s, hs, rfl⟩ := Option.map_eq_some_iff.mp hd
  exact standardScores_isInRange h hscores hs

/-- The standard analyzers are heard on valid evidence, unless one of them is aborted. -/
lemma standard_isHeard (h : e.validate = .ok ()) (hscores : standardScores expectedBrand e = .value scores)
    {a : Analyzer Float} (ha : a ∈ Analyzer.standard expectedBrand) : a.isHeard e := by
  obtain ⟨hdemand, havailability, hquality⟩ := standardScores_eq_value_iff.mp hscores
  have hanalyze : a.analyze e = .value (scores.get a.dimension) := by
    simp only [Analyzer.standard, List.mem_cons, List.not_mem_nil, or_false] at ha
    obtain rfl | rfl | rfl := ha
    · exact congrArg Checked.value hdemand
    · exact havailability
    · exact hquality
  refine Checked.any_eq_true_iff.mpr ⟨_, hanalyze, ?_⟩
  rw [Option.all_eq_true]
  exact fun s hs => (standardScores_isInRange h hscores hs).isFinite

/-- No score of valid evidence is refused. -/
lemma scoreAll_of_validate (h : e.validate = .ok ()) (expectedBrand : String) :
    scoreAll (Analyzer.standard expectedBrand) e = .ok (standardScores expectedBrand e) := by
  cases hscores : standardScores expectedBrand e with
  | aborted =>
    apply scoreAll_of_aborted
    rcases standardScores_eq_aborted_iff.mp hscores with havailability | hquality
    · exact ⟨.availability, by simp [Analyzer.standard], havailability⟩
    · exact ⟨.quality expectedBrand, by simp [Analyzer.standard], hquality⟩
  | value scores =>
    obtain ⟨hdemand, havailability, hquality⟩ := standardScores_eq_value_iff.mp hscores
    have hheard : heard (Analyzer.standard expectedBrand) e =
        ⟨scores.demand, scores.availability, scores.quality⟩ := by
      rw [← hdemand, ← Analyzer.score?_eq (a := .availability) havailability,
        ← Analyzer.score?_eq (a := .quality expectedBrand) hquality]
      rfl
    rw [scoreAll_of_isHeard fun a ha => standard_isHeard h hscores ha, hheard]

lemma combine_isInRange {strategy : Strategy Float} {scores : Scores Float}
    (valuation : Valuation Float) (h : strategy.IsBalanced)
    (hscores : ∀ entry ∈ scores.present, entry.2.IsInRange) :
    (combine e strategy scores valuation).overall.IsInRange := by
  have hread := Weights.read_isInRange h.weights hscores strategy.actions strategy.urgencies
  have hcarries := combine_carries e strategy scores valuation
  unfold Score.IsInRange
  rw [hcarries.value, hcarries.confidence, h.overall scores]
  exact hread

end Recommendation

lemma recommend_of_validate {e : Evidence Float} (h : e.validate = .ok ())
    (expectedBrand : String) (policy : PricePolicy Float) (strategy : Strategy Float) :
    recommend (Analyzer.standard expectedBrand) policy strategy e =
      .ok (Recommendation.standardScores expectedBrand e >>= fun scores =>
        (appraise policy e scores strategy.margin).map (.combine e strategy scores)) := by
  unfold recommend
  rw [h, Recommendation.scoreAll_of_validate h]
  refine congrArg Except.ok (congrArg _ (funext fun scores => ?_))
  exact Checked.bind_pure_eq_map _ _

lemma recommend_of_not_valid {e : Evidence Float} {failure : Failure}
    (h : e.validate = .error failure) (analyzers : List (Analyzer Float))
    (policy : PricePolicy Float) (strategy : Strategy Float) :
    recommend analyzers policy strategy e = .error failure := by
  unfold recommend
  rw [h]
  rfl

/-- A recommendation for valid evidence combines the scores of the standard analyses with an appraisal. -/
lemma recommend_eq_value_iff {e : Evidence Float} (h : e.validate = .ok ()) {expectedBrand : String}
    {policy : PricePolicy Float} {strategy : Strategy Float} {r : Recommendation Float} :
    recommend (Analyzer.standard expectedBrand) policy strategy e = .ok (.value r) ↔
      ∃ scores, Recommendation.standardScores expectedBrand e = .value scores ∧
        ∃ valuation, appraise policy e scores strategy.margin = .value valuation ∧
          .combine e strategy scores valuation = r := by
  rw [recommend_of_validate h, Except.ok.injEq, Checked.bind_eq_value_iff]
  simp only [Checked.map_eq_value_iff]

lemma exists_recommend {e : Evidence Float} (h : e.validate = .ok ()) (hfits : e.Fits) (expectedBrand : String)
    {policy : PricePolicy Float} (horder : policy.leastMargin ≤ policy.greatestMargin)
    (strategy : Strategy Float) :
    ∃ r, recommend (Analyzer.standard expectedBrand) policy strategy e = .ok (.value r) := by
  obtain ⟨scores, hscores⟩ := Recommendation.exists_standardScores hfits expectedBrand
  have hheard : ∀ a ∈ Analyzer.standard expectedBrand, a.isHeard e := fun a ha =>
    Recommendation.standard_isHeard h hscores ha
  exact exists_recommend_of_isHeard strategy h hheard hfits.years horder

lemma recommend_ne_aborted {e : Evidence Float} (hfits : e.Fits) (expectedBrand : String)
    {policy : PricePolicy Float} (horder : policy.leastMargin ≤ policy.greatestMargin)
    (strategy : Strategy Float) :
    recommend (Analyzer.standard expectedBrand) policy strategy e ≠ .ok .aborted := by
  intro haborted
  cases hvalid : e.validate with
  | error failure =>
    rw [recommend_of_not_valid hvalid] at haborted
    cases haborted
  | ok u =>
    obtain ⟨r, hr⟩ := exists_recommend hvalid hfits expectedBrand horder strategy
    rw [hr] at haborted
    cases haborted

/-- The standard analyses and strategies score all evidence that is valid, and refuse evidence only because it is not.
There is a recommendation whenever all integers fit and the limits of the margin are in order, and every score in it
is in range. -/
theorem recommend_scores_valid_evidence {strategy : Strategy Float}
    (hstrategy : strategy ∈ Registry.builtIn.strategies) (expectedBrand : String)
    (policy : PricePolicy Float) (e : Evidence Float) :
    let answer := recommend (Analyzer.standard expectedBrand) policy strategy e
    (∀ failure, answer = .error failure ↔ e.validate = .error failure) ∧
    (e.validate = .ok () → e.Fits → policy.leastMargin ≤ policy.greatestMargin →
      ∃ r, answer = .ok (.value r)) ∧
    ∀ r, answer = .ok (.value r) →
      r.overall.IsInRange ∧ ∀ d s, r.dimensions.get d = some s → s.IsInRange := by
  intro answer
  refine ⟨fun failure => ?_, fun hvalid hfits horder => exists_recommend hvalid hfits expectedBrand horder strategy,
    fun r hanswer => ?_⟩
  · unfold answer
    cases hvalid : e.validate with
    | ok u =>
      rw [recommend_of_validate hvalid]
      simp
    | error f =>
      rw [recommend_of_not_valid hvalid, Except.error.injEq, Except.error.injEq]
  · unfold answer at hanswer
    cases hvalid : e.validate with
    | error f =>
      rw [recommend_of_not_valid hvalid] at hanswer
      cases hanswer
    | ok u =>
      obtain ⟨scores, hscores, valuation, -, rfl⟩ := (recommend_eq_value_iff hvalid).mp hanswer
      constructor
      · apply Recommendation.combine_isInRange _ (Registry.builtIn_isBalanced hstrategy)
        intro entry hentry
        exact Recommendation.present_isInRange hvalid hscores hentry
      · intro d s hs
        exact Recommendation.standardScores_isInRange hvalid hscores hs

/-- Evidence with very large numbers of either sign. -/
def extremeEvidence : Evidence Float where
  productId := "p"
  name := "Extreme"
  catalogNumber := some "10294"
  asOf := ⟨2024, 1, 1, by decide⟩
  pricing := { priceVolatility := some (-1.0e200) }
  demand := {
    transactions := some {
      totalTransactions := 4294967295
      salesVelocity := some 1.0e200
      recent30 := some 0
      relativeStrength := some (-1.0e200) }
    askingPrice := some ⟨9223372036854775807⟩
    paidPrice := some ⟨1⟩
    currentLots := some 0
    community := some {
      postCount := 0
      totalScore := -1
      averageScore := some (-1.0e200)
      totalComments := 0 }
    unitsSold := some 18446744073709551615 }
  availability := { daysUntilRetirement := some 9223372036854775807 }
  quality := { rating := some 5.0, reviewCount := some 0, brand := some "" }

theorem extremeEvidence_scored :
    Strategy.quickFlip ∈ (Registry.builtIn : Registry Float).strategies ∧
    extremeEvidence.validate = .ok () ∧ extremeEvidence.Fits ∧
    ∃ r, recommend (Analyzer.standard "LEGO") .standard Strategy.quickFlip extremeEvidence = .ok (.value r) ∧
      r.overall.IsInRange ∧ ∀ d s, r.dimensions.get d = some s → s.IsInRange := by
  have hstrategy : Strategy.quickFlip ∈ (Registry.builtIn : Registry Float).strategies :=
    Registry.quickFlip_mem_builtIn
  have hvalid : extremeEvidence.validate = .ok () := by decide +kernel
  have hfits : extremeEvidence.Fits := ⟨by decide, nofun, nofun⟩
  obtain ⟨-, hanswered, hinRange⟩ :=
    recommend_scores_valid_evidence hstrategy "LEGO" .standard extremeEvidence
  obtain ⟨r, hr⟩ := hanswered hvalid hfits PricePolicy.standard_ordered_float
  exact ⟨hstrategy, hvalid, hfits, r, hr, hinRange r hr⟩

end Appraisal
