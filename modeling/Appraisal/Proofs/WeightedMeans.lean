import Appraisal.Proofs.Contributions
import Appraisal.Proofs.ExactNumbers
import Mathlib.Algebra.BigOperators.Group.List.Lemmas
import Mathlib.Algebra.BigOperators.Ring.List
import Mathlib.Algebra.Order.BigOperators.Group.List
import Mathlib.Tactic.Ring

/-!
# The overall score as a weighted mean

In exact numbers the weights of the contributions add up to one, so the overall score is a weighted mean of the
scores that are there. A dimension without a score leaves the denominator.
-/

namespace Appraisal

/-- The weight that a list gives to a dimension, between 0 and 1; of two weights for it the later one counts, and
a dimension that is not listed weighs nothing. -/
def listedWeight (weights : List (Dimension × ℚ)) (d : Dimension) : ℚ :=
  (weights.reverse.find? (·.1 = d)).elim 0 fun entry => max 0 (min 1 entry.2)

namespace Contribution

/-- A weighted mean lies between two of the values of which it is taken. -/
lemma mean_between {parts : List (Contribution ℚ)} (hne : parts ≠ []) (hpos : ∀ c ∈ parts, 0 < c.weight)
    (hsum : (parts.map (·.weight)).sum = 1) (f : Contribution ℚ → ℚ) :
    let mean := (parts.map fun c => c.weight * f c).sum
    (∃ c ∈ parts, f c ≤ mean) ∧ ∃ c ∈ parts, mean ≤ f c := by
  intro mean
  have hconst : (parts.map fun c => c.weight * mean).sum = mean := by
    rw [List.sum_map_mul_right, hsum, one_mul]
  obtain ⟨low, hlow, hle⟩ := List.exists_le_of_sum_le hne (fun c => c.weight * f c) _ hconst.ge
  obtain ⟨high, hhigh, hge⟩ := List.exists_le_of_sum_le hne _ (fun c => c.weight * f c) hconst.le
  exact ⟨⟨low, hlow, le_of_mul_le_mul_left hle (hpos low hlow)⟩,
    high, hhigh, le_of_mul_le_mul_left hge (hpos high hhigh)⟩

end Contribution

namespace Weights
variable [Exponential]

lemma positive?_ofList (weights : List (Dimension × ℚ)) (d : Dimension) :
    (ofList weights).positive? d =
      if 0 < listedWeight weights d then some (listedWeight weights d) else none := by
  have hclamp : ∀ x : ℚ, Arithmetic.clamp 0.0 1.0 x = max 0 (min 1 x) := by
    intro x
    rw [Exact.clamp_eq (by norm_num)]
    norm_num
  have hzero : (0.0 : ℚ) = 0 := by norm_num
  unfold positive? listedWeight
  rw [get_ofList]
  cases weights.reverse.find? (·.1 = d) with
  | none => simp
  | some entry =>
    rw [Option.map_some, hclamp, hzero, Option.filter_some, Option.elim_some]
    simp only [decide_eq_true_eq]

lemma isSome_positive?_ofList (weights : List (Dimension × ℚ)) (d : Dimension) :
    ((ofList weights).positive? d).isSome ↔ 0 < listedWeight weights d := by
  rw [positive?_ofList]
  split <;> simp [*]

lemma eq_listedWeight {weights : List (Dimension × ℚ)} {d : Dimension} {weight : ℚ}
    (h : (ofList weights).positive? d = some weight) : weight = listedWeight weights d := by
  rw [positive?_ofList] at h
  split at h
  · exact (Option.some.inj h).symm
  · cases h

variable {weights : Weights ℚ} {scores : Scores ℚ}

lemma pos_of_positive? {d : Dimension} {weight : ℚ} (h : weights.positive? d = some weight) : 0 < weight := by
  obtain ⟨-, hpositive⟩ := Option.filter_eq_some_iff.mp h
  have hzero : (0.0 : ℚ) = 0 := by norm_num
  rw [hzero] at hpositive
  exact of_decide_eq_true hpositive

lemma weight_pos {c : Contribution ℚ} (hc : c ∈ weights.weighted scores) : 0 < c.weight :=
  pos_of_positive? (mem_weighted.mp hc).2

lemma total_pos (hne : weights.weighted scores ≠ []) : 0 < ((weights.weighted scores).map (·.weight)).sum := by
  refine List.sum_pos _ ?_ (by simpa using hne)
  simpa using fun c hc => weight_pos hc

variable (weights scores)

lemma contributions_eq : weights.contributions scores =
    (weights.weighted scores).map fun c =>
      { c with weight := c.weight / ((weights.weighted scores).map (·.weight)).sum } := by
  unfold contributions
  simp only [Exact.sum_eq]
  by_cases hne : weights.weighted scores = []
  · simp [hne]
  · have hpos := total_pos hne
    rw [if_neg (by norm_num; exact hpos)]

lemma contributions_dims : (weights.contributions scores).map (·.dimension) =
    Named.all.filter fun d => (scores.get d).isSome && (weights.positive? d).isSome := by
  rw [contributions_eq, List.map_map, ← weighted_dims]
  rfl

lemma contributions_sum (hne : weights.contributions scores ≠ []) :
    ((weights.contributions scores).map (·.weight)).sum = 1 := by
  have hweighted : weights.weighted scores ≠ [] := by
    rintro hnil
    rw [contributions_eq, hnil] at hne
    exact hne rfl
  rw [contributions_eq, List.map_map]
  change ((weights.weighted scores).map fun c => c.weight / _).sum = 1
  simp only [div_eq_mul_inv]
  rw [List.sum_map_mul_right]
  exact mul_inv_cancel₀ (total_pos hweighted).ne'

variable {weights scores}

/-- A contribution has the score of its dimension, and its share of the weight. -/
lemma contribution_spec {c : Contribution ℚ} (hc : c ∈ weights.contributions scores) :
    scores.get c.dimension = some c.score ∧ 0 < c.weight ∧ ∃ weight, weights.positive? c.dimension = some weight ∧
      c.weight = weight / ((weights.weighted scores).map (·.weight)).sum := by
  rw [contributions_eq] at hc
  obtain ⟨part, hpart, rfl⟩ := List.mem_map.mp hc
  obtain ⟨hscore, hweight⟩ := mem_weighted.mp hpart
  exact ⟨hscore, div_pos (weight_pos hpart) (total_pos (List.ne_nil_of_mem hpart)), part.weight, hweight, rfl⟩

/-- A mean of numbers between zero and a bound is not moved into that range. -/
lemma clamp_mean (hne : weights.contributions scores ≠ []) (f : Contribution ℚ → ℚ) {bound : ℚ}
    (hf : ∀ c ∈ weights.contributions scores, 0 ≤ f c ∧ f c ≤ bound) :
    Arithmetic.clamp 0.0 bound ((weights.contributions scores).map fun c => c.weight * f c).sum =
      ((weights.contributions scores).map fun c => c.weight * f c).sum := by
  obtain ⟨⟨low, hlow, hle⟩, high, hhigh, hge⟩ :=
    Contribution.mean_between hne (fun c hc => (contribution_spec hc).2.1) (contributions_sum weights scores hne) f
  have hzero : (0.0 : ℚ) = 0 := by norm_num
  rw [hzero]
  exact Exact.clamp_eq_self ((hf low hlow).1.trans hle) (hge.trans (hf high hhigh).2)

/-- With scores in their ranges the overall score is the weighted mean itself. -/
lemma overall?_eq (hne : weights.contributions scores ≠ [])
    (hscores : ∀ d s, scores.get d = some s →
      (0 ≤ s.value ∧ s.value ≤ 100) ∧ (0 ≤ s.confidence ∧ s.confidence ≤ 1)) :
    weights.overall? scores = some
      (((weights.contributions scores).map fun c => c.weight * c.score.value).sum,
        ((weights.contributions scores).map fun c => c.weight * c.score.confidence).sum) := by
  have hrange : ∀ c ∈ weights.contributions scores,
      (0 ≤ c.score.value ∧ c.score.value ≤ 100.0) ∧ (0 ≤ c.score.confidence ∧ c.score.confidence ≤ 1.0) := by
    intro c hc
    norm_num
    exact hscores _ _ (contribution_spec hc).1
  unfold overall?
  simp only [List.isEmpty_iff, hne, if_false, Exact.sum_eq]
  rw [clamp_mean hne _ fun c hc => (hrange c hc).2]
  congr 2
  exact clamp_mean hne _ fun c hc => (hrange c hc).1

end Weights

variable [Exponential]

/-- The dimensions that have a score and a positive weight, and no others, make up the overall score. Their
weights are scaled to a sum of one, so that the value and the confidence lie between those of two of them. The
weight of a dimension without a score, and the score of one without a positive weight, change nothing. -/
theorem missing_dimensions_leave_denominator (weights : List (Dimension × ℚ)) (scores : Scores ℚ)
    (hscores : ∀ d s, scores.get d = some s →
      (0 ≤ s.value ∧ s.value ≤ 100) ∧ (0 ≤ s.confidence ∧ s.confidence ≤ 1)) :
    let parts := (Weights.ofList weights).contributions scores
    let overall := (Weights.ofList weights).overall? scores
    parts.map (·.dimension) =
        Named.all.filter (fun d => (scores.get d).isSome ∧ 0 < listedWeight weights d) ∧
      (∀ c ∈ parts, scores.get c.dimension = some c.score ∧ 0 < c.weight) ∧
      (parts ≠ [] → (parts.map (·.weight)).sum = 1) ∧
      (∀ c ∈ parts, ∀ c' ∈ parts,
        c.weight * listedWeight weights c'.dimension = c'.weight * listedWeight weights c.dimension) ∧
      (overall = none ↔ parts = []) ∧
      (∀ value confidence, overall = some (value, confidence) →
        (∃ c ∈ parts, c.score.value ≤ value) ∧ (∃ c ∈ parts, value ≤ c.score.value) ∧
        (∃ c ∈ parts, c.score.confidence ≤ confidence) ∧ ∃ c ∈ parts, confidence ≤ c.score.confidence) ∧
      (∀ weights', (∀ d, (scores.get d).isSome → listedWeight weights' d = listedWeight weights d) →
        (Weights.ofList weights').contributions scores = parts ∧
          (Weights.ofList weights').overall? scores = overall) ∧
      ∀ scores', (∀ d, 0 < listedWeight weights d → scores'.get d = scores.get d) →
        (Weights.ofList weights).contributions scores' = parts ∧
          (Weights.ofList weights).overall? scores' = overall := by
  intro parts overall
  have hpositive := Weights.isSome_positive?_ofList weights
  have hspec := fun c (hc : c ∈ parts) => Weights.contribution_spec hc
  refine ⟨?_, fun c hc => ⟨(hspec c hc).1, (hspec c hc).2.1⟩, Weights.contributions_sum _ _, ?_,
    Weights.overall?_eq_none_iff, ?_, ?_, ?_⟩
  · rw [Weights.contributions_dims]
    refine List.filter_congr fun d _ => ?_
    simp only [← hpositive, Bool.decide_and, Bool.decide_eq_true]
  · intro c hc c' hc'
    obtain ⟨-, -, w, hw, hshare⟩ := hspec c hc
    obtain ⟨-, -, w', hw', hshare'⟩ := hspec c' hc'
    rw [hshare, hshare', Weights.eq_listedWeight hw, Weights.eq_listedWeight hw']
    ring
  · intro value confidence hsome
    have hne : parts ≠ [] := by
      intro hnil
      exact Option.some_ne_none _ (hsome.symm.trans (Weights.overall?_eq_none_iff.mpr hnil))
    have hmean := Contribution.mean_between hne (fun c hc => (hspec c hc).2.1) (Weights.contributions_sum _ _ hne)
    obtain ⟨rfl, rfl⟩ := Prod.mk.inj (Option.some.inj (hsome.symm.trans (Weights.overall?_eq hne hscores)))
    exact ⟨(hmean _).1, (hmean _).2, (hmean _).1, (hmean _).2⟩
  · intro weights' h
    refine Weights.overall?_congr (Weights.weighted_congr_weights fun d hd => ?_)
    rw [Weights.positive?_ofList, Weights.positive?_ofList, h d hd]
  · intro scores' h
    exact Weights.overall?_congr (Weights.weighted_congr_scores fun d hd => h d ((hpositive d).mp hd))

omit [Exponential]

/-- Demand is listed twice, and quality with a weight below the range. -/
def unevenWeights : List (Dimension × ℚ) := [(.demand, 2), (.availability, 1 / 2), (.quality, -1), (.demand, 1 / 4)]

def unevenScores : Scores ℚ where
  demand := some { value := 80, confidence := 1, reasoning := "" }
  availability := some { value := 20, confidence := 1 / 2, reasoning := "" }
  quality := some { value := 100, confidence := 0, reasoning := "" }

theorem unevenScores_weighed :
    letI := gentleExponential
    let weights := Weights.ofList unevenWeights
    (∀ d s, unevenScores.get d = some s →
      (0 ≤ s.value ∧ s.value ≤ 100) ∧ (0 ≤ s.confidence ∧ s.confidence ≤ 1)) ∧
    (weights.contributions unevenScores).map (·.dimension) = [.demand, .availability] ∧
    ((weights.contributions unevenScores).map (·.weight)).sum = 1 ∧
    weights.overall? (unevenScores.set .quality none) = weights.overall? unevenScores := by
  let _ := gentleExponential
  intro weights
  have hscores : ∀ d s, unevenScores.get d = some s →
      (0 ≤ s.value ∧ s.value ≤ 100) ∧ (0 ≤ s.confidence ∧ s.confidence ≤ 1) := by
    intro d s hs
    cases d <;> cases hs <;> norm_num
  obtain ⟨hdims, -, hsum, -, -, -, -, hchange⟩ :=
    missing_dimensions_leave_denominator unevenWeights unevenScores hscores
  have htwo : (weights.contributions unevenScores).map (·.dimension) = [.demand, .availability] :=
    hdims.trans (by decide +kernel)
  have hne : weights.contributions unevenScores ≠ [] := by
    intro hnil
    rw [hnil] at htwo
    cases htwo
  refine ⟨hscores, htwo, hsum hne, (hchange _ fun d hd => ?_).2⟩
  have hquality : d ≠ .quality := by
    rintro rfl
    exact absurd hd (by decide +kernel)
  rw [PerDimension.get_set, if_neg hquality]

end Appraisal
