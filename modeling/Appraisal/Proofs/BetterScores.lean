import Appraisal.Proofs.Narratives
import Appraisal.Proofs.WeightedMeans

/-!
# Better scores and verdicts

When the scores of a product rise, no verdict on it gets worse. Which dimensions contribute, and with what weight,
depends only on which of them have a score; a weighted mean grows with its values; and a ladder of thresholds is
only ever climbed, in whatever order its steps stand.
-/

namespace Appraisal

/-- How much an action favors the product. -/
def Action.strength : Action → Nat
  | pass => 0
  | hold => 1
  | buy => 2
  | strongBuy => 3

/-- How soon the product should be bought. -/
def Urgency.pressure : Urgency → Nat
  | noRush => 0
  | low => 1
  | moderate => 2
  | urgent => 3

/-- Whether the same dimensions are scored, and none of them lower than before. -/
def Scores.NoLower (scores scores' : Scores ℚ) : Prop :=
  ∀ d, Option.Rel (fun s s' => s.value ≤ s'.value) (scores.get d) (scores'.get d)

/-- Whether a dimension contributes as much as before, and with no lower score. -/
structure Contribution.NoLower (c c' : Contribution ℚ) : Prop where
  nonneg : 0 ≤ c.weight
  weight : c'.weight = c.weight
  value : c.score.value ≤ c'.score.value

/-- Whether a verdict is at least as favorable as before. A return is told in both verdicts or in neither. -/
structure Verdict.NoWorse (v v' : Verdict ℚ) : Prop where
  overall : v.overall.value ≤ v'.overall.value
  action : v.action.strength ≤ v'.action.strength
  urgency : v.urgency.pressure ≤ v'.urgency.pressure
  estimatedReturn : Option.Rel (· ≤ ·) v.estimatedReturn v'.estimatedReturn

/-- The highest of three thresholds that a value reaches. -/
def rung (third second first value : ℚ) : Nat :=
  if third ≤ value then 3 else if second ≤ value then 2 else if first ≤ value then 1 else 0

lemma rung_mono (third second first : ℚ) {value value' : ℚ} (h : value ≤ value') :
    rung third second first value ≤ rung third second first value' := by
  unfold rung
  split_ifs <;> first
    | omega
    -- What was reached before is still reached.
    | linarith

variable [Exponential]

section Ladders

lemma ActionLevels.strength_action (levels : ActionLevels ℚ) (value : ℚ) :
    (levels.action value).strength = rung levels.strongBuy levels.buy levels.hold value := by
  unfold action rung
  split_ifs <;> rfl

lemma UrgencyLevels.pressure_urgency (levels : UrgencyLevels ℚ) (score : Score ℚ) :
    (levels.urgency (some score)).pressure = rung levels.urgent levels.moderate levels.low score.value := by
  unfold urgency rung
  dsimp only
  split_ifs <;> rfl

lemma ActionLevels.action_mono (levels : ActionLevels ℚ) {value value' : ℚ} (h : value ≤ value') :
    (levels.action value).strength ≤ (levels.action value').strength := by
  rw [levels.strength_action, levels.strength_action]
  exact rung_mono _ _ _ h

lemma UrgencyLevels.urgency_mono (levels : UrgencyLevels ℚ) {availability availability' : Option (Score ℚ)}
    (h : Option.Rel (fun s s' => s.value ≤ s'.value) availability availability') :
    (levels.urgency availability).pressure ≤ (levels.urgency availability').pressure := by
  cases h with
  | none => exact le_rfl
  | some hle =>
    rw [levels.pressure_urgency, levels.pressure_urgency]
    exact rung_mono _ _ _ hle

end Ladders

namespace Scores.NoLower
variable {scores scores' : Scores ℚ} (h : scores.NoLower scores') (weights : Weights ℚ)
include h

omit [Exponential] in
lemma present_dims : scores'.present.map (·.1) = scores.present.map (·.1) := by
  rw [PerDimension.present_dims, PerDimension.present_dims]
  refine List.filter_congr fun d _ => ?_
  have hd := h d
  generalize scores.get d = s, scores'.get d = s' at hd ⊢
  cases hd <;> rfl

lemma weighted : List.Forall₂ Contribution.NoLower (weights.weighted scores) (weights.weighted scores') := by
  rw [Weights.weighted_eq, Weights.weighted_eq]
  refine List.rel_filterMap (R := Eq) ?_ (List.forall₂_same.mpr fun d _ => rfl)
  rintro d _ rfl
  have hd := h d
  dsimp only
  generalize scores.get d = s, scores'.get d = s' at hd ⊢
  cases hd with
  | none => exact .none
  | some hle =>
    cases hweight : weights.positive? d with
    | none => exact .none
    | some weight => exact .some ⟨(Weights.pos_of_positive? hweight).le, rfl, hle⟩

lemma contributions :
    List.Forall₂ Contribution.NoLower (weights.contributions scores) (weights.contributions scores') := by
  have hsame : (weights.weighted scores').map (·.weight) = (weights.weighted scores).map (·.weight) := by
    rw [Weights.weighted_weights, Weights.weighted_weights, h.present_dims]
  have htotal : 0 ≤ ((weights.weighted scores).map (·.weight)).sum := by
    refine List.sum_nonneg ?_
    simpa using fun c hc => (Weights.weight_pos hc).le
  rw [Weights.contributions_eq, Weights.contributions_eq, hsame, List.forall₂_map_left_iff,
    List.forall₂_map_right_iff]
  refine (h.weighted weights).imp fun c c' hc => ⟨div_nonneg hc.nonneg htotal, ?_, hc.value⟩
  rw [hc.weight]

lemma overall? :
    Option.Rel (fun o o' => o.1 ≤ o'.1) (weights.overall? scores) (weights.overall? scores') := by
  have hparts := h.contributions weights
  unfold Weights.overall?
  generalize weights.contributions scores = parts, weights.contributions scores' = parts' at hparts ⊢
  have hvalue : (parts.map Contribution.points).sum ≤ (parts'.map Contribution.points).sum := by
    apply List.Forall₂.sum_le_sum
    rw [List.forall₂_map_left_iff, List.forall₂_map_right_iff]
    refine hparts.imp fun c c' hc => ?_
    unfold Contribution.points
    rw [hc.weight]
    exact mul_le_mul_of_nonneg_left hc.value hc.nonneg
  cases hparts with
  | nil => exact .none
  | cons _ _ =>
    refine .some (Exact.clamp_mono (by norm_num) ?_)
    rwa [Exact.sum_eq, Exact.sum_eq]

variable [NumberText ℚ]

lemma read (actions : ActionLevels ℚ) (urgencies : UrgencyLevels ℚ) :
    (Verdict.read weights actions urgencies scores).NoWorse (Verdict.read weights actions urgencies scores') := by
  have hurgency := urgencies.urgency_mono (h .availability)
  have hoverall := h.overall? weights
  unfold Verdict.read
  generalize weights.overall? scores = o, weights.overall? scores' = o' at hoverall ⊢
  cases hoverall with
  | none => exact ⟨le_rfl, le_rfl, hurgency, .none⟩
  | some hle => exact ⟨Exact.clamp_mono (by norm_num) hle, actions.action_mono hle, hurgency, .none⟩

end Scores.NoLower

namespace Strategy

lemma holdingReturn_mono {overall overall' : ℚ} (h : overall ≤ overall') :
    holdingReturn overall ≤ holdingReturn overall' := by
  refine Exact.clamp_mono (by norm_num) ?_
  norm_num
  linarith

lemma flipReturn_mono {demand demand' : ℚ} (h : demand ≤ demand') : flipReturn demand ≤ flipReturn demand' := by
  refine Exact.clamp_mono (by norm_num) ?_
  norm_num
  linarith

variable {scores scores' : Scores ℚ} {base base' : Verdict ℚ}

omit [Exponential] in
/-- A story makes no verdict worse as long as its return does not fall. -/
lemma telling_noWorse {story : Scores ℚ → ℚ → Narrative ℚ} (hbase : base.NoWorse base')
    (hreturn : Option.Rel (· ≤ ·) (story scores base.overall.value).estimatedReturn
      (story scores' base'.overall.value).estimatedReturn) :
    (telling story scores base).NoWorse (telling story scores' base') :=
  ⟨hbase.overall, hbase.action, hbase.urgency, hreturn⟩

lemma holdingNarrative_noWorse (h : scores.NoLower scores') (hbase : base.NoWorse base') :
    (telling holdingNarrative scores base).NoWorse (telling holdingNarrative scores' base') := by
  refine telling_noWorse hbase ?_
  have hempty : scores'.present.isEmpty = scores.present.isEmpty := by
    rw [← List.isEmpty_map, h.present_dims, List.isEmpty_map]
  rw [holdingNarrative_estimatedReturn, holdingNarrative_estimatedReturn, hempty]
  split
  · exact .none
  · exact .some (holdingReturn_mono hbase.overall)

lemma bargainNarrative_noWorse (hbase : base.NoWorse base') :
    (telling bargainNarrative scores base).NoWorse (telling bargainNarrative scores' base') := by
  refine telling_noWorse hbase ?_
  rw [bargainNarrative_estimatedReturn, bargainNarrative_estimatedReturn]
  exact .none

lemma flipNarrative_noWorse [NumberText ℚ] (h : scores.NoLower scores') (hbase : base.NoWorse base') :
    (telling flipNarrative scores base).NoWorse (telling flipNarrative scores' base') := by
  refine telling_noWorse hbase ?_
  have hdemand : Option.Rel (fun s s' => s.value ≤ s'.value) scores.demand scores'.demand := h .demand
  unfold flipNarrative
  generalize scores.demand = s, scores'.demand = s' at hdemand ⊢
  cases hdemand with
  | none => exact .none
  | some hle => exact .some (flipReturn_mono hle)

end Strategy

variable [NumberText ℚ]

/-- When no score falls, the verdict of a built-in strategy does not get worse, and neither does that of any
strategy without a story, whatever its weights and thresholds. -/
theorem better_scores_no_worse_verdict {strategy : Strategy ℚ}
    (hstrategy : strategy ∈ Registry.builtIn.strategies ∨ strategy.narrative = Strategy.silent)
    {scores scores' : Scores ℚ} (h : scores.NoLower scores') :
    (strategy.interpret scores).NoWorse (strategy.interpret scores') := by
  have hbase : (strategy.baseVerdict scores).NoWorse (strategy.baseVerdict scores') := h.read _ _ _
  unfold Strategy.interpret
  rcases hstrategy with hbuiltIn | hsilent
  · rcases Registry.mem_builtIn hbuiltIn with rfl | rfl | rfl
    · exact Strategy.holdingNarrative_noWorse h hbase
    · exact Strategy.bargainNarrative_noWorse hbase
    · exact Strategy.flipNarrative_noWorse h hbase
  · rw [hsilent]
    exact hbase

omit [Exponential] [NumberText ℚ]

/-- A set of unknown quality. -/
def twoScores (demand availability : ℚ) : Scores ℚ where
  demand := some { value := demand, confidence := 1, reasoning := "" }
  availability := some { value := availability, confidence := 1 / 3, reasoning := "" }
  quality := none

/-- Its thresholds do not stand in their order, and it counts availability only. -/
def disorderly : Strategy ℚ where
  name := "Disorderly"
  description := "Buys what it would not hold"
  weights := .ofList [(.availability, 3), (.demand, -1)]
  actions := { strongBuy := 75, buy := 90, hold := 95 }
  urgencies := { urgent := 60, moderate := 80, low := 10 }
  margin := 0
  narrative := Strategy.silent

theorem twoScores_no_worse :
    letI := gentleExponential
    letI := fractionText
    (twoScores 40 70).NoLower (twoScores 90 80) ∧
    Strategy.quickFlip ∈ (Registry.builtIn : Registry ℚ).strategies ∧
    (Strategy.quickFlip.interpret (twoScores 40 70)).NoWorse (Strategy.quickFlip.interpret (twoScores 90 80)) ∧
    disorderly.narrative = Strategy.silent ∧
    (disorderly.interpret (twoScores 40 70)).NoWorse (disorderly.interpret (twoScores 90 80)) := by
  let _ := gentleExponential
  let _ := fractionText
  have hscores : (twoScores 40 70).NoLower (twoScores 90 80) := by
    intro d
    cases d with
    | demand => exact .some (show (40 : ℚ) ≤ 90 by norm_num)
    | availability => exact .some (show (70 : ℚ) ≤ 80 by norm_num)
    | quality => exact .none
  have hbuiltIn : Strategy.quickFlip ∈ (Registry.builtIn : Registry ℚ).strategies :=
    Registry.quickFlip_mem_builtIn
  exact ⟨hscores, hbuiltIn, better_scores_no_worse_verdict (.inl hbuiltIn) hscores, rfl,
    better_scores_no_worse_verdict (.inr rfl) hscores⟩

end Appraisal
