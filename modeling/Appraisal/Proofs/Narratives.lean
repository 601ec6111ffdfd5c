import Appraisal.Proofs.Recommendations
import Appraisal.Proofs.Sums

/-!
# Stories on top of verdicts

A built-in strategy tells a story about the verdict that its figures give. The story leaves these figures alone: it
adds at most one risk and one opportunity at the end, a horizon and a return. The return stays between zero and its
limit as long as the scores are finite, as those are that a recommendation is made from.
-/

namespace Appraisal
open Double

/-- Whether the values of all scores are finite. -/
def Scores.AreFinite (scores : Scores Float) : Prop :=
  ∀ d s, scores.get d = some s → Arithmetic.isFinite s.value = true

/-- Whether the scaled weights lie between zero and one, whichever dimensions take part. -/
def Weights.AreShares (weights : Weights Float) : Prop :=
  ∀ dims ∈ (Named.all : List Dimension).sublists, ∀ share ∈ weights.shares dims, 0.0 ≤ share ∧ share ≤ 1.0

instance : DecidablePred Weights.AreShares := fun weights => inferInstanceAs (Decidable
  (∀ dims ∈ (Named.all : List Dimension).sublists, ∀ share ∈ weights.shares dims, 0.0 ≤ share ∧ share ≤ 1.0))

namespace Verdict

/-- Whether a verdict is another one with a story on top. -/
structure Narrates {α : Type} (v base : Verdict α) : Prop where
  overall : v.overall = base.overall
  action : v.action = base.action
  urgency : v.urgency = base.urgency
  risks : base.risks <+: v.risks ∧ v.risks.length ≤ base.risks.length + 1
  opportunities :
    base.opportunities <+: v.opportunities ∧ v.opportunities.length ≤ base.opportunities.length + 1

/-- Whether the return that a verdict tells, if any, is between zero and a limit. -/
def ReturnsWithin (v : Verdict Float) (limit : Float) : Prop :=
  ∀ r, v.estimatedReturn = some r → 0.0 ≤ r ∧ r ≤ limit

lemma not_returnsWithin {v : Verdict Float} (h : v.estimatedReturn.any Arithmetic.isNaN) (limit : Float) :
    ¬ v.ReturnsWithin limit := by
  obtain ⟨r, hr, hundefined⟩ := Option.any_eq_true _ _ |>.mp h
  intro hreturns
  rw [(isNaN_of_le (hreturns r hr).2).1] at hundefined
  cases hundefined

end Verdict

section Figures
variable {α : Type}

lemma grows_by_one (texts : List String) (added : Option String) :
    texts <+: texts ++ added.toList ∧ (texts ++ added.toList).length ≤ texts.length + 1 := by
  rw [List.length_append]
  exact ⟨List.prefix_append _ _, Nat.add_le_add_left Option.length_toList_le _⟩

lemma Narrative.tell_narrates (story : Narrative α) (base : Verdict α) : (story.tell base).Narrates base where
  overall := rfl
  action := rfl
  urgency := rfl
  risks := grows_by_one base.risks story.risk
  opportunities := grows_by_one base.opportunities story.opportunity

/-- An empty story leaves a verdict as it is when the verdict told nothing before. -/
lemma Narrative.tell_empty {base : Verdict α} (hreturn : base.estimatedReturn = none)
    (hhorizon : base.timeHorizon = none) : ({} : Narrative α).tell base = base := by
  obtain ⟨overall, action, urgency, estimatedReturn, timeHorizon, risks, opportunities⟩ := base
  cases hreturn
  cases hhorizon
  simp [Narrative.tell]

variable [Arithmetic α] [NumberText α]

lemma Verdict.read_tells_nothing (weights : Weights α) (actions : ActionLevels α) (urgencies : UrgencyLevels α)
    (scores : Scores α) : (read weights actions urgencies scores).estimatedReturn = none ∧
      (read weights actions urgencies scores).timeHorizon = none := by
  unfold read
  cases weights.overall? scores with
  | none => exact ⟨rfl, rfl⟩
  | some overall => exact ⟨rfl, rfl⟩

end Figures

namespace Strategy
variable {α : Type} [Arithmetic α]

section Stories
variable (scores : Scores α) (overall : α)

lemma holdingNarrative_estimatedReturn : (holdingNarrative scores overall).estimatedReturn =
    if scores.present.isEmpty then none else some (holdingReturn overall) := by
  unfold holdingNarrative
  split
  · rfl
  · split <;> rfl

lemma bargainNarrative_estimatedReturn : (bargainNarrative scores overall).estimatedReturn = none := by
  unfold bargainNarrative
  dsimp only
  split <;> rfl

lemma flipNarrative_estimatedReturn [NumberText α] : (flipNarrative scores overall).estimatedReturn =
    scores.demand.map fun demand => flipReturn demand.value := by
  unfold flipNarrative
  cases scores.demand <;> rfl

end Stories

variable [NumberText α] {s : Strategy α} {scores : Scores α}

lemma interpret_narrates (hs : s ∈ Registry.builtIn.strategies) (scores : Scores α) :
    (s.interpret scores).Narrates (s.baseVerdict scores) := by
  rcases Registry.mem_builtIn hs with rfl | rfl | rfl
  · exact Narrative.tell_narrates (holdingNarrative scores _) _
  · exact Narrative.tell_narrates (bargainNarrative scores _) _
  · exact Narrative.tell_narrates (flipNarrative scores _) _

/-- There is no story about nothing. -/
lemma interpret_of_unscored (hs : s ∈ Registry.builtIn.strategies) (h : ∀ d, scores.get d = none) :
    s.interpret scores = s.baseVerdict scores := by
  obtain ⟨demand, availability, quality⟩ := scores
  cases (show demand = none from h .demand)
  cases (show availability = none from h .availability)
  cases (show quality = none from h .quality)
  have hread := Verdict.read_tells_nothing s.weights s.actions s.urgencies ⟨none, none, none⟩
  rcases Registry.mem_builtIn hs with rfl | rfl | rfl
  · exact Narrative.tell_empty hread.1 hread.2
  · exact Narrative.tell_empty hread.1 hread.2
  · exact Narrative.tell_empty hread.1 hread.2

end Strategy

namespace Weights
variable {weights : Weights Float} {scores : Scores Float} (h : weights.AreShares) (hfinite : scores.AreFinite)
include h hfinite

/-- Shares of finite scores have a sum, though it may be infinite. -/
lemma isNaN_sum_points :
    Arithmetic.isNaN (Arithmetic.sum ((weights.contributions scores).map Contribution.points)) = false := by
  apply isNaN_sum
  intro points hpoints
  obtain ⟨c, hc, rfl⟩ := List.mem_map.mp hpoints
  obtain ⟨hshare, hmem⟩ := contribution_facts h hc
  obtain ⟨d, -, hd⟩ := List.mem_filterMap.mp hmem
  obtain ⟨s, hs, hentry⟩ := Option.map_eq_some_iff.mp hd
  cases hentry
  exact isFinite_mul hshare.1 hshare.2 (hfinite _ _ hs)

lemma read_value_mem (actions : ActionLevels Float) (urgencies : UrgencyLevels Float) :
    let value := (Verdict.read weights actions urgencies scores).overall.value
    0.0 ≤ value ∧ value ≤ 100.0 := by
  have hvalue := clamp_mem (isNaN_sum_points h hfinite) Score.percent_range
  unfold Verdict.read overall?
  dsimp only
  split
  · exact clamp_mem rfl Score.percent_range
  · rename_i hoverall
    split at hoverall
    · cases hoverall
    · cases hoverall
      -- The mean is moved into its range, and a score moves its value there again.
      exact clamp_mem (isNaN_of_le hvalue.2).1 Score.percent_range

end Weights

namespace Strategy
variable {scores : Scores Float}

lemma isNaN_holdingReturn {overall : Float} (h : 0.0 ≤ overall) (h' : overall ≤ 100.0) :
    Arithmetic.isNaN ((overall - 40.0) / (100.0 - 40.0) * 60.0) = false := by
  have hforty : Below 7 (40.0 : Float) := by decide
  have hscale : AtLeast 5 ((100.0 : Float) - 40.0) := by decide
  have hsixty : Below 6 (60.0 : Float) := by decide
  have hexcess := (Score.below_of_percent h h').sub hforty (by omega) (by omega)
  exact ((hexcess.div hscale (by omega) (by omega)).mul hsixty (by omega) (by omega)).isNaN

lemma isNaN_flipReturn {demand : Float} (h : Arithmetic.isFinite demand = true) :
    Arithmetic.isNaN ((demand - 50.0) * 0.6) = false := by
  have hfactor : AtLeast (-1) (0.6 : Float) := by decide
  exact isNaN_mul (isNaN_sub (isNaN_of_isFinite h) (by decide)) hfactor

lemma investmentFocus_returnsWithin (hfinite : scores.AreFinite) :
    (investmentFocus.interpret scores).ReturnsWithin 60.0 := by
  intro r hr
  change (holdingNarrative scores _).estimatedReturn = some r at hr
  rw [holdingNarrative_estimatedReturn] at hr
  split at hr
  · cases hr
  · have hshares : (investmentFocus : Strategy Float).weights.AreShares := by decide
    obtain ⟨hleast, hmost⟩ := Weights.read_value_mem hshares hfinite investmentFocus.actions investmentFocus.urgencies
    rw [← Option.some.inj hr]
    exact clamp_mem (isNaN_holdingReturn hleast hmost) (by decide)

lemma quickFlip_returnsWithin (hfinite : scores.AreFinite) :
    (quickFlip.interpret scores).ReturnsWithin 30.0 := by
  intro r hr
  have hreturn : (quickFlip.interpret scores).estimatedReturn =
      scores.demand.map fun demand => flipReturn demand.value := flipNarrative_estimatedReturn scores _
  rw [hreturn] at hr
  obtain ⟨demand, hdemand, rfl⟩ := Option.map_eq_some_iff.mp hr
  exact clamp_mem (isNaN_flipReturn (hfinite .demand demand hdemand)) (by decide)

/-- The built-in strategies tell stories on top of the verdicts that their figures give, and change nothing else. The
return that a story tells is in range when the scores are finite. -/
theorem builtIn_strategies_only_narrate (scores : Scores Float) :
    (∀ s ∈ Registry.builtIn.strategies,
      (s.interpret scores).Narrates (Verdict.read s.weights s.actions s.urgencies scores) ∧
      ((∀ d, scores.get d = none) → s.interpret scores = Verdict.read s.weights s.actions s.urgencies scores)) ∧
    (scores.AreFinite →
      (investmentFocus.interpret scores).ReturnsWithin 60.0 ∧ (quickFlip.interpret scores).ReturnsWithin 30.0) := by
  refine ⟨fun s hs => ⟨interpret_narrates hs scores, interpret_of_unscored hs⟩, fun hfinite => ?_⟩
  exact ⟨investmentFocus_returnsWithin hfinite, quickFlip_returnsWithin hfinite⟩

/-- A set that is about to retire, in a market that has risen fast. -/
def hypedScores : Scores Float where
  demand := some { Score.of 95.0 0.8 "Selling fast" with dataPoints := .ofList [("rsi", .number 85.0)] }
  availability := some
    { Score.of 90.0 1.0 "Retiring soon" with dataPoints := .ofList [("retirement_phase", .string "pre_retirement")] }
  quality := some (.of 45.0 0.9 "Mixed ratings")

theorem hypedScores_narrated :
    let base := Verdict.read quickFlip.weights quickFlip.actions quickFlip.urgencies hypedScores
    quickFlip ∈ (Registry.builtIn : Registry Float).strategies ∧ hypedScores.AreFinite ∧
      (quickFlip.interpret hypedScores).Narrates base ∧
      (quickFlip.interpret hypedScores).risks =
        base.risks ++ ["Overheated market (RSI 85): prices may correct before resale"] ∧
      (quickFlip.interpret hypedScores).estimatedReturn = some (flipReturn 95.0) ∧
      (quickFlip.interpret hypedScores).ReturnsWithin 30.0 := by
  have hbuiltIn : quickFlip ∈ (Registry.builtIn : Registry Float).strategies :=
    Registry.quickFlip_mem_builtIn
  have hfinite : hypedScores.AreFinite := by
    rintro (_ | _ | _) s ⟨⟩ <;> decide
  obtain ⟨hnarrates, hreturns⟩ := builtIn_strategies_only_narrate hypedScores
  exact ⟨hbuiltIn, hfinite, (hnarrates quickFlip hbuiltIn).1, by decide +kernel, rfl, (hreturns hfinite).2⟩

/-- A demand that is not a number. -/
def undefinedDemand : Scores Float where
  demand := some (.of Arithmetic.undefined 0.8 "Unclear")
  availability := none
  quality := none

/-- Scores without bounds, one at either end. -/
def unboundedScores : Scores Float where
  demand := some { value := 1.0 / 0.0, confidence := 1.0, reasoning := "Endless" }
  availability := some { value := -1.0 / 0.0, confidence := 1.0, reasoning := "None" }
  quality := none

/-- The return is no number either then. -/
theorem undefined_scores_return_undefined :
    (quickFlip.interpret undefinedDemand).estimatedReturn.any Arithmetic.isNaN ∧
    ¬ (quickFlip.interpret undefinedDemand).ReturnsWithin 30.0 ∧
    (investmentFocus.interpret unboundedScores).estimatedReturn.any Arithmetic.isNaN ∧
    ¬ (investmentFocus.interpret unboundedScores).ReturnsWithin 60.0 := by
  have hflip : (quickFlip.interpret undefinedDemand).estimatedReturn.any Arithmetic.isNaN := by decide +kernel
  have hhold : (investmentFocus.interpret unboundedScores).estimatedReturn.any Arithmetic.isNaN := by decide +kernel
  exact ⟨hflip, Verdict.not_returnsWithin hflip 30.0, hhold, Verdict.not_returnsWithin hhold 60.0⟩

end Strategy
end Appraisal
