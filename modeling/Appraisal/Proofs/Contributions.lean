import Appraisal.Verdict.Weights
import Mathlib.Tactic.Common

/-!
# What contributes to an overall score

A dimension contributes when it has a score and a positive weight. Nothing else about the scores and the weights
shows in the overall score.
-/

namespace Appraisal

lemma Dimension.mem_all (d : Dimension) : d ∈ (Named.all : List Dimension) := by cases d <;> decide

namespace PerDimension
variable {β : Type}

lemma present_dims (p : PerDimension (Option β)) :
    p.present.map (·.1) = Named.all.filter fun d => (p.get d).isSome := by
  obtain ⟨demand, availability, quality⟩ := p
  cases demand <;> cases availability <;> cases quality <;> rfl

end PerDimension

namespace Weights
variable {α : Type} [Arithmetic α]

/-- Of two weights for one dimension the later one counts. -/
lemma get_ofList (weights : List (Dimension × α)) (d : Dimension) :
    (ofList weights).get d =
      (weights.reverse.find? (·.1 = d)).map fun entry => Arithmetic.clamp 0.0 1.0 entry.2 := by
  unfold ofList
  rw [PerDimension.get_foldl_set (fun entry : Dimension × α => entry.1)
    (fun entry => some (Arithmetic.clamp 0.0 1.0 entry.2)), PerDimension.get_none]
  cases weights.reverse.find? (·.1 = d) <;> rfl

variable (weights : Weights α) (scores : Scores α)

lemma weighted_eq : weights.weighted scores = Named.all.filterMap fun d =>
    (scores.get d).bind fun score => (weights.positive? d).map fun weight => ⟨d, weight, score⟩ := by
  unfold weighted PerDimension.present
  rw [List.filterMap_filterMap]
  congr 1
  funext d
  cases scores.get d <;> rfl

lemma weighted_weights :
    (weights.weighted scores).map (·.weight) = (scores.present.map (·.1)).filterMap weights.positive? := by
  unfold weighted
  rw [List.map_filterMap, List.filterMap_map]
  congr 1
  funext entry
  obtain ⟨dimension, score⟩ := entry
  cases h : weights.positive? dimension <;> simp [h]

/-- The dimensions with a score and a positive weight, once each and in the usual order. -/
lemma weighted_dims : (weights.weighted scores).map (·.dimension) =
    Named.all.filter fun d => (scores.get d).isSome && (weights.positive? d).isSome := by
  rw [weighted_eq, List.map_filterMap, ← List.filterMap_eq_filter]
  congr 1
  funext d
  cases hs : scores.get d <;> cases hw : weights.positive? d <;> simp [Option.guard, hs, hw]

variable {weights scores}

lemma mem_weighted {c : Contribution α} : c ∈ weights.weighted scores ↔
    scores.get c.dimension = some c.score ∧ weights.positive? c.dimension = some c.weight := by
  obtain ⟨d, weight, score⟩ := c
  simp only [weighted_eq, List.mem_filterMap, Option.bind_eq_some_iff, Option.map_eq_some_iff,
    Contribution.mk.injEq]
  constructor
  · rintro ⟨_, -, _, hscore, _, hweight, rfl, rfl, rfl⟩
    exact ⟨hscore, hweight⟩
  · rintro ⟨hscore, hweight⟩
    exact ⟨d, d.mem_all, score, hscore, weight, hweight, rfl, rfl, rfl⟩

lemma weighted_congr_weights {weights' : Weights α}
    (h : ∀ d, (scores.get d).isSome → weights'.positive? d = weights.positive? d) :
    weights'.weighted scores = weights.weighted scores := by
  rw [weighted_eq, weighted_eq]
  congr 1
  funext d
  cases hs : scores.get d with
  | none => rfl
  | some score => rw [h d (by rw [hs]; rfl)]

lemma weighted_congr_scores {scores' : Scores α}
    (h : ∀ d, (weights.positive? d).isSome → scores'.get d = scores.get d) :
    weights.weighted scores' = weights.weighted scores := by
  rw [weighted_eq, weighted_eq]
  congr 1
  funext d
  cases hw : weights.positive? d with
  | none => cases scores.get d <;> cases scores'.get d <;> rfl
  | some weight => rw [h d (by rw [hw]; rfl)]

/-- What contributes settles the overall score. -/
lemma overall?_congr {weights' : Weights α} {scores' : Scores α}
    (h : weights'.weighted scores' = weights.weighted scores) :
    weights'.contributions scores' = weights.contributions scores ∧
      weights'.overall? scores' = weights.overall? scores := by
  have hparts : weights'.contributions scores' = weights.contributions scores := by
    unfold contributions
    rw [h]
  refine ⟨hparts, ?_⟩
  unfold overall?
  rw [hparts]

lemma overall?_eq_none_iff : weights.overall? scores = none ↔ weights.contributions scores = [] := by
  unfold overall?
  simp

end Weights
end Appraisal
