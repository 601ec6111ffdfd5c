import Appraisal.Proofs.ExactNumbers
import Appraisal.Scoring.Curve
import Mathlib.Data.List.Chain

/-!
# Curves over exact numbers

Between two points a curve runs straight, so a curve whose points never fall does not fall either. What carries
this past the points is that, right of a point, the curve stays at the height of that point or above. A curve
whose points never rise is the mirror image of such a curve.
-/

namespace Appraisal.Curve

/-- Whether the second point lies neither left of the first one nor below it. -/
def Rises (left right : ℚ × ℚ) : Prop := left.1 ≤ right.1 ∧ left.2 ≤ right.2

/-- Whether the second point lies neither left of the first one nor above it. -/
def Falls (left right : ℚ × ℚ) : Prop := left.1 ≤ right.1 ∧ right.2 ≤ left.2

variable [Exponential] {x x' : ℚ} {left right : ℚ × ℚ} {rest : List (ℚ × ℚ)}

section Segments

lemma interpolate_mono (hrun : left.1 < right.1) (hrise : left.2 ≤ right.2) (hle : x ≤ x') :
    interpolate left right x ≤ interpolate left right x' := by
  have hrun' : 0 ≤ right.1 - left.1 := by linarith
  have hrise' : 0 ≤ right.2 - left.2 := by linarith
  unfold interpolate
  dsimp only
  gcongr

lemma interpolate_left : interpolate left right left.1 = left.2 := by
  unfold interpolate
  dsimp only
  rw [sub_self, zero_div, zero_mul, add_zero]

lemma interpolate_right (hrun : left.1 < right.1) : interpolate left right right.1 = right.2 := by
  have hne : right.1 - left.1 ≠ 0 := by linarith
  unfold interpolate
  dsimp only
  rw [div_self hne, one_mul, add_sub_cancel]

/-- A segment that does not fall stays between the heights of its ends. -/
lemma interpolate_mem (hx : left.1 < x) (hx' : x ≤ right.1) (hrise : left.2 ≤ right.2) :
    left.2 ≤ interpolate left right x ∧ interpolate left right x ≤ right.2 := by
  have hrun : left.1 < right.1 := lt_of_lt_of_le hx hx'
  constructor
  · calc left.2 = interpolate left right left.1 := interpolate_left.symm
      _ ≤ interpolate left right x := interpolate_mono hrun hrise hx.le
  · calc interpolate left right x ≤ interpolate left right right.1 := interpolate_mono hrun hrise hx'
      _ = right.2 := interpolate_right hrun

end Segments

def Place.height (x : ℚ) : Place ℚ → ℚ
  | .level y => y
  | .between left right => interpolate left right x

lemma eval_cons (first : ℚ × ℚ) (rest : List (ℚ × ℚ)) (x : ℚ) :
    (⟨first :: rest⟩ : Curve ℚ).eval x =
      if x ≤ first.1 then first.2 else (placeAfter first x rest).height x := by
  have hdefined : Arithmetic.isNaN x = false := rfl
  unfold eval place?
  by_cases hle : x ≤ first.1
  · simp only [hdefined, hle, Bool.false_eq_true, if_false, if_true]
  · simp only [hdefined, hle, Bool.false_eq_true, if_false]
    cases placeAfter first x rest <;> rfl

section Rising

lemma le_height_placeAfter (hx : left.1 < x) (hrises : (left :: rest).IsChain Rises) :
    left.2 ≤ (placeAfter left x rest).height x := by
  induction rest generalizing left with
  | nil => exact le_rfl
  | cons right rest ih =>
    obtain ⟨⟨-, hrise⟩, hrest⟩ := List.isChain_cons_cons.mp hrises
    unfold placeAfter
    split
    · rename_i hle
      exact (interpolate_mem hx hle hrise).1
    · rename_i hlt
      exact hrise.trans (ih (not_le.mp hlt) hrest)

lemma height_placeAfter_mono (hx : left.1 < x) (hle : x ≤ x') (hrises : (left :: rest).IsChain Rises) :
    (placeAfter left x rest).height x ≤ (placeAfter left x' rest).height x' := by
  -- From left to right along the points. The quantities lie right of the point that is reached, so that no segment
  -- has zero length where it is read.
  induction rest generalizing left with
  | nil => exact le_rfl
  | cons right rest ih =>
    obtain ⟨⟨-, hrise⟩, hrest⟩ := List.isChain_cons_cons.mp hrises
    unfold placeAfter
    rcases le_or_gt x' right.1 with hx' | hx'
    · rw [if_pos (hle.trans hx'), if_pos hx']
      exact interpolate_mono (lt_of_lt_of_le hx (hle.trans hx')) hrise hle
    · rw [if_neg (not_le.mpr hx')]
      split
      · -- The two quantities lie on either side of the point.
        rename_i hsame
        exact (interpolate_mem hx hsame hrise).2.trans (le_height_placeAfter hx' hrest)
      · rename_i hpast
        exact ih (not_le.mp hpast) hrest

lemma eval_mono {c : Curve ℚ} (hrises : c.points.IsChain Rises) (hle : x ≤ x') : c.eval x ≤ c.eval x' := by
  obtain ⟨points⟩ := c
  cases points with
  | nil => exact le_rfl
  | cons first rest =>
    rw [eval_cons, eval_cons]
    rcases le_or_gt x' first.1 with hx' | hx'
    · rw [if_pos (hle.trans hx'), if_pos hx']
    · rw [if_neg (not_le.mpr hx')]
      split
      · exact le_height_placeAfter hx' hrises
      · rename_i hx
        exact height_placeAfter_mono (not_le.mp hx) hle hrises

end Rising

section Falling

/-- The point at the opposite height. -/
def mirrored (p : ℚ × ℚ) : ℚ × ℚ := (p.1, -p.2)

lemma interpolate_mirrored : interpolate (mirrored left) (mirrored right) x = -interpolate left right x := by
  unfold interpolate mirrored
  ring

lemma height_placeAfter_mirrored :
    (placeAfter (mirrored left) x (rest.map mirrored)).height x = -(placeAfter left x rest).height x := by
  induction rest generalizing left with
  | nil => rfl
  | cons right rest ih =>
    rw [List.map_cons]
    unfold placeAfter
    by_cases hle : x ≤ right.1
    · rw [if_pos hle, if_pos (show x ≤ (mirrored right).1 from hle)]
      exact interpolate_mirrored
    · rw [if_neg hle, if_neg (show ¬ x ≤ (mirrored right).1 from hle)]
      exact ih

lemma eval_mirrored (c : Curve ℚ) : (⟨c.points.map mirrored⟩ : Curve ℚ).eval x = -c.eval x := by
  obtain ⟨points⟩ := c
  cases points with
  | nil => exact (show (0.0 : ℚ) / 0.0 = -(0.0 / 0.0) by norm_num)
  | cons first rest =>
    rw [List.map_cons, eval_cons, eval_cons]
    by_cases hle : x ≤ first.1
    · rw [if_pos hle, if_pos (show x ≤ (mirrored first).1 from hle)]
      rfl
    · rw [if_neg hle, if_neg (show ¬ x ≤ (mirrored first).1 from hle)]
      exact height_placeAfter_mirrored

lemma eval_anti {c : Curve ℚ} (hfalls : c.points.IsChain Falls) (hle : x ≤ x') : c.eval x' ≤ c.eval x := by
  have hrises : (c.points.map mirrored).IsChain Rises := by
    rw [List.isChain_map]
    exact hfalls.imp fun p q h => ⟨h.1, neg_le_neg h.2⟩
  have hmono := eval_mono (c := ⟨c.points.map mirrored⟩) hrises hle
  rw [eval_mirrored, eval_mirrored] at hmono
  exact neg_le_neg_iff.mp hmono

end Falling

end Appraisal.Curve
