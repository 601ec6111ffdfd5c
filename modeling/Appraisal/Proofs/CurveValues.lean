import Appraisal.Proofs.Curves
import Mathlib.Data.List.Pairwise

/-!
# The values of curves

A curve is read without dividing by zero, also where points stand above one another, because a segment is read only
right of the point at which it starts. A curve whose points never fall, or never rise, does not turn and stays between
its two ends. Where no points stand above one another it passes through each of them.
-/

namespace Appraisal

/-- A rational number, or nothing when something was divided by zero on the way to it. -/
structure Guarded where
  number? : Option ℚ

namespace Guarded

def of (x : ℚ) : Guarded := ⟨some x⟩

def combine (operation : ℚ → ℚ → Option ℚ) (x y : Guarded) : Guarded :=
  ⟨x.number?.bind fun a => y.number?.bind (operation a)⟩

/-- Whether two numbers are there and compare in some way. -/
def compares (relation : ℚ → ℚ → Bool) (x y : Guarded) : Bool :=
  x.number?.any fun a => y.number?.any (relation a)

instance [Exponential] : Arithmetic Guarded where
  add := combine fun a b => some (a + b)
  sub := combine fun a b => some (a - b)
  mul := combine fun a b => some (a * b)
  div := combine fun a b => if b = 0 then none else some (a / b)
  neg x := ⟨x.number?.map (- ·)⟩
  lt x y := compares (· < ·) x y
  le x y := compares (· ≤ ·) x y
  beq := compares (· == ·)
  ofScientific m negative e := of (OfScientific.ofScientific m negative e)
  decidableLT x y := inferInstanceAs (Decidable (compares (· < ·) x y = true))
  decidableLE x y := inferInstanceAs (Decidable (compares (· ≤ ·) x y = true))
  ofInt n := of n
  exp x := ⟨x.number?.map Exponential.exp⟩
  round x := ⟨x.number?.map Arithmetic.round⟩
  toInt64 x := x.number?.elim 0 Arithmetic.toInt64
  isNaN x := x.number?.isNone
  isFinite x := x.number?.isSome

variable [Exponential] (x y : ℚ)

lemma of_add_of : of x + of y = of (x + y) := rfl

lemma of_sub_of : of x - of y = of (x - y) := rfl

lemma of_mul_of : of x * of y = of (x * y) := rfl

lemma of_div_of {y : ℚ} (h : y ≠ 0) : of x / of y = of (x / y) :=
  congrArg Guarded.mk (if_neg h)

lemma of_le_of : of x ≤ of y ↔ x ≤ y := by
  change decide (x ≤ y) = true ↔ _
  rw [decide_eq_true_eq]

end Guarded

namespace Curve
open Guarded (of)

/-- A point with guarded coordinates. -/
def guardedPoint (p : ℚ × ℚ) : Guarded × Guarded := (of p.1, of p.2)

/-- The curve through the same points, on which a division by zero shows. -/
def guarded (c : Curve ℚ) : Curve Guarded := ⟨c.points.map guardedPoint⟩

def Place.guarded : Place ℚ → Place Guarded
  | .level y => .level (of y)
  | .between left right => .between (guardedPoint left) (guardedPoint right)

variable [Exponential] {x : ℚ} {left right first : ℚ × ℚ} {rest : List (ℚ × ℚ)}

section Division

/-- The segment on which a quantity lies starts left of it and does not end before it. -/
lemma lt_of_placeAfter_eq_between {start stop : ℚ × ℚ} (hx : left.1 < x)
    (h : placeAfter left x rest = .between start stop) : start.1 < x ∧ x ≤ stop.1 := by
  -- Along the points: whenever the search goes on to the next point, the quantity lies right of that point.
  induction rest generalizing left with
  | nil => cases h
  | cons right rest ih =>
    unfold placeAfter at h
    split at h
    · rename_i hle
      obtain ⟨rfl, rfl⟩ := Place.between.inj h
      exact ⟨hx, hle⟩
    · rename_i hlt
      exact ih (not_le.mp hlt) h

lemma interpolate_guarded (h : left.1 < right.1) :
    interpolate (guardedPoint left) (guardedPoint right) (of x) = of (interpolate left right x) := by
  have hrun : right.1 - left.1 ≠ 0 := by linarith
  unfold interpolate guardedPoint
  simp only [Guarded.of_sub_of, Guarded.of_div_of _ hrun, Guarded.of_mul_of, Guarded.of_add_of]

lemma placeAfter_guarded :
    placeAfter (guardedPoint left) (of x) (rest.map guardedPoint) = (placeAfter left x rest).guarded := by
  induction rest generalizing left with
  | nil => rfl
  | cons right rest ih =>
    have hiff : of x ≤ (guardedPoint right).1 ↔ x ≤ right.1 := Guarded.of_le_of x right.1
    rw [List.map_cons]
    unfold placeAfter
    simp only [hiff]
    split
    · rfl
    · exact ih

lemma eval_guarded {c : Curve ℚ} (hne : c.points ≠ []) (x : ℚ) : c.guarded.eval (of x) = of (c.eval x) := by
  obtain ⟨points⟩ := c
  cases points with
  | nil => exact absurd rfl hne
  | cons first rest =>
    have hdefined : Arithmetic.isNaN (of x) = false := rfl
    have hiff : of x ≤ (guardedPoint first).1 ↔ x ≤ first.1 := Guarded.of_le_of x first.1
    rw [eval_cons]
    unfold eval place? guarded
    simp only [List.map_cons, hdefined, hiff, Bool.false_eq_true, if_false]
    by_cases hle : x ≤ first.1
    · simp only [hle, if_true]
      rfl
    · simp only [hle, if_false, placeAfter_guarded]
      cases hplace : placeAfter first x rest with
      | level y => rfl
      | between start stop =>
        obtain ⟨hstart, hstop⟩ := lt_of_placeAfter_eq_between (not_le.mp hle) hplace
        exact interpolate_guarded (hstart.trans_le hstop)

end Division

section Ends

lemma height_placeAfter_right (h : ∀ p ∈ rest, p.1 < x) :
    (placeAfter left x rest).height x = ((left :: rest).getLast (List.cons_ne_nil _ _)).2 := by
  induction rest generalizing left with
  | nil => rfl
  | cons right rest ih =>
    have hright : right.1 < x := h right List.mem_cons_self
    unfold placeAfter
    rw [if_neg (not_le.mpr hright), List.getLast_cons_cons]
    exact ih fun p hp => h p (List.mem_cons_of_mem _ hp)

variable {c : Curve ℚ} (hne : c.points ≠ [])

lemma eval_left (h : x ≤ (c.points.head hne).1) : c.eval x = (c.points.head hne).2 := by
  obtain ⟨points⟩ := c
  cases points with
  | nil => exact absurd rfl hne
  | cons first rest => rw [eval_cons, if_pos (show x ≤ first.1 from h), List.head_cons]

lemma eval_right (h : ∀ p ∈ c.points, p.1 < x) : c.eval x = (c.points.getLast hne).2 := by
  obtain ⟨points⟩ := c
  cases points with
  | nil => exact absurd rfl hne
  | cons first rest =>
    have hfirst : first.1 < x := h first List.mem_cons_self
    rw [eval_cons, if_neg (not_le.mpr hfirst)]
    exact height_placeAfter_right fun p hp => h p (List.mem_cons_of_mem _ hp)

/-- A quantity lies between two others at which the curve has reached its ends. -/
lemma exists_ends (hsorted : c.points.Pairwise fun p q => p.1 ≤ q.1) (x : ℚ) :
    ∃ x₀ x₁, x₀ ≤ x ∧ x ≤ x₁ ∧ c.eval x₀ = (c.points.head hne).2 ∧ c.eval x₁ = (c.points.getLast hne).2 := by
  refine ⟨min x (c.points.head hne).1, max x ((c.points.getLast hne).1 + 1), min_le_left _ _, le_max_left _ _,
    eval_left hne (min_le_right _ _), eval_right hne fun p hp => ?_⟩
  have : Std.Refl fun p q : ℚ × ℚ => p.1 ≤ q.1 := ⟨fun p => le_rfl⟩
  calc p.1 ≤ (c.points.getLast hne).1 := hsorted.rel_getLast hp
    _ < (c.points.getLast hne).1 + 1 := lt_add_one _
    _ ≤ max x ((c.points.getLast hne).1 + 1) := le_max_right _ _

end Ends

section Points

lemma height_placeAfter_mem (hstrict : (left :: rest).Pairwise fun p q => p.1 < q.1) {p : ℚ × ℚ} (hp : p ∈ rest) :
    (placeAfter left p.1 rest).height p.1 = p.2 := by
  induction rest generalizing left with
  | nil => cases hp
  | cons right rest ih =>
    obtain ⟨hleft, hrest⟩ := List.pairwise_cons.mp hstrict
    unfold placeAfter
    rcases List.mem_cons.mp hp with rfl | hmem
    · rw [if_pos le_rfl]
      exact interpolate_right (hleft p List.mem_cons_self)
    · have hpast : right.1 < p.1 := (List.pairwise_cons.mp hrest).1 p hmem
      rw [if_neg (not_le.mpr hpast)]
      exact ih hrest hmem

lemma eval_mem {c : Curve ℚ} (hstrict : c.points.Pairwise fun p q => p.1 < q.1) {p : ℚ × ℚ} (hp : p ∈ c.points) :
    c.eval p.1 = p.2 := by
  obtain ⟨points⟩ := c
  cases points with
  | nil => cases hp
  | cons first rest =>
    rw [eval_cons]
    rcases List.mem_cons.mp hp with rfl | hmem
    · rw [if_pos le_rfl]
    · have hpast : first.1 < p.1 := (List.pairwise_cons.mp hstrict).1 p hmem
      rw [if_neg (not_le.mpr hpast)]
      exact height_placeAfter_mem hstrict hmem

end Points

/-- A curve through points in order is read without dividing by zero. If the points never fall it never falls, if they
never rise it never rises, and in both cases it stays between the heights of its ends. If no points stand above one
another it passes through all of them. -/
theorem eval_runs_between_ends (c : Curve ℚ) (hne : c.points ≠ [])
    (hsorted : c.points.Pairwise fun p q => p.1 ≤ q.1) :
    (∀ x, c.guarded.eval (of x) = of (c.eval x)) ∧
    (c.points.Pairwise (fun p q => p.2 ≤ q.2) →
      Monotone c.eval ∧ ∀ x, (c.points.head hne).2 ≤ c.eval x ∧ c.eval x ≤ (c.points.getLast hne).2) ∧
    (c.points.Pairwise (fun p q => q.2 ≤ p.2) →
      Antitone c.eval ∧ ∀ x, (c.points.getLast hne).2 ≤ c.eval x ∧ c.eval x ≤ (c.points.head hne).2) ∧
    (c.points.Pairwise (fun p q => p.1 < q.1) → ∀ p ∈ c.points, c.eval p.1 = p.2) := by
  refine ⟨eval_guarded hne, fun hrise => ?_, fun hfall => ?_, fun hstrict p hp => eval_mem hstrict hp⟩
  · have hmono : Monotone c.eval := fun _ _ => eval_mono (hsorted.and hrise).isChain
    refine ⟨hmono, fun x => ?_⟩
    obtain ⟨x₀, x₁, hle, hle', hfirst, hlast⟩ := exists_ends hne hsorted x
    exact ⟨hfirst.ge.trans (hmono hle), (hmono hle').trans hlast.le⟩
  · have hanti : Antitone c.eval := fun _ _ => eval_anti (hsorted.and hfall).isChain
    refine ⟨hanti, fun x => ?_⟩
    obtain ⟨x₀, x₁, hle, hle', hfirst, hlast⟩ := exists_ends hne hsorted x
    exact ⟨hlast.ge.trans (hanti hle'), (hanti hle).trans hfirst.le⟩

omit [Exponential]

/-- A curve with a jump: two points stand above one another at 10. -/
def jump : Curve ℚ := ⟨[(0, 0), (10, 30), (10, 70), (20, 100)]⟩

def slope : Curve ℚ := ⟨[(0, 100), (30, 90), (365, 10)]⟩

/-- At its jump a curve has the height of the lower point, and right of it that of the upper one or more. A slope
passes through its points. -/
theorem jump_runs_between_ends :
    letI := gentleExponential
    (jump.points ≠ [] ∧ jump.points.Pairwise (fun p q => p.1 ≤ q.1) ∧
      jump.points.Pairwise (fun p q => p.2 ≤ q.2) ∧ Monotone jump.eval ∧
      (0 ≤ jump.eval 10 ∧ jump.eval 10 ≤ 100) ∧ jump.guarded.eval (of 10) = of (jump.eval 10)) ∧
    slope.points ≠ [] ∧ slope.points.Pairwise (fun p q => p.1 ≤ q.1) ∧
      slope.points.Pairwise (fun p q => q.2 ≤ p.2) ∧ slope.points.Pairwise (fun p q => p.1 < q.1) ∧
      Antitone slope.eval ∧ (10 ≤ slope.eval 200 ∧ slope.eval 200 ≤ 100) ∧ slope.eval 30 = 90 := by
  let _ := gentleExponential
  have hjump : jump.points ≠ [] := by decide
  have hsorted : jump.points.Pairwise fun p q => p.1 ≤ q.1 := by norm_num [jump]
  have hrise : jump.points.Pairwise fun p q => p.2 ≤ q.2 := by norm_num [jump]
  have hslope : slope.points ≠ [] := by decide
  have hstrict : slope.points.Pairwise fun p q => p.1 < q.1 := by norm_num [slope]
  have hfall : slope.points.Pairwise fun p q => q.2 ≤ p.2 := by norm_num [slope]
  obtain ⟨hguarded, hrising, -, -⟩ := eval_runs_between_ends jump hjump hsorted
  obtain ⟨-, -, hfalling, hpoints⟩ := eval_runs_between_ends slope hslope (hstrict.imp le_of_lt)
  exact ⟨⟨hjump, hsorted, hrise, (hrising hrise).1, (hrising hrise).2 10, hguarded 10⟩,
    hslope, hstrict.imp le_of_lt, hfall, hstrict, (hfalling hfall).1, (hfalling hfall).2 200,
    hpoints hstrict (30, 90) (by simp [slope])⟩

end Curve
end Appraisal
