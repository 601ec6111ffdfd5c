import Appraisal.Money
import Appraisal.NumberText
import Mathlib.Algebra.Order.Field.Rat
import Mathlib.Algebra.Order.Round
import Mathlib.Data.Rat.Floor
import Mathlib.Tactic.GCongr
import Mathlib.Tactic.Linarith
import Mathlib.Tactic.NormNum

/-!
# Exact numbers

The rational numbers as a number type: nothing is rounded that the program does not round, every number is
finite, and only the exponential function is left open, since it has no rational values.
-/

namespace Appraisal

/-- What stands for the exponential function on the rational numbers. -/
class Exponential where
  exp : ℚ → ℚ

namespace Exact

/-- The nearest integer, a half going away from zero. -/
def nearest (x : ℚ) : ℤ := if 0 ≤ x then round x else -round (-x)

/-- The number without its fraction. -/
def whole (x : ℚ) : ℤ := if 0 ≤ x then ⌊x⌋ else ⌈x⌉

end Exact

instance [Exponential] : Arithmetic ℚ where
  decidableLT := inferInstance
  decidableLE := inferInstance
  ofInt n := n
  exp := Exponential.exp
  round x := Exact.nearest x
  toInt64 x := Int64.ofIntClamp (Exact.whole x)
  isNaN _ := false
  isFinite _ := true

namespace Exact

lemma whole_intCast (n : ℤ) : whole n = n := by
  unfold whole
  split
  · exact Int.floor_intCast n
  · exact Int.ceil_intCast n

lemma nearest_pos_iff (x : ℚ) : 0 < nearest x ↔ 1 / 2 ≤ x := by
  unfold nearest
  split
  · rw [round_eq, Int.floor_pos]
    constructor <;> intro h <;> linarith
  · rename_i hneg
    rw [round_eq, Int.neg_pos, Int.floor_lt_zero]
    constructor <;> intro h <;> linarith

lemma nearest_mono {x y : ℚ} (h : x ≤ y) : nearest x ≤ nearest y := by
  unfold nearest
  by_cases hx : 0 ≤ x
  · rw [if_pos hx, if_pos (hx.trans h), round_eq, round_eq]
    gcongr
  · rw [if_neg hx]
    have hnonpos : -round (-x) ≤ 0 := by
      rw [round_eq, neg_nonpos]
      exact Int.floor_nonneg.mpr (by linarith)
    split
    · rename_i hy
      have hnonneg : 0 ≤ round y := by
        rw [round_eq]
        exact Int.floor_nonneg.mpr (by linarith)
      exact hnonpos.trans hnonneg
    · rw [round_eq, round_eq]
      gcongr

/-- The nearest integer of 64 bits. -/
def saturate (n : ℤ) : ℤ := max (-2 ^ 63) (min n (2 ^ 63 - 1))

lemma saturate_mono {m n : ℤ} (h : m ≤ n) : saturate m ≤ saturate n := by
  unfold saturate
  omega

lemma toInt_ofIntClamp (n : ℤ) : (Int64.ofIntClamp n).toInt = saturate n := by
  have hmin : Int64.minValue.toInt = -2 ^ 63 := by decide
  have hmax : Int64.maxValue.toInt = 2 ^ 63 - 1 := by decide
  unfold Int64.ofIntClamp saturate
  split
  · rename_i hlow
    split
    · rename_i hhigh
      rw [Int64.toInt_ofIntLE]
      omega
    · omega
  · omega

/-- Saturation keeps the sign. -/
lemma ofIntClamp_pos_iff (n : ℤ) : 0 < Int64.ofIntClamp n ↔ 0 < n := by
  have hzero : (0 : Int64).toInt = 0 := rfl
  rw [Int64.lt_iff_toInt_lt, hzero, toInt_ofIntClamp, saturate]
  omega

variable [Exponential]

lemma clamp_mem {lo hi : ℚ} (h : lo ≤ hi) (x : ℚ) :
    lo ≤ Arithmetic.clamp lo hi x ∧ Arithmetic.clamp lo hi x ≤ hi := by
  unfold Arithmetic.clamp
  dsimp only
  split_ifs <;> constructor <;> linarith

lemma clamp_eq_self {lo hi x : ℚ} (hlow : lo ≤ x) (hhigh : x ≤ hi) : Arithmetic.clamp lo hi x = x := by
  unfold Arithmetic.clamp
  dsimp only
  rw [if_neg (not_lt.mpr hlow), if_neg (not_lt.mpr hhigh)]

lemma clamp_eq {lo hi : ℚ} (h : lo ≤ hi) (x : ℚ) : Arithmetic.clamp lo hi x = max lo (min hi x) := by
  rcases lt_or_ge x lo with hlow | hlow
  · rw [min_eq_right (by linarith), max_eq_left hlow.le]
    unfold Arithmetic.clamp
    dsimp only
    rw [if_pos hlow, if_neg (not_lt.mpr h)]
  · rcases lt_or_ge hi x with hhigh | hhigh
    · rw [min_eq_left hhigh.le, max_eq_right h]
      unfold Arithmetic.clamp
      dsimp only
      rw [if_neg (not_lt.mpr hlow), if_pos hhigh]
    · rw [min_eq_right hhigh, max_eq_right hlow, clamp_eq_self hlow hhigh]

lemma clamp_mono {lo hi x y : ℚ} (h : lo ≤ hi) (hle : x ≤ y) : Arithmetic.clamp lo hi x ≤ Arithmetic.clamp lo hi y := by
  rw [clamp_eq h, clamp_eq h]
  gcongr

lemma ofNat_mono {n m : ℕ} (h : n ≤ m) : (Arithmetic.ofNat n : ℚ) ≤ Arithmetic.ofNat m := by
  have hnumbers : ((n : ℤ) : ℚ) ≤ (m : ℤ) := by exact_mod_cast h
  exact hnumbers

lemma sum_eq (xs : List ℚ) : Arithmetic.sum xs = xs.sum := by
  have hzero : -(0.0 : ℚ) = 0 := by norm_num
  rw [List.sum_eq_foldl, ← hzero]
  rfl

lemma round?_eq (x : ℚ) : Cents.round? x = some ⟨Int64.ofIntClamp (nearest x)⟩ := by
  have hwhole : Cents.round? x = some ⟨Int64.ofIntClamp (whole (nearest x : ℚ))⟩ := rfl
  rw [hwhole, whole_intCast]

end Exact

lemma Cents.isPositive_iff (c : Cents) : c.isPositive = true ↔ 0 < c.value.toInt := by
  unfold isPositive
  rw [decide_eq_true_eq, Int64.lt_iff_toInt_lt]
  rfl

/-- A rational function that is one at zero, grows, and is positive everywhere. -/
@[reducible]
def gentleExponential : Exponential := ⟨fun t => if t ≤ 0 then 1 / (1 - t) else 1 + t⟩

@[reducible]
def fractionText : NumberText ℚ := ⟨toString, fun _ => toString, fun _ => toString, toString⟩

end Appraisal
