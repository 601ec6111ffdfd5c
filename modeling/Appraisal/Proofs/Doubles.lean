import Appraisal.Double
import Mathlib.Tactic.Common

/-!
# Double precision numbers

What comparisons say of numbers. They tell nothing about the undefined one, and order all others.
-/

namespace Appraisal.Double
open Float.Model

lemma thenCompare_self (m : Nat) (e : Int) : (compare e e).then (compare m m) = .eq := by
  rw [Int.compare_eq_eq.mpr rfl, Nat.compare_eq_eq.mpr rfl]
  rfl

lemma compare_self {u : UnpackedFloat} (h : u.isNaN = false) : u.compare u = some .eq := by
  cases u with
  | notANumber => cases h
  | infinity s => cases s <;> rfl
  | zero s => rfl
  | finite s m e hm =>
    cases s with
    | negative =>
      change some ((compare e e).then (compare m m)).swap = _
      rw [thenCompare_self]
      rfl
    | positive =>
      change some ((compare e e).then (compare m m)) = _
      rw [thenCompare_self]

lemma unpack_zero : (0.0 : Float).toModel.unpack = .zero .positive := rfl

lemma isNaN_of_isFinite {x : Float} (h : Arithmetic.isFinite x = true) :
    Arithmetic.isNaN x = false := by
  change x.toModel.unpack.isFinite = true at h
  change x.toModel.unpack.isNaN = false
  cases hx : x.toModel.unpack with
  | notANumber => rw [hx] at h; cases h
  | infinity s => rfl
  | zero s => rfl
  | finite s m e hm => rfl

section Order
variable {u v : UnpackedFloat} {x y lo hi : Float}

lemma thenCompare_swap (m m' : Nat) (e e' : Int) :
    (compare e' e).then (compare m' m) = ((compare e e').then (compare m m')).swap := by
  rw [Ordering.swap_then, Int.compare_swap, Nat.compare_swap]

lemma compare_swap (u v : UnpackedFloat) : v.compare u = (u.compare v).map Ordering.swap := by
  cases u with
  | notANumber => cases v <;> rfl
  | infinity s =>
    cases v with
    | notANumber => cases s <;> rfl
    | infinity t => cases s <;> cases t <;> rfl
    | zero t => cases s <;> rfl
    | finite t m e hm => cases s <;> rfl
  | zero s =>
    cases v with
    | notANumber => rfl
    | infinity t => cases t <;> rfl
    | zero t => rfl
    | finite t m e hm => cases t <;> rfl
  | finite s m e hm =>
    cases v with
    | notANumber => cases s <;> rfl
    | infinity t => cases s <;> cases t <;> rfl
    | zero t => cases s <;> rfl
    | finite t m' e' hm' =>
      cases s with
      | negative =>
        cases t with
        | negative => exact congrArg (fun o => some o.swap) (thenCompare_swap m m' e e')
        | positive => rfl
      | positive =>
        cases t with
        | negative => rfl
        | positive => exact congrArg some (thenCompare_swap m m' e e')

lemma exists_compare (hu : u.isNaN = false) (hv : v.isNaN = false) :
    ∃ o, u.compare v = some o := by
  cases u with
  | notANumber => cases hu
  | infinity s =>
    cases v with
    | notANumber => cases hv
    | infinity t => exact ⟨_, rfl⟩
    | zero t => cases s <;> exact ⟨_, rfl⟩
    | finite t m e hm => cases s <;> exact ⟨_, rfl⟩
  | zero s =>
    cases v with
    | notANumber => cases hv
    | infinity t => cases t <;> exact ⟨_, rfl⟩
    | zero t => exact ⟨_, rfl⟩
    | finite t m e hm => cases t <;> exact ⟨_, rfl⟩
  | finite s m e hm =>
    cases v with
    | notANumber => cases hv
    | infinity t => cases s <;> cases t <;> exact ⟨_, rfl⟩
    | zero t => cases s <;> exact ⟨_, rfl⟩
    | finite t m' e' hm' => cases s <;> cases t <;> exact ⟨_, rfl⟩

lemma le_iff : x ≤ y ↔ (x.toModel.unpack.compare y.toModel.unpack).any (·.isLE) = true := by
  change (decide (x.toModel ≤ y.toModel)) = true ↔ _
  rw [decide_eq_true_iff]
  rfl

lemma lt_iff : x < y ↔ x.toModel.unpack.compare y.toModel.unpack = some .lt := by
  change (decide (x.toModel < y.toModel)) = true ↔ _
  rw [decide_eq_true_iff]
  change (x.toModel.unpack.compare y.toModel.unpack == some .lt) = true ↔ _
  rw [beq_iff_eq]

lemma le_self (h : Arithmetic.isNaN x = false) : x ≤ x := by
  rw [le_iff, compare_self h]
  rfl

lemma le_of_lt (h : x < y) : x ≤ y := by
  rw [le_iff, lt_iff.mp h]
  rfl

lemma le_of_not_lt (hx : Arithmetic.isNaN x = false) (hy : Arithmetic.isNaN y = false)
    (h : ¬x < y) : y ≤ x := by
  obtain ⟨o, ho⟩ := exists_compare hx hy
  rw [lt_iff, ho] at h
  rw [le_iff, compare_swap, ho]
  cases o with
  | lt => exact absurd rfl h
  | eq => rfl
  | gt => rfl

lemma le_of_not_le (hx : Arithmetic.isNaN x = false) (hy : Arithmetic.isNaN y = false)
    (h : ¬x ≤ y) : y ≤ x := by
  apply le_of_not_lt hx hy
  intro hlt
  exact h (le_of_lt hlt)

lemma isNaN_of_le (h : x ≤ y) : Arithmetic.isNaN x = false ∧ Arithmetic.isNaN y = false := by
  rw [le_iff] at h
  change x.toModel.unpack.isNaN = false ∧ y.toModel.unpack.isNaN = false
  generalize x.toModel.unpack = u at h ⊢
  generalize y.toModel.unpack = v at h ⊢
  cases u with
  | notANumber => cases v <;> cases h
  | _ =>
    cases v with
    | notANumber => cases h
    | _ => exact ⟨rfl, rfl⟩

/-- A number that is moved into a range lies in it. -/
lemma clamp_mem (hx : Arithmetic.isNaN x = false) (h : lo ≤ hi) :
    lo ≤ Arithmetic.clamp lo hi x ∧ Arithmetic.clamp lo hi x ≤ hi := by
  obtain ⟨hlo, hhi⟩ := isNaN_of_le h
  have hraised : ∀ y : Float, Arithmetic.isNaN y = false → lo ≤ y →
      lo ≤ (if hi < y then hi else y) ∧ (if hi < y then hi else y) ≤ hi := by
    intro y hy hle
    split
    · exact ⟨h, le_self hhi⟩
    · rename_i hlt
      exact ⟨hle, le_of_not_lt hhi hy hlt⟩
  by_cases hlt : x < lo
  · rw [show Arithmetic.clamp lo hi x = if hi < lo then hi else lo from by
      simp only [Arithmetic.clamp, if_pos hlt]]
    exact hraised lo hlo (le_self hlo)
  · rw [show Arithmetic.clamp lo hi x = if hi < x then hi else x from by
      simp only [Arithmetic.clamp, if_neg hlt]]
    exact hraised x hx (le_of_not_lt hx hlo hlt)

end Order

end Appraisal.Double
