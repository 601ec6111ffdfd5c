import Mathlib.Algebra.Group.Nat.Defs
import Mathlib.Tactic.Common

/-!
# Rounding

How large a number can become when it is rounded, packed and read again. A number is measured by
the power of two above it, and rounding moves it by at most one power.
-/

namespace Appraisal.Double
open Float.Model Float.Model.UnpackedFloat

/-- Zero, or finite and less than `2 ^ k` in size. -/
def IsBelow (k : Int) : UnpackedFloat → Prop
  | .zero _ => True
  | .finite _ m e _ => totalExponent m e ≤ k
  | .infinity _ | .notANumber => False

/-- Finite and at least `2 ^ k` in size. -/
def IsAtLeast (k : Int) : UnpackedFloat → Prop
  | .finite _ m e _ => k < totalExponent m e
  | _ => False

/-- Finite with a full mantissa, and at least `2 ^ k` in size. -/
def IsWide (k : Int) : UnpackedFloat → Prop
  | .finite _ m e _ => m.log2 = 52 ∧ k < totalExponent m e
  | _ => False

instance (k : Int) : DecidablePred (IsBelow k)
  | .zero _ => inferInstanceAs (Decidable True)
  | .finite _ m e _ => inferInstanceAs (Decidable (totalExponent m e ≤ k))
  | .infinity _ | .notANumber => inferInstanceAs (Decidable False)

instance (k : Int) : DecidablePred (IsAtLeast k)
  | .finite _ m e _ => inferInstanceAs (Decidable (k < totalExponent m e))
  | .zero _ | .infinity _ | .notANumber => inferInstanceAs (Decidable False)

lemma IsBelow.mono {k l : Int} {u : UnpackedFloat} (h : IsBelow k u) (hkl : k ≤ l) :
    IsBelow l u := by
  cases u with
  | zero s => trivial
  | finite s m e hm => exact Int.le_trans h hkl
  | infinity s => exact h
  | notANumber => exact h

lemma IsWide.mono {k l : Int} {u : UnpackedFloat} (h : IsWide l u) (hkl : k ≤ l) : IsWide k u := by
  cases u with
  | finite s m e hm => exact ⟨h.1, Int.lt_of_le_of_lt hkl h.2⟩
  | zero s => exact h
  | infinity s => exact h
  | notANumber => exact h

section Exponents
variable {m n : Nat} {e k : Int}

lemma totalExponent_le (hn : 0 < n) (h : m < 2 ^ n) : totalExponent m e ≤ n + e := by
  unfold totalExponent
  by_cases hm : m = 0
  · subst hm
    rw [Nat.log2_zero]
    omega
  · have hlog := (Nat.log2_lt hm).mpr h
    omega

lemma lt_of_totalExponent_le (h : totalExponent m e ≤ k) : m < 2 ^ (k - e).toNat := by
  unfold totalExponent at h
  calc m < 2 ^ (m.log2 + 1) := Nat.lt_log2_self
    _ ≤ 2 ^ (k - e).toNat := Nat.pow_le_pow_right (by decide) (by omega)

lemma lt_totalExponent : e < totalExponent m e := by
  unfold totalExponent
  omega

lemma log2_shiftLeft (hm : m ≠ 0) : (m <<< n).log2 = m.log2 + n := by
  rw [Nat.log2_eq_iff (by simpa using hm), Nat.shiftLeft_eq]
  have hle := Nat.log2_self_le hm
  have hlt := @Nat.lt_log2_self m
  constructor
  · rw [Nat.pow_add]
    exact Nat.mul_le_mul_right _ hle
  · rw [show m.log2 + n + 1 = m.log2 + 1 + n by omega, Nat.pow_add 2 (m.log2 + 1)]
    exact Nat.mul_lt_mul_of_pos_right hlt (Nat.two_pow_pos n)

lemma log2_div_two_pow (h : n ≤ m.log2) (hm : m ≠ 0) : (m / 2 ^ n).log2 = m.log2 - n := by
  have hle : 2 ^ (m.log2 - n) ≤ m / 2 ^ n := by
    rw [Nat.le_div_iff_mul_le (Nat.two_pow_pos n), ← Nat.pow_add, Nat.sub_add_cancel h]
    exact Nat.log2_self_le hm
  have hlt : m / 2 ^ n < 2 ^ (m.log2 - n + 1) := by
    rw [Nat.div_lt_iff_lt_mul (Nat.two_pow_pos n), ← Nat.pow_add,
      show m.log2 - n + 1 + n = m.log2 + 1 by omega]
    exact Nat.lt_log2_self
  have hpos := Nat.two_pow_pos (m.log2 - n)
  exact (Nat.log2_eq_iff (by omega)).mpr ⟨hle, hlt⟩

lemma targetExponent_eq (t : Int) : Format.binary64.targetExponent t = max (t - 53) (-1074) := rfl

end Exponents

section Shifting

lemma shiftRight_mantissa (em : ExtendedMantissa) (n : Nat) :
    (em >>> n).mantissa = em.mantissa / 2 ^ n := by
  change (Nat.repeat ExtendedMantissa.shiftRightOne n em).mantissa = _
  induction n with
  | zero => simp [Nat.repeat]
  | succ n ih =>
    change (Nat.repeat ExtendedMantissa.shiftRightOne n em).mantissa / 2 = _
    rw [ih, Nat.div_div_eq_div_mul, Nat.pow_succ]

lemma le_roundedMantissa (em : ExtendedMantissa) : em.mantissa ≤ em.roundedMantissa := by
  obtain ⟨m, r, s⟩ := em
  cases r <;> cases s <;>
    simp [ExtendedMantissa.roundedMantissa, ExtendedMantissa.accuracy, Accuracy.roundToNearestEven]

lemma roundedMantissa_le (em : ExtendedMantissa) : em.roundedMantissa ≤ em.mantissa + 1 := by
  obtain ⟨m, r, s⟩ := em
  cases r <;> cases s <;>
    simp [ExtendedMantissa.roundedMantissa, ExtendedMantissa.accuracy, Accuracy.roundToNearestEven]
  omega

lemma ofMantissaAndAccuracy_mantissa (m : Nat) (a : Accuracy) :
    (ExtendedMantissa.ofMantissaAndAccuracy m a).mantissa = m := by
  cases a with
  | exact => rfl
  | inexact o => cases o <;> rfl

variable (m : Nat) (e : Int) (a : Accuracy)

/-- By how many places a mantissa is moved to fit. -/
def shiftAmount (m : Nat) (e : Int) : Nat :=
  (Format.binary64.targetExponent (totalExponent m e) - e).toNat

lemma shifted_mantissa :
    (shiftToTargetExponent Format.binary64 m e a).1.mantissa = m / 2 ^ shiftAmount m e := by
  unfold shiftToTargetExponent shiftToExponent
  rw [shiftRight_mantissa, ofMantissaAndAccuracy_mantissa]
  rfl

variable {m e} {k : Int}

lemma add_shiftAmount_le (h : totalExponent m e ≤ k) (hk : -1000 ≤ k) :
    e + shiftAmount m e ≤ k := by
  have he := @lt_totalExponent m e
  unfold shiftAmount
  rw [targetExponent_eq]
  omega

lemma div_shiftAmount_lt (h : totalExponent m e ≤ k) (hk : -1000 ≤ k) :
    m / 2 ^ shiftAmount m e < 2 ^ (k - (e + shiftAmount m e)).toNat := by
  have hs := add_shiftAmount_le h hk
  rw [Nat.div_lt_iff_lt_mul (Nat.two_pow_pos _), ← Nat.pow_add]
  calc m < 2 ^ (k - e).toNat := lt_of_totalExponent_le h
    _ = _ := by congr 1; omega

lemma rounded_totalExponent_le (h : totalExponent m e ≤ k) (hk : -1000 ≤ k) :
    totalExponent (shiftToTargetExponent Format.binary64 m e a).1.roundedMantissa
      (e + shiftAmount m e) ≤ k + 1 := by
  have hs := add_shiftAmount_le h hk
  have hlt := div_shiftAmount_lt h hk
  have hr := roundedMantissa_le (shiftToTargetExponent Format.binary64 m e a).1
  rw [shifted_mantissa] at hr
  have hbound : (shiftToTargetExponent Format.binary64 m e a).1.roundedMantissa <
      2 ^ ((k - (e + shiftAmount m e)).toNat + 1) := by
    rw [Nat.pow_succ]
    have := Nat.two_pow_pos (k - (e + shiftAmount m e)).toNat
    omega
  have hle := totalExponent_le (e := e + shiftAmount m e) (Nat.succ_pos _) hbound
  omega

/-- The number with a mantissa that may be zero. -/
def ofParts (s : Sign) (m : Nat) (e : Int) : UnpackedFloat :=
  if h : m = 0 then .zero s else .finite s m e (Nat.pos_of_ne_zero h)

lemma ofParts_isBelow (s : Sign) (h : m ≠ 0 → totalExponent m e ≤ k) :
    IsBelow k (ofParts s m e) := by
  unfold ofParts
  by_cases hm : m = 0
  · rw [dif_pos hm]
    trivial
  · rw [dif_neg hm]
    exact h hm

/-- A mantissa is moved and rounded, and then moved once more because rounding may have made it
longer. -/
lemma roundWithAccuracy_eq (s : Sign) (m : Nat) (e : Int) :
    roundWithAccuracy Format.binary64 s m e a =
      let r := (shiftToTargetExponent Format.binary64 m e a).1.roundedMantissa
      let e₁ := e + shiftAmount m e
      ofParts s (r / 2 ^ shiftAmount r e₁) (e₁ + shiftAmount r e₁) := by
  change ofParts s (shiftToTargetExponent Format.binary64 _ _ .exact).1.mantissa
    (shiftToTargetExponent Format.binary64 _ _ .exact).2 = _
  rw [shifted_mantissa]
  rfl

/-- Rounding moves a number by at most one power of two. -/
lemma roundWithAccuracy_isBelow (s : Sign) (h : totalExponent m e ≤ k) (hk : -1000 ≤ k) :
    IsBelow (k + 1) (roundWithAccuracy Format.binary64 s m e a) := by
  rw [roundWithAccuracy_eq]
  have hr := rounded_totalExponent_le a h hk
  have hs := add_shiftAmount_le hr (by omega)
  have hlt := div_shiftAmount_lt hr (by omega)
  apply ofParts_isBelow
  intro hne
  have hlog := (Nat.log2_lt hne).mpr hlt
  unfold totalExponent
  omega

lemma ofParts_isWide (s : Sign) (hm : m.log2 = 52) (h : k < totalExponent m e) :
    IsWide k (ofParts s m e) := by
  unfold ofParts
  by_cases hzero : m = 0
  · rw [hzero, Nat.log2_zero] at hm
    omega
  · rw [dif_neg hzero]
    exact ⟨hm, h⟩

/-- A mantissa with bits to spare is cut to full length. -/
lemma shiftAmount_of_wide (hm : 52 ≤ m.log2) (h : -1021 ≤ totalExponent m e) :
    shiftAmount m e = m.log2 - 52 := by
  unfold shiftAmount
  rw [targetExponent_eq]
  unfold totalExponent at *
  omega

lemma roundWithAccuracy_isWide (s : Sign) (hm : 52 ≤ m.log2) (hk : -1022 ≤ k)
    (h : k < totalExponent m e) : IsWide k (roundWithAccuracy Format.binary64 s m e a) := by
  have hne : m ≠ 0 := by
    rintro rfl
    rw [Nat.log2_zero] at hm
    omega
  have hshift := shiftAmount_of_wide (e := e) hm (by omega)
  have hcut : (m / 2 ^ (m.log2 - 52)).log2 = 52 := by
    rw [log2_div_two_pow (Nat.sub_le _ _) hne]
    omega
  have hcutne : m / 2 ^ (m.log2 - 52) ≠ 0 := by
    intro hzero
    rw [hzero, Nat.log2_zero] at hcut
    omega
  have hle := le_roundedMantissa (shiftToTargetExponent Format.binary64 m e a).1
  rw [shifted_mantissa, hshift] at hle
  rw [roundWithAccuracy_eq, hshift]
  generalize (shiftToTargetExponent Format.binary64 m e a).1.roundedMantissa = r at hle ⊢
  have hrne : r ≠ 0 := by
    rintro rfl
    exact hcutne (Nat.le_zero.mp hle)
  have hr : 52 ≤ r.log2 := by
    rw [Nat.le_log2 hrne]
    exact Nat.le_trans ((Nat.log2_eq_iff hcutne).mp hcut).1 hle
  -- The second move takes back the place that a carry of the rounding has added.
  have htotal : totalExponent r (e + (m.log2 - 52 : Nat)) =
      totalExponent m e + (r.log2 - 52 : Nat) := by
    unfold totalExponent
    omega
  have hshift' : shiftAmount r (e + (m.log2 - 52 : Nat)) = r.log2 - 52 :=
    shiftAmount_of_wide hr (by omega)
  have hlog : (r / 2 ^ (r.log2 - 52)).log2 = 52 := by
    rw [log2_div_two_pow (Nat.sub_le _ _) hrne]
    omega
  simp only [hshift']
  apply ofParts_isWide s hlog
  unfold totalExponent at h ⊢
  omega

end Shifting

section Operations
variable {k l : Int} {u v : UnpackedFloat}

lemma mul_isBelow (hu : IsBelow k u) (hv : IsBelow l v) (h : -1000 ≤ k + l) :
    IsBelow (k + l + 1) (mul Format.binary64 u v) := by
  cases u with
  | infinity s => cases hu
  | notANumber => cases hu
  | zero s =>
    cases v with
    | infinity s => cases hv
    | notANumber => cases hv
    | zero s => trivial
    | finite s m e hm => trivial
  | finite s₁ m₁ e₁ hm₁ =>
    cases v with
    | infinity s => cases hv
    | notANumber => cases hv
    | zero s => trivial
    | finite s₂ m₂ e₂ hm₂ =>
      apply roundWithAccuracy_isBelow _ _ _ h
      have h₁ : m₁.log2 + 1 + e₁ ≤ k := hu
      have h₂ : m₂.log2 + 1 + e₂ ≤ l := hv
      have hlt : m₁ * m₂ < 2 ^ (m₁.log2 + 1 + (m₂.log2 + 1)) := by
        rw [Nat.pow_add]
        exact Nat.mul_lt_mul_of_lt_of_lt Nat.lt_log2_self Nat.lt_log2_self
      have hle := totalExponent_le (e := e₁ + e₂) (by omega) hlt
      omega

lemma mul_isWide (hu : IsWide k u) (hv : IsAtLeast l v) (h : -1022 ≤ k + l) :
    IsWide (k + l) (mul Format.binary64 u v) := by
  cases u with
  | infinity s => cases hu
  | notANumber => cases hu
  | zero s => cases hu
  | finite s₁ m₁ e₁ hm₁ =>
    cases v with
    | infinity s => cases hv
    | notANumber => cases hv
    | zero s => cases hv
    | finite s₂ m₂ e₂ hm₂ =>
      obtain ⟨hlog, h₁⟩ := hu
      have h₂ : l < totalExponent m₂ e₂ := hv
      have hle : 2 ^ (m₁.log2 + m₂.log2) ≤ m₁ * m₂ := by
        rw [Nat.pow_add]
        exact Nat.mul_le_mul (Nat.log2_self_le (by omega)) (Nat.log2_self_le (by omega))
      have hprod := (Nat.le_log2 (Nat.ne_of_gt (Nat.mul_pos hm₁ hm₂))).mpr hle
      apply roundWithAccuracy_isWide _ _ (by omega) h
      unfold totalExponent at *
      omega

lemma shiftLeft_totalExponent {m : Nat} (hm : m ≠ 0) (n : Nat) (e : Int) :
    totalExponent (m <<< n) (e - n) = totalExponent m e := by
  unfold totalExponent
  rw [log2_shiftLeft hm]
  omega

lemma round_isBelow (s : Sign) {m : Nat} {e : Int} (hm : m ≠ 0) (h : totalExponent m e ≤ k)
    (hk : -1000 ≤ k) : IsBelow (k + 1) (round Format.binary64 s m e) := by
  apply roundWithAccuracy_isBelow _ _ _ hk
  rw [shiftLeft_totalExponent hm]
  exact h

lemma round_isWide (s : Sign) {m : Nat} {e : Int} (hm : m ≠ 0) (h : k < totalExponent m e)
    (hk : -1022 ≤ k) : IsWide k (round Format.binary64 s m e) := by
  apply roundWithAccuracy_isWide _ _ _ hk
  · rw [shiftLeft_totalExponent hm]
    exact h
  · rw [log2_shiftLeft hm, targetExponent_eq]
    unfold totalExponent at *
    omega

lemma normalize_isBelow {m : Int} {e : Int} (s : Sign) (h : m.natAbs < 2 ^ (k - e).toNat)
    (he : e < k) (hk : -1000 ≤ k) : IsBelow (k + 1) (normalize Format.binary64 m e s) := by
  have hle {n : Nat} (hn : n < 2 ^ (k - e).toNat) : totalExponent n e ≤ k := by
    have := totalExponent_le (e := e) (by omega) hn
    omega
  unfold UnpackedFloat.normalize
  split
  · rename_i hlt
    rw [Int.compare_eq_lt] at hlt
    exact round_isBelow _ (by omega) (hle (by omega)) hk
  · trivial
  · rename_i hgt
    rw [Int.compare_eq_gt] at hgt
    exact round_isBelow _ (by omega) (hle (by omega)) hk

lemma aligned_lt {m : Nat} {e t : Int} (h : totalExponent m e ≤ k) (ht : t ≤ e) :
    m <<< (e - t).toNat < 2 ^ (k - t).toNat := by
  have he := @lt_totalExponent m e
  have hm := lt_of_totalExponent_le h
  rw [Nat.shiftLeft_eq, show (k - t).toNat = (k - e).toNat + (e - t).toNat by omega, Nat.pow_add]
  exact Nat.mul_lt_mul_of_pos_right hm (Nat.two_pow_pos _)

lemma natAbs_apply (s : Sign) (n : Int) : (s.apply n).natAbs = n.natAbs := by
  cases s with
  | negative => exact Int.natAbs_neg n
  | positive => rfl

/-- A sum of two numbers that are written with the lesser of their exponents. -/
lemma normalize_isBelow_of_aligned {m₁ m₂ : Nat} {e₁ e₂ n : Int} (s : Sign)
    (h₁ : totalExponent m₁ e₁ ≤ k) (h₂ : totalExponent m₂ e₂ ≤ k) (hk : -1000 ≤ k)
    (hn : n.natAbs ≤ m₁ <<< (e₁ - min e₁ e₂).toNat + m₂ <<< (e₂ - min e₁ e₂).toNat) :
    IsBelow (k + 2) (normalize Format.binary64 n (min e₁ e₂) s) := by
  have he₁ := @lt_totalExponent m₁ e₁
  have ha₁ := aligned_lt h₁ (Int.min_le_left e₁ e₂)
  have ha₂ := aligned_lt h₂ (Int.min_le_right e₁ e₂)
  have hpow : 2 ^ (k + 1 - min e₁ e₂).toNat = 2 ^ (k - min e₁ e₂).toNat * 2 := by
    rw [show (k + 1 - min e₁ e₂).toNat = (k - min e₁ e₂).toNat + 1 by omega, Nat.pow_succ]
  have hlt : n.natAbs < 2 ^ (k + 1 - min e₁ e₂).toNat := by omega
  have hbelow := normalize_isBelow s hlt (by omega) (by omega)
  rwa [show k + 1 + 1 = k + 2 by omega] at hbelow

lemma add_isBelow (hu : IsBelow k u) (hv : IsBelow k v) (hk : -1000 ≤ k) :
    IsBelow (k + 2) (add Format.binary64 u v) := by
  cases u with
  | infinity s => cases hu
  | notANumber => cases hu
  | zero s₁ =>
    cases v with
    | infinity s => cases hv
    | notANumber => cases hv
    | zero s₂ =>
      change IsBelow _ (if s₁ == s₂ then .zero s₁ else .zero .positive)
      split <;> trivial
    | finite s m e hm => exact hv.mono (by omega)
  | finite s₁ m₁ e₁ hm₁ =>
    cases v with
    | infinity s => cases hv
    | notANumber => cases hv
    | zero s => exact hu.mono (by omega)
    | finite s₂ m₂ e₂ hm₂ =>
      apply normalize_isBelow_of_aligned _ hu hv hk
      have hsum := Int.natAbs_add_le (s₁.apply (m₁ <<< (e₁ - min e₁ e₂).toNat : Nat))
        (s₂.apply (m₂ <<< (e₂ - min e₁ e₂).toNat : Nat))
      rw [natAbs_apply, natAbs_apply] at hsum
      exact hsum

lemma neg_isBelow (hu : IsBelow k u) : IsBelow k u.neg := by
  cases u with
  | infinity s => cases hu
  | notANumber => cases hu
  | zero s => trivial
  | finite s m e hm => exact hu

lemma apply_neg (s : Sign) (n : Int) : (-s).apply n = -s.apply n := by
  cases s with
  | negative => exact (Int.neg_neg n).symm
  | positive => rfl

lemma sub_eq_add_neg (u v : UnpackedFloat) :
    sub Format.binary64 u v = add Format.binary64 u v.neg := by
  cases u with
  | notANumber => rfl
  | infinity s =>
    cases v with
    | infinity t => cases s <;> cases t <;> rfl
    | _ => rfl
  | zero s =>
    cases v with
    | zero t => rfl
    | _ => rfl
  | finite s m e hm =>
    cases v with
    | finite t n f hn =>
      change normalize _ (s.apply _ - t.apply _) _ _ = normalize _ (s.apply _ + (-t).apply _) _ _
      rw [apply_neg]
      rfl
    | _ => rfl

lemma sub_isBelow (hu : IsBelow k u) (hv : IsBelow k v) (hk : -1000 ≤ k) :
    IsBelow (k + 2) (sub Format.binary64 u v) := by
  rw [sub_eq_add_neg]
  exact add_isBelow hu (neg_isBelow hv) hk

lemma divCore_totalExponent_le {m₁ m₂ : Nat} {e₁ e₂ : Int} (h₁ : totalExponent m₁ e₁ ≤ k)
    (h₂ : l < totalExponent m₂ e₂) (hm₂ : m₂ ≠ 0) (hkl : -1000 ≤ k - l) :
    totalExponent (divCore Format.binary64 m₁ e₁ m₂ e₂).1
      (divCore Format.binary64 m₁ e₁ m₂ e₂).2.1 ≤ k - l := by
  unfold divCore
  simp only [targetExponent_eq]
  generalize ht : min (e₁ - e₂) (max (totalExponent m₁ e₁ - totalExponent m₂ e₂ - 53) (-1074)) = t
  have hlt : m₁ <<< (e₁ - e₂ - t).toNat / m₂ < 2 ^ (k - l - t).toNat := by
    rw [Nat.div_lt_iff_lt_mul (by omega), Nat.shiftLeft_eq]
    unfold totalExponent at h₁ h₂
    calc m₁ * 2 ^ (e₁ - e₂ - t).toNat
        < 2 ^ (m₁.log2 + 1) * 2 ^ (e₁ - e₂ - t).toNat :=
          Nat.mul_lt_mul_of_pos_right Nat.lt_log2_self (Nat.two_pow_pos _)
      _ = 2 ^ (m₁.log2 + 1 + (e₁ - e₂ - t).toNat) := (Nat.pow_add ..).symm
      _ ≤ 2 ^ ((k - l - t).toNat + m₂.log2) := Nat.pow_le_pow_right (by decide) (by omega)
      _ = 2 ^ (k - l - t).toNat * 2 ^ m₂.log2 := Nat.pow_add ..
      _ ≤ 2 ^ (k - l - t).toNat * m₂ := Nat.mul_le_mul_left _ (Nat.log2_self_le hm₂)
  have hle := totalExponent_le (e := t) (by omega) hlt
  omega

lemma div_isBelow (hu : IsBelow k u) (hv : IsAtLeast l v) (h : -1000 ≤ k - l) :
    IsBelow (k - l + 1) (div Format.binary64 u v) := by
  cases v with
  | infinity s => cases hv
  | notANumber => cases hv
  | zero s => cases hv
  | finite s₂ m₂ e₂ hm₂ =>
    cases u with
    | infinity s => cases hu
    | notANumber => cases hu
    | zero s => trivial
    | finite s₁ m₁ e₁ hm₁ =>
      exact roundWithAccuracy_isBelow _ _
        (divCore_totalExponent_le hu hv (Nat.ne_of_gt hm₂) h) h

end Operations

section Packing
variable {k l : Int} {u : UnpackedFloat}

lemma toNat_append_lt (m : BitVec 52) : (1#1 ++ m).toNat < 2 ^ 53 := (1#1 ++ m).isLt

lemma le_toNat_append (m : BitVec 52) : 2 ^ 52 ≤ (1#1 ++ m).toNat := by
  rw [BitVec.toNat_append]
  exact Nat.left_le_or

lemma toNat_append_log2 (m : BitVec 52) : (1#1 ++ m).toNat.log2 = 52 := by
  have hle := le_toNat_append m
  exact (Nat.log2_eq_iff (by omega)).mpr ⟨hle, toNat_append_lt m⟩

/-- The number with these sign, exponent and mantissa bits. -/
def decoded (s : Sign) (c : BitVec 11) (m : BitVec 52) : UnpackedFloat :=
  if c = -1#11 then
    if m = 0#52 then .infinity s else .notANumber
  else if c = 0#11 then ofParts s m.toNat (-1074)
  else ofParts s (1#1 ++ m).toNat (c.toNat - 1075)

lemma unpack_eq_decoded (b : BitVec 64) :
    UnpackedFloat.unpack Format.binary64 b =
      decoded (Sign.ofBitVec (@unpackSign Format.binary64 b)) (@unpackExponent Format.binary64 b)
        (@unpackMantissa Format.binary64 b) := by
  unfold UnpackedFloat.unpack decoded
  dsimp only
  by_cases hones : @unpackExponent Format.binary64 b = -1#11
  · rw [if_pos hones, if_pos hones]
  · rw [if_neg hones, if_neg hones]
    by_cases hzero : @unpackExponent Format.binary64 b = 0#11
    · rw [if_pos hzero, if_pos hzero, hzero]
      unfold ofParts
      by_cases hm : @unpackMantissa Format.binary64 b = 0#52
      · rw [dif_pos hm, hm]
        rfl
      · have hne : (@unpackMantissa Format.binary64 b).toNat ≠ 0 := by
          intro h
          exact hm (BitVec.eq_of_toNat_eq h)
        rw [dif_neg hm, dif_neg hne]
        rfl
    · have hle := le_toNat_append (@unpackMantissa Format.binary64 b)
      have hne : (1#1 ++ @unpackMantissa Format.binary64 b).toNat ≠ 0 := by omega
      rw [if_neg hzero, if_neg hzero]
      unfold ofParts
      rw [dif_neg hne]
      rfl

lemma decoded_isBelow (s : Sign) (c : BitVec 11) (m : BitVec 52) (hc : c ≠ -1#11) :
    IsBelow (c.toNat - 1022) (decoded s c m) := by
  unfold decoded
  rw [if_neg hc]
  split
  · rename_i hzero
    have hle := totalExponent_le (e := -1074) (by decide) m.isLt
    apply ofParts_isBelow
    intro _
    omega
  · have hle := totalExponent_le (e := c.toNat - 1075) (by decide) (toNat_append_lt m)
    apply ofParts_isBelow
    intro _
    omega

lemma decoded_isWide (s : Sign) (c : BitVec 11) (m : BitVec 52) (hc : c ≠ -1#11)
    (hc' : c ≠ 0#11) : IsWide (c.toNat - 1023) (decoded s c m) := by
  have hlog := toNat_append_log2 m
  unfold decoded
  rw [if_neg hc, if_neg hc']
  apply ofParts_isWide s hlog
  unfold totalExponent
  omega

lemma unpack_components (s : Sign) (c : BitVec 11) (m : BitVec 52) :
    ∃ t, UnpackedFloat.unpack Format.binary64 (packComponents Format.binary64 s c m) =
      decoded t c m := by
  rw [unpack_eq_decoded, unpackExponent_packComponents, unpackMantissa_packComponents]
  exact ⟨_, rfl⟩

/-- An exponent above the least one comes with a full mantissa. -/
def IsCanonical : UnpackedFloat → Prop
  | .finite _ m e _ => m.log2 ≤ 52 ∧ -1074 ≤ e ∧ (-1074 < e → m.log2 = 52)
  | _ => True

lemma ofParts_isCanonical (s : Sign) {m : Nat} {e : Int}
    (h : m ≠ 0 → m.log2 ≤ 52 ∧ -1074 ≤ e ∧ (-1074 < e → m.log2 = 52)) :
    IsCanonical (ofParts s m e) := by
  unfold ofParts
  by_cases hm : m = 0
  · rw [dif_pos hm]
    trivial
  · rw [dif_neg hm]
    exact h hm

lemma unpack_isCanonical (b : BitVec 64) :
    IsCanonical (UnpackedFloat.unpack Format.binary64 b) := by
  rw [unpack_eq_decoded]
  generalize @unpackExponent Format.binary64 b = c
  generalize @unpackMantissa Format.binary64 b = m
  unfold decoded
  split
  · split <;> trivial
  · split
    · apply ofParts_isCanonical
      intro hm
      have hlt : m.toNat < 2 ^ 52 := m.isLt
      have hlog := (Nat.log2_lt hm).mpr hlt
      omega
    · rename_i hne
      have hc : c.toNat ≠ 0 := by
        intro h
        exact hne (BitVec.eq_of_toNat_eq h)
      have hlog := toNat_append_log2 m
      apply ofParts_isCanonical
      omega

/-- The larger of two numbers is below the larger power of two. -/
lemma totalExponent_mono {s t : Sign} {m n : Nat} {e f : Int} {hm : 0 < m} {hn : 0 < n}
    (hu : IsCanonical (.finite s m e hm)) (hv : IsCanonical (.finite t n f hn))
    (h : ((compare e f).then (compare m n)).isLE = true) :
    totalExponent m e ≤ totalExponent n f := by
  obtain ⟨hmlog, he, -⟩ := hu
  obtain ⟨-, -, hnlog⟩ := hv
  unfold totalExponent
  rcases Int.lt_trichotomy e f with hlt | heq | hgt
  · have := hnlog (by omega)
    omega
  · subst heq
    rw [Int.compare_eq_eq.mpr rfl] at h
    have hle : m ≤ n := Nat.isLE_compare.mp h
    have hlog : m.log2 ≤ n.log2 := by
      rw [Nat.le_log2 (by omega)]
      exact Nat.le_trans (Nat.log2_self_le (by omega)) hle
    omega
  · rw [Int.compare_eq_gt.mpr hgt] at h
    cases h

/-- The exponent as it is packed. -/
def biased (e : Int) : BitVec 11 := BitVec.ofNat 11 (e + 1075).toNat

lemma biased_toNat {e : Int} (he : e < 972) : (biased e).toNat = (e + 1075).toNat := by
  unfold biased
  rw [BitVec.toNat_ofNat]
  omega

lemma biased_ne_allOnes {e : Int} (he : e < 972) : biased e ≠ -1#11 := by
  intro h
  have hnat := congrArg BitVec.toNat h
  rw [biased_toNat he] at hnat
  change (e + 1075).toNat = 2047 at hnat
  omega

lemma biased_ne_zero {e : Int} (he : e < 972) (hmin : -1075 < e) : biased e ≠ 0#11 := by
  intro h
  have hnat := congrArg BitVec.toNat h
  rw [biased_toNat he] at hnat
  change (e + 1075).toNat = 0 at hnat
  omega

lemma pack_finite (s : Sign) {m : Nat} {e : Int} (hm : 0 < m) (he : e < 972) :
    UnpackedFloat.pack Format.binary64 (.finite s m e hm) =
      packComponents Format.binary64 s (if m.log2 = 52 then biased e else 0)
        (BitVec.ofNat 52 m) := by
  change (if 2048 ≤ (e + 1023 + 52).toNat + 1 then _ else if m.log2 + 1 = 53 then _ else _) = _
  rw [if_neg (by omega)]
  by_cases hlog : m.log2 = 52
  · rw [if_pos (by omega), if_pos hlog, biased, show e + 1075 = e + 1023 + 52 by omega]
    rfl
  · rw [if_neg (by omega), if_neg hlog]
    rfl

/-- Packing keeps the size of a number that is far from overflow. -/
lemma packed_isBelow (hu : IsBelow k u) (hmin : -1022 ≤ k) (hmax : k ≤ 972) :
    IsBelow k (Float.Model.pack u).unpack := by
  change IsBelow k (UnpackedFloat.unpack Format.binary64 (UnpackedFloat.pack Format.binary64 u))
  have hleast : ∀ (s : Sign) (m : BitVec 52), IsBelow k
      (UnpackedFloat.unpack Format.binary64 (packComponents Format.binary64 s 0 m)) := by
    intro s m
    obtain ⟨t, ht⟩ := unpack_components s 0 m
    rw [ht]
    exact (decoded_isBelow t 0 m (by decide)).mono hmin
  cases u with
  | infinity s => cases hu
  | notANumber => cases hu
  | zero s => exact hleast s 0
  | finite s m e hm =>
    have he := @lt_totalExponent m e
    change totalExponent m e ≤ k at hu
    have hmax : e < 972 := by omega
    rw [pack_finite s hm hmax]
    split
    · rename_i hlog
      have hbits := biased_toNat hmax
      obtain ⟨t, ht⟩ := unpack_components s (biased e) (BitVec.ofNat 52 m)
      rw [ht]
      apply (decoded_isBelow t _ _ (biased_ne_allOnes hmax)).mono
      unfold totalExponent at hu
      omega
    · exact hleast s _

lemma packed_isWide (hu : IsWide l u) (hbelow : IsBelow k u) (hmin : -1022 ≤ l)
    (hmax : k ≤ 972) : IsWide l (Float.Model.pack u).unpack := by
  change IsWide l (UnpackedFloat.unpack Format.binary64 (UnpackedFloat.pack Format.binary64 u))
  cases u with
  | infinity s => cases hu
  | notANumber => cases hu
  | zero s => cases hu
  | finite s m e hm =>
    obtain ⟨hlog, hl⟩ := hu
    change totalExponent m e ≤ k at hbelow
    unfold totalExponent at hl hbelow
    have hmax : e < 972 := by omega
    have hbits := biased_toNat hmax
    rw [pack_finite s hm hmax, if_pos hlog]
    obtain ⟨t, ht⟩ := unpack_components s (biased e) (BitVec.ofNat 52 m)
    rw [ht]
    have hne := biased_ne_zero hmax (by omega)
    apply (decoded_isWide t _ (BitVec.ofNat 52 m) (biased_ne_allOnes hmax) hne).mono
    omega

end Packing

end Appraisal.Double
