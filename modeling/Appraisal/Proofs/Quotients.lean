import Appraisal.Proofs.Magnitudes
import Mathlib.Algebra.Order.Field.Power
import Mathlib.Algebra.Order.Field.Rat
import Mathlib.Tactic.FieldSimp
import Mathlib.Tactic.GCongr
import Mathlib.Tactic.Linarith
import Mathlib.Tactic.NormNum
import Mathlib.Tactic.Positivity
import Mathlib.Tactic.Ring

/-!
# Quotients of whole numbers

Whole numbers below `2 ^ 53` are exact, and a quotient is one of the two numbers of 53 binary digits around
the exact quotient. So a quotient compares with a number as the exact one does, unless the two differ by less
than the last digit.
-/

namespace Appraisal.Double
open Float.Model Float.Model.UnpackedFloat

/-- Positive with a full mantissa, and exactly `q`. -/
def IsExactly (q : ℚ) : UnpackedFloat → Prop
  | .finite .positive m e _ => m.log2 = 52 ∧ (m : ℚ) * 2 ^ e = q
  | _ => False

/-- A positive number with a full mantissa that is exactly `q`. -/
def Exactly (q : ℚ) (x : Float) : Prop := IsExactly q x.toModel.unpack

section Order
variable {m n : Nat} {e f : Int} {q r : ℚ} {x y : Float}

lemma IsExactly.exists_finite {u : UnpackedFloat} (hu : IsExactly q u) :
    ∃ m e hpos, u = .finite .positive m e hpos ∧ m.log2 = 52 ∧ (m : ℚ) * 2 ^ e = q := by
  cases u with
  | finite s m e hpos =>
    cases s with
    | positive => exact ⟨m, e, hpos, rfl, hu⟩
    | negative => exact hu.elim
  | _ => exact hu.elim

lemma log2_eq_iff_full : m.log2 = 52 ↔ 2 ^ 52 ≤ m ∧ m < 2 ^ 53 := by
  by_cases hm : m = 0
  · subst hm
    decide
  · exact Nat.log2_eq_iff hm

lemma two_zpow_le (hm : 2 ^ 52 ≤ m) (e : Int) : (2 : ℚ) ^ (52 + e) ≤ m * 2 ^ e := by
  rw [zpow_add₀ (by norm_num)]
  gcongr
  exact_mod_cast hm

lemma lt_two_zpow (hm : m < 2 ^ 53) (e : Int) : (m : ℚ) * 2 ^ e < 2 ^ (53 + e) := by
  rw [zpow_add₀ (by norm_num)]
  gcongr
  exact_mod_cast hm

lemma mul_two_zpow_lt (hm : m < 2 ^ 53) (hn : 2 ^ 52 ≤ n) (h : e < f) : (m : ℚ) * 2 ^ e < n * 2 ^ f :=
  calc (m : ℚ) * 2 ^ e < 2 ^ (53 + e) := lt_two_zpow hm e
    _ ≤ 2 ^ (52 + f) := zpow_le_zpow_right₀ (by norm_num) (by omega)
    _ ≤ n * 2 ^ f := two_zpow_le hn f

/-- Exponent and mantissa are compared as the numbers are. -/
lemma thenCompare_eq_lt_iff (hm : m.log2 = 52) (hn : n.log2 = 52) :
    (compare e f).then (compare m n) = .lt ↔ (m : ℚ) * 2 ^ e < n * 2 ^ f := by
  rw [log2_eq_iff_full] at hm hn
  rcases Int.lt_trichotomy e f with hlt | heq | hgt
  · rw [Int.compare_eq_lt.mpr hlt]
    exact iff_of_true rfl (mul_two_zpow_lt hm.2 hn.1 hlt)
  · subst heq
    rw [Int.compare_eq_eq.mpr rfl, mul_lt_mul_iff_left₀ (by positivity), Nat.cast_lt]
    exact Nat.compare_eq_lt
  · rw [Int.compare_eq_gt.mpr hgt]
    exact iff_of_false nofun (mul_two_zpow_lt hn.2 hm.1 hgt).not_gt

lemma isExactly_lt_iff {u v : UnpackedFloat} (hu : IsExactly q u) (hv : IsExactly r v) :
    u.compare v = some .lt ↔ q < r := by
  obtain ⟨m, e, hm0, rfl, hm, rfl⟩ := hu.exists_finite
  obtain ⟨n, f, hn0, rfl, hn, rfl⟩ := hv.exists_finite
  rw [← thenCompare_eq_lt_iff hm hn]
  exact Option.some_inj

lemma Exactly.lt_iff (hx : Exactly q x) (hy : Exactly r y) : x < y ↔ q < r := by
  rw [Double.lt_iff]
  exact isExactly_lt_iff hx hy

end Order

section Packing
variable {m : Nat} {e : Int} {q : ℚ}

lemma sign_packComponents (s : Sign) (c : BitVec 11) (m : BitVec 52) :
    Sign.ofBitVec (@unpackSign Format.binary64 (packComponents Format.binary64 s c m)) = s := by
  change Sign.ofBitVec ((s.toBitVec ++ c ++ m : BitVec (1 + 11 + 52)).extractLsb' 63 1) = s
  rw [BitVec.extractLsb'_append_eq_of_le (by decide), BitVec.extractLsb'_append_eq_of_le (by decide)]
  cases s <;> rfl

lemma toNat_append_of_full (hm : m.log2 = 52) : (1#1 ++ BitVec.ofNat 52 m).toNat = m := by
  obtain ⟨hlow, hhigh⟩ := log2_eq_iff_full.mp hm
  rw [BitVec.toNat_append, ← Nat.shiftLeft_add_eq_or_of_lt (BitVec.isLt _), BitVec.toNat_ofNat]
  change 2 ^ 52 + m % 2 ^ 52 = m
  omega

lemma unpack_pack_of_full (s : Sign) (hpos : 0 < m) (hm : m.log2 = 52) (he : -1075 < e) (he' : e < 972) :
    (Float.Model.pack (.finite s m e hpos)).unpack = .finite s m e hpos := by
  change UnpackedFloat.unpack Format.binary64 (UnpackedFloat.pack Format.binary64 _) = _
  rw [pack_finite s hpos he', if_pos hm, unpack_eq_decoded, sign_packComponents, unpackExponent_packComponents,
    unpackMantissa_packComponents]
  have hexponent : ((e + 1075).toNat : Int) - 1075 = e := by omega
  unfold decoded ofParts
  rw [if_neg (biased_ne_allOnes he'), if_neg (biased_ne_zero he' he), toNat_append_of_full hm, dif_neg hpos.ne',
    biased_toNat he', hexponent]

lemma isExactly_packed {u : UnpackedFloat} (hu : IsExactly q u) (hlow : (2 : ℚ) ^ (-1000 : Int) ≤ q)
    (hhigh : q < (2 : ℚ) ^ (900 : Int)) : IsExactly q (Float.Model.pack u).unpack := by
  obtain ⟨m, e, hpos, rfl, hm, rfl⟩ := hu.exists_finite
  obtain ⟨hleast, hmost⟩ := log2_eq_iff_full.mp hm
  have he := (zpow_lt_zpow_iff_right₀ (by norm_num)).mp ((two_zpow_le hleast e).trans_lt hhigh)
  have he' := (zpow_lt_zpow_iff_right₀ (by norm_num)).mp (hlow.trans_lt (lt_two_zpow hmost e))
  rw [unpack_pack_of_full .positive hpos hm (by omega) (by omega)]
  exact ⟨hm, rfl⟩

end Packing

section Rounding
variable {m : Nat} {e : Int} {a : Accuracy} {q r : ℚ} {x y : Float}

lemma ofParts_isExactly (hm : m.log2 = 52) : IsExactly ((m : ℚ) * 2 ^ e) (ofParts .positive m e) := by
  have hpos : m ≠ 0 := by
    rintro rfl
    cases hm
  unfold ofParts
  rw [dif_neg hpos]
  exact ⟨hm, rfl⟩

/-- What is left of a mantissa when it is cut to full length. -/
def cut (m : Nat) : Nat := m / 2 ^ (m.log2 - 52)

lemma cut_bounds (hm : 52 ≤ m.log2) : 2 ^ 52 ≤ cut m ∧ cut m < 2 ^ 53 := by
  have hpos : m ≠ 0 := by
    rintro rfl
    cases hm
  have hlog : (cut m).log2 = 52 := by
    unfold cut
    rw [log2_div_two_pow (Nat.sub_le _ _) hpos]
    omega
  exact log2_eq_iff_full.mp hlog

lemma shiftAmount_eq (hm : 52 ≤ m.log2) (he : -1074 ≤ e + (m.log2 - 52 : Nat)) : shiftAmount m e = m.log2 - 52 := by
  apply shiftAmount_of_wide hm
  unfold totalExponent
  omega

/-- A mantissa is rounded to what is left of it when it is cut, or to the next one. -/
lemma roundedMantissa_mem (hm : 52 ≤ m.log2) (he : -1074 ≤ e + (m.log2 - 52 : Nat)) :
    cut m ≤ (shiftToTargetExponent Format.binary64 m e a).1.roundedMantissa ∧
      (shiftToTargetExponent Format.binary64 m e a).1.roundedMantissa ≤ cut m + 1 := by
  have hle := le_roundedMantissa (shiftToTargetExponent Format.binary64 m e a).1
  have hlt := roundedMantissa_le (shiftToTargetExponent Format.binary64 m e a).1
  rw [shifted_mantissa, shiftAmount_eq hm he] at hle hlt
  exact ⟨hle, hlt⟩

lemma roundWithAccuracy_isExactly (hm : 52 ≤ m.log2) (he : -1074 ≤ e + (m.log2 - 52 : Nat)) :
    IsExactly (((shiftToTargetExponent Format.binary64 m e a).1.roundedMantissa : ℚ) *
      2 ^ (e + (m.log2 - 52 : Nat))) (roundWithAccuracy Format.binary64 .positive m e a) := by
  have hcut := cut_bounds hm
  obtain ⟨hle, hlt⟩ := @roundedMantissa_mem m e a hm he
  rw [roundWithAccuracy_eq, shiftAmount_eq hm he]
  generalize (shiftToTargetExponent Format.binary64 m e a).1.roundedMantissa = r at hle hlt ⊢
  generalize e + ((m.log2 - 52 : Nat) : Int) = k at he ⊢
  -- The mantissa is full, unless rounding has carried it over to the next power of two.
  by_cases hcarry : r = 2 ^ 53
  · subst hcarry
    have hone : shiftAmount (2 ^ 53) k = 1 := by
      rw [shiftAmount_eq (by decide) (by omega), Nat.log2_two_pow]
    simp only [hone]
    have hvalue : ((2 ^ 53 : Nat) : ℚ) * 2 ^ k = (2 ^ 52 : Nat) * 2 ^ (k + 1) := by
      rw [zpow_add_one₀ (by norm_num)]
      push_cast
      ring
    rw [hvalue]
    exact ofParts_isExactly (by decide)
  · have hlog : r.log2 = 52 := log2_eq_iff_full.mpr ⟨by omega, by omega⟩
    have hnone : shiftAmount r k = 0 := by
      rw [shiftAmount_eq (by omega) (by omega), hlog]
    simp only [hnone, pow_zero, Nat.div_one, Nat.cast_zero, add_zero]
    exact ofParts_isExactly hlog

lemma shiftRight_mul_two_pow (m n : Nat) :
    (ExtendedMantissa.ofMantissaAndAccuracy (m * 2 ^ n) .exact) >>> n = ⟨m, false, false⟩ := by
  change Nat.repeat ExtendedMantissa.shiftRightOne n ⟨m * 2 ^ n, false, false⟩ = _
  induction n generalizing m with
  | zero => simp [Nat.repeat]
  | succ n ih =>
    rw [Nat.repeat, pow_succ', ← mul_assoc, ih]
    simp [ExtendedMantissa.shiftRightOne]

/-- A number that needs no more than a full mantissa is not changed by rounding. -/
lemma roundWithAccuracy_of_full (hm : m.log2 = 52) (n : Nat) (he : -1074 ≤ e) :
    IsExactly ((m : ℚ) * 2 ^ e) (roundWithAccuracy Format.binary64 .positive (m * 2 ^ n) (e - n) .exact) := by
  have hpos : m ≠ 0 := by
    rintro rfl
    cases hm
  have hlog : (m * 2 ^ n).log2 = 52 + n := by
    rw [← Nat.shiftLeft_eq, log2_shiftLeft hpos, hm]
  have hshift : shiftAmount (m * 2 ^ n) (e - n) = n := by
    rw [shiftAmount_eq (by omega) (by omega), hlog]
    omega
  have hround := @roundWithAccuracy_isExactly (m * 2 ^ n) (e - n) .exact (by omega) (by omega)
  have hrounded : (shiftToTargetExponent Format.binary64 (m * 2 ^ n) (e - n) .exact).1 = ⟨m, false, false⟩ := by
    change (ExtendedMantissa.ofMantissaAndAccuracy (m * 2 ^ n) .exact) >>> shiftAmount (m * 2 ^ n) (e - n) = _
    rw [hshift, shiftRight_mul_two_pow]
  rw [hrounded, hlog, show e - n + ((52 + n - 52 : Nat) : Int) = e by omega] at hround
  exact hround

end Rounding

section Naturals
variable {n : Nat}

lemma shiftLeft_value (n k : Nat) : ((n <<< k : Nat) : ℚ) * 2 ^ (-(k : Int)) = n := by
  rw [Nat.shiftLeft_eq, zpow_neg, zpow_natCast]
  push_cast
  field_simp

lemma moderate_nat (hn : n ≠ 0) (h : n < 2 ^ 53) :
    (2 : ℚ) ^ (-1000 : Int) ≤ n ∧ (n : ℚ) < (2 : ℚ) ^ (900 : Int) := by
  have hone : (1 : ℚ) ≤ n := by exact_mod_cast Nat.one_le_iff_ne_zero.mpr hn
  have hmost : (n : ℚ) < 2 ^ (53 : Int) := by exact_mod_cast h
  exact ⟨(zpow_le_one_of_nonpos₀ (by norm_num) (by norm_num)).trans hone,
    hmost.trans (zpow_lt_zpow_right₀ (by norm_num) (by norm_num))⟩

lemma log2_full (hn : n ≠ 0) (h : n < 2 ^ 53) : (n <<< (52 - n.log2)).log2 = 52 := by
  have hlog := (Nat.log2_lt hn).mpr h
  rw [log2_shiftLeft hn]
  omega

lemma round_nat_isExactly (hn : n ≠ 0) (h : n < 2 ^ 53) :
    IsExactly n (round Format.binary64 .positive n 0) := by
  have hlog := (Nat.log2_lt hn).mpr h
  have htarget : (0 - Format.binary64.targetExponent (totalExponent n 0)).toNat = 52 - n.log2 := by
    rw [targetExponent_eq]
    unfold totalExponent
    omega
  unfold UnpackedFloat.round decreaseExponent
  simp only [htarget]
  have hround := roundWithAccuracy_of_full (log2_full hn h) 0 (e := -((52 - n.log2 : Nat) : Int)) (by omega)
  rw [shiftLeft_value, pow_zero, mul_one] at hround
  simpa using hround

lemma mul_one_isExactly {q : ℚ} {u : UnpackedFloat} (hu : IsExactly q u) (hlow : (2 : ℚ) ^ (-1000 : Int) ≤ q) :
    IsExactly q (mul Format.binary64 u one.toModel.unpack) := by
  obtain ⟨m, e, hpos, rfl, hm, rfl⟩ := hu.exists_finite
  have hmost := (log2_eq_iff_full.mp hm).2
  have he := (zpow_lt_zpow_iff_right₀ (by norm_num)).mp (hlow.trans_lt (lt_two_zpow hmost e))
  exact roundWithAccuracy_of_full hm 52 (by omega)

/-- A whole number below `2 ^ 53` is exact. -/
lemma ofNat_exactly (hn : n ≠ 0) (h : n < 2 ^ 53) : Exactly n (Float.ofNat n) := by
  obtain ⟨hlow, hhigh⟩ := moderate_nat hn h
  have hplain : IsExactly n n.toUInt64.toFloat.toModel.unpack := by
    rw [toFloat_unpack hn (h.trans (by norm_num))]
    exact isExactly_packed (round_nat_isExactly hn h) hlow hhigh
  rw [ofNat_of_small h]
  exact isExactly_packed (mul_one_isExactly hplain hlow) hlow hhigh

end Naturals

/-- Whether `r` is what is left of `q` when it is cut to 53 binary digits, or the next such number. -/
def IsNextTo (q r : ℚ) : Prop :=
  ∃ (p : Nat) (k : Int), 2 ^ 52 ≤ p ∧ (p : ℚ) * 2 ^ k ≤ q ∧ q < (p + 1) * 2 ^ k ∧
    (r = p * 2 ^ k ∨ r = (p + 1) * 2 ^ k)

namespace IsNextTo
variable {q r : ℚ} {n : Nat} {j : Int}

/-- A number of 53 binary digits that is not above the exact one is not above the rounded one. -/
lemma le_of_le (h : IsNextTo q r) (hn : n < 2 ^ 53) (hle : (n : ℚ) * 2 ^ j ≤ q) : (n : ℚ) * 2 ^ j ≤ r := by
  obtain ⟨p, k, hp, -, hlt, hr⟩ := h
  have hcut : (n : ℚ) * 2 ^ j ≤ p * 2 ^ k := by
    by_cases hkj : k ≤ j
    · -- On the finer grid of the quotient the number is a whole one.
      obtain ⟨d, rfl⟩ := Int.le.dest hkj
      have hvalue : (n : ℚ) * 2 ^ (k + d) = (n * 2 ^ d : Nat) * 2 ^ k := by
        rw [zpow_add₀ (by norm_num), zpow_natCast]
        push_cast
        ring
      rw [hvalue] at hle ⊢
      have hlt' := lt_of_mul_lt_mul_right (hle.trans_lt hlt) (by positivity)
      gcongr
      exact Nat.lt_succ_iff.mp (by exact_mod_cast hlt')
    · exact (mul_two_zpow_lt hn hp (by omega)).le
  rcases hr with rfl | rfl
  · exact hcut
  · exact hcut.trans (by gcongr; linarith)

/-- Rounding adds at most one in the last digit. -/
lemma le_add (h : IsNextTo q r) (hq : q < 2 ^ j) : r ≤ q + 2 ^ (j - 53) := by
  obtain ⟨p, k, hp, hle, -, hr⟩ := h
  have hk := (zpow_lt_zpow_iff_right₀ (by norm_num)).mp (((two_zpow_le hp k).trans hle).trans_lt hq)
  have hdigit : (2 : ℚ) ^ k ≤ 2 ^ (j - 53) := zpow_le_zpow_right₀ (by norm_num) (by omega)
  have hpos : (0 : ℚ) < 2 ^ k := by positivity
  rcases hr with rfl | rfl <;> linarith

end IsNextTo

section Quotients
variable {m n : Nat} {e f : Int} {q r : ℚ} {x y : Float}

lemma divCore_of_full (hm : m.log2 = 52) (hn : n.log2 = 52) (h : -1021 ≤ e - f) :
    divCore Format.binary64 m e n f =
      (m * 2 ^ 53 / n, e - f - 53, accuracyOfFraction (m * 2 ^ 53 % n) n) := by
  have htarget : min (e - f) (Format.binary64.targetExponent (totalExponent m e - totalExponent n f)) =
      e - f - 53 := by
    rw [targetExponent_eq]
    unfold totalExponent
    omega
  unfold divCore
  simp only [htarget, show (e - f - (e - f - 53)).toNat = 53 by omega, Nat.shiftLeft_eq]

/-- Cutting a mantissa drops less than its last digit. -/
lemma cut_value (h : (m : ℚ) * 2 ^ e ≤ q) (h' : q < (m + 1) * 2 ^ e) :
    (cut m : ℚ) * 2 ^ (e + (m.log2 - 52 : Nat)) ≤ q ∧ q < (cut m + 1) * 2 ^ (e + (m.log2 - 52 : Nat)) := by
  have hdown : cut m * 2 ^ (m.log2 - 52) ≤ m := Nat.div_mul_le_self _ _
  have hup : m + 1 ≤ (cut m + 1) * 2 ^ (m.log2 - 52) := by
    rw [mul_comm]
    exact Nat.lt_mul_div_succ m (Nat.two_pow_pos _)
  rw [zpow_add₀ (by norm_num), zpow_natCast, mul_comm ((2 : ℚ) ^ e), ← mul_assoc, ← mul_assoc]
  constructor
  · refine le_trans ?_ h
    gcongr
    exact_mod_cast hdown
  · refine lt_of_lt_of_le h' ?_
    gcongr
    exact_mod_cast hup

/-- The whole part of a quotient of full mantissas has at least 53 digits and is less than one below it. -/
lemma quotient_value (hm : m.log2 = 52) (hn : n.log2 = 52) (e f : Int) :
    52 ≤ (m * 2 ^ 53 / n).log2 ∧ m * 2 ^ 53 / n < 2 ^ 54 ∧
      ((m * 2 ^ 53 / n : Nat) : ℚ) * 2 ^ (e - f - 53) ≤ (m : ℚ) * 2 ^ e / (n * 2 ^ f) ∧
      (m : ℚ) * 2 ^ e / (n * 2 ^ f) < ((m * 2 ^ 53 / n : Nat) + 1) * 2 ^ (e - f - 53) := by
  obtain ⟨hmlow, hmhigh⟩ := log2_eq_iff_full.mp hm
  obtain ⟨hnlow, hnhigh⟩ := log2_eq_iff_full.mp hn
  have hn' : (0 : ℚ) < n := by exact_mod_cast (by omega : 0 < n)
  have hvalue : (m : ℚ) * 2 ^ e / (n * 2 ^ f) = m * 2 ^ 53 / n * 2 ^ (e - f - 53) := by
    rw [zpow_sub₀ (by norm_num), zpow_sub₀ (by norm_num)]
    field_simp
  have hdown : m * 2 ^ 53 / n * n ≤ m * 2 ^ 53 := Nat.div_mul_le_self _ _
  have hup : m * 2 ^ 53 < (m * 2 ^ 53 / n + 1) * n := by
    rw [mul_comm _ n]
    exact Nat.lt_mul_div_succ _ (by omega)
  refine ⟨?_, ?_, ?_, ?_⟩
  · have hlow : 2 ^ 52 ≤ m * 2 ^ 53 / n := by
      rw [Nat.le_div_iff_mul_le (by omega)]
      omega
    exact (Nat.le_log2 (by omega)).mpr hlow
  · rw [Nat.div_lt_iff_lt_mul (by omega)]
    omega
  · rw [hvalue]
    gcongr
    rw [le_div_iff₀ hn']
    exact_mod_cast hdown
  · rw [hvalue]
    gcongr
    rw [div_lt_iff₀ hn']
    exact_mod_cast hup

/-- What is known to less than one of a long mantissa is rounded to one of its neighbours. -/
lemma roundWithAccuracy_isNextTo {a : Accuracy} (hlog : 52 ≤ m.log2) (he : -1074 ≤ e) (h : (m : ℚ) * 2 ^ e ≤ q)
    (h' : q < (m + 1) * 2 ^ e) :
    ∃ s, IsNextTo q s ∧ IsExactly s (roundWithAccuracy Format.binary64 .positive m e a) := by
  obtain ⟨hleast, hnext⟩ := @roundedMantissa_mem m e a hlog (by omega)
  obtain ⟨hdown, hup⟩ := cut_value h h'
  refine ⟨_, ⟨cut m, _, (cut_bounds hlog).1, hdown, hup, ?_⟩, roundWithAccuracy_isExactly hlog (by omega)⟩
  rcases Nat.le_add_one_iff.mp hnext with hle | heq
  · left
    rw [Nat.le_antisymm hle hleast]
  · right
    rw [heq]
    push_cast
    rfl

lemma div_isNextTo {u v : UnpackedFloat} (hu : IsExactly q u) (hv : IsExactly r v)
    (hlow : (2 : ℚ) ^ (-1000 : Int) ≤ q / r) :
    ∃ s, IsNextTo (q / r) s ∧ IsExactly s (div Format.binary64 u v) := by
  obtain ⟨m, e, hmpos, rfl, hm, rfl⟩ := hu.exists_finite
  obtain ⟨n, f, hnpos, rfl, hn, rfl⟩ := hv.exists_finite
  obtain ⟨hlog, hmost, hdown, hup⟩ := quotient_value hm hn e f
  have hpow : (m : ℚ) * 2 ^ e / (n * 2 ^ f) < 2 ^ (54 + (e - f - 53)) := by
    rw [zpow_add₀ (by norm_num)]
    refine lt_of_lt_of_le hup ?_
    gcongr
    exact_mod_cast hmost
  have he := (zpow_lt_zpow_iff_right₀ (by norm_num)).mp (hlow.trans_lt hpow)
  change ∃ s, _ ∧ IsExactly s (roundWithAccuracy Format.binary64 .positive (divCore Format.binary64 m e n f).1
    (divCore Format.binary64 m e n f).2.1 (divCore Format.binary64 m e n f).2.2)
  rw [divCore_of_full hm hn (by omega)]
  exact roundWithAccuracy_isNextTo hlog (show -1074 ≤ e - f - 53 by omega) hdown hup

/-- A quotient is one of the two numbers of 53 binary digits around the exact one. -/
lemma Exactly.div (hx : Exactly q x) (hy : Exactly r y) (hlow : (2 : ℚ) ^ (-1000 : Int) ≤ q / r)
    (hhigh : q / r < (2 : ℚ) ^ (800 : Int)) : ∃ s, IsNextTo (q / r) s ∧ Exactly s (x / y) := by
  obtain ⟨s, hnext, hs⟩ := div_isNextTo hx hy hlow
  have hleast : ((1 : Nat) : ℚ) * 2 ^ (-1000 : Int) ≤ s := hnext.le_of_le (by norm_num) (by simpa using hlow)
  have hmost : s < (2 : ℚ) ^ (900 : Int) := by
    calc s ≤ q / r + 2 ^ (800 - 53 : Int) := hnext.le_add hhigh
      _ < 2 ^ (800 : Int) + 2 ^ (800 : Int) :=
        add_lt_add hhigh (zpow_lt_zpow_right₀ (by norm_num) (by norm_num))
      _ = 2 ^ (800 + 1 : Int) := by rw [zpow_add_one₀ (by norm_num), mul_two]
      _ ≤ 2 ^ (900 : Int) := zpow_le_zpow_right₀ (by norm_num) (by norm_num)
  exact ⟨s, hnext, isExactly_packed hs (by simpa using hleast) hmost⟩

/-- Nothing divided by a positive number is less than any positive number. -/
lemma zero_div_lt (hy : Exactly r y) (hx : Exactly q x) : Float.ofNat 0 / y < x := by
  have hzero : (Float.Model.pack (.zero .positive)).unpack = .zero .positive := rfl
  rw [Double.lt_iff]
  change (Float.Model.pack (UnpackedFloat.div Format.binary64 (.zero .positive) y.toModel.unpack)).unpack.compare _ = _
  unfold Exactly at hx hy
  generalize y.toModel.unpack = u at hy ⊢
  generalize x.toModel.unpack = v at hx ⊢
  obtain ⟨m, e, hmpos, rfl, -⟩ := hy.exists_finite
  obtain ⟨n, f, hnpos, rfl, -⟩ := hx.exists_finite
  change (Float.Model.pack (.zero .positive)).unpack.compare _ = _
  rw [hzero]
  rfl

end Quotients
end Appraisal.Double
