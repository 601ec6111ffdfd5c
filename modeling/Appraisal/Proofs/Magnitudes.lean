import Appraisal.Proofs.Doubles
import Appraisal.Proofs.Rounding

/-!
# Magnitudes

How large the result of a computation can be, from how large its inputs are. A result with a known
bound is finite, and so it is defined.
-/

namespace Appraisal.Double
open Float.Model Float.Model.UnpackedFloat

/-- Finite and less than `2 ^ k` in size. -/
def Below (k : Int) (x : Float) : Prop := IsBelow k x.toModel.unpack

/-- Finite and at least `2 ^ k` in size. -/
def AtLeast (k : Int) (x : Float) : Prop := IsAtLeast k x.toModel.unpack

instance (k : Int) : DecidablePred (Below k) :=
  fun x => inferInstanceAs (Decidable (IsBelow k x.toModel.unpack))

instance (k : Int) : DecidablePred (AtLeast k) :=
  fun x => inferInstanceAs (Decidable (IsAtLeast k x.toModel.unpack))

variable {k l : Int} {x y lo hi : Float}

lemma Below.mono (h : Below k x) (hkl : k ≤ l) : Below l x := IsBelow.mono h hkl

lemma Below.isFinite (h : Below k x) : Arithmetic.isFinite x = true := by
  unfold Below at h
  change x.toModel.unpack.isFinite = true
  cases hx : x.toModel.unpack with
  | notANumber => rw [hx] at h; cases h
  | infinity s => rw [hx] at h; cases h
  | zero s => rfl
  | finite s m e hm => rfl

lemma Below.isNaN (h : Below k x) : Arithmetic.isNaN x = false := isNaN_of_isFinite h.isFinite

lemma Below.add (hx : Below k x) (hy : Below k y) (hmin : -1000 ≤ k) (hmax : k ≤ 970) :
    Below (k + 2) (x + y) :=
  packed_isBelow (add_isBelow hx hy hmin) (by omega) (by omega)

lemma Below.sub (hx : Below k x) (hy : Below k y) (hmin : -1000 ≤ k) (hmax : k ≤ 970) :
    Below (k + 2) (x - y) :=
  packed_isBelow (sub_isBelow hx hy hmin) (by omega) (by omega)

lemma Below.neg (hx : Below k x) (hmin : -1000 ≤ k) (hmax : k ≤ 970) : Below k (-x) :=
  packed_isBelow (neg_isBelow hx) (by omega) (by omega)

lemma Below.mul (hx : Below k x) (hy : Below l y) (hmin : -1000 ≤ k + l) (hmax : k + l ≤ 970) :
    Below (k + l + 1) (x * y) :=
  packed_isBelow (mul_isBelow hx hy hmin) (by omega) (by omega)

lemma Below.div (hx : Below k x) (hy : AtLeast l y) (hmin : -1000 ≤ k - l)
    (hmax : k - l ≤ 970) : Below (k - l + 1) (x / y) :=
  packed_isBelow (div_isBelow hx hy hmin) (by omega) (by omega)

/-- What lies between two small numbers is small. -/
lemma Below.of_between (hlo : Below k lo) (hhi : Below k hi) (h : lo ≤ x) (h' : x ≤ hi) :
    Below k x := by
  have hcx := unpack_isCanonical x.toModel.toBits.toBitVec
  have hclo := unpack_isCanonical lo.toModel.toBits.toBitVec
  have hchi := unpack_isCanonical hi.toModel.toBits.toBitVec
  rw [le_iff] at h h'
  unfold Below at hlo hhi ⊢
  change IsCanonical x.toModel.unpack at hcx
  change IsCanonical lo.toModel.unpack at hclo
  change IsCanonical hi.toModel.unpack at hchi
  generalize x.toModel.unpack = u at *
  generalize lo.toModel.unpack = v at *
  generalize hi.toModel.unpack = w at *
  -- The end on the side of the sign of `x` bounds its size.
  cases u with
  | notANumber => cases v <;> cases h
  | zero s => trivial
  | infinity s =>
    cases s with
    | negative => cases v <;> first | cases h | cases hlo
    | positive => cases w <;> first | cases h' | cases hhi
  | finite s m e hm =>
    cases s with
    | positive =>
      cases w with
      | notANumber => cases h'
      | infinity t => cases hhi
      | zero t => cases h'
      | finite t n f hn =>
        cases t with
        | negative => cases h'
        | positive => exact Int.le_trans (totalExponent_mono hcx hchi h') hhi
    | negative =>
      cases v with
      | notANumber => cases h
      | infinity t => cases hlo
      | zero t => cases h
      | finite t n f hn =>
        cases t with
        | positive => cases h
        | negative =>
          change ((compare f e).then (compare n m)).swap.isLE = true at h
          rw [Ordering.swap_then, Int.compare_swap, Nat.compare_swap] at h
          exact Int.le_trans (totalExponent_mono hcx hclo h) hlo

section Naturals
variable {n : Nat}

lemma atLeast_of_isWide (h : IsWide k x.toModel.unpack) : AtLeast k x := by
  unfold AtLeast
  generalize x.toModel.unpack = u at h ⊢
  cases u with
  | finite s m e hm => exact h.2
  | zero s => exact h
  | infinity s => exact h
  | notANumber => exact h

lemma totalExponent_nat (hn : n ≠ 0) (h : n < 2 ^ 64) :
    0 < totalExponent n 0 ∧ totalExponent n 0 ≤ 64 := by
  have hlog := (Nat.log2_lt hn).mpr h
  unfold totalExponent
  omega

lemma normalize_nat (hn : n ≠ 0) :
    normalize Format.binary64 n 0 .positive = round Format.binary64 .positive n 0 := by
  unfold UnpackedFloat.normalize
  rw [Int.compare_eq_gt.mpr (by omega)]
  rfl

/-- The number one, as whole numbers are scaled by it. -/
def one : Float := Float.ofBits 0x3FF0000000000000

lemma ofNat_of_small (h : n < 2 ^ 53) : Float.ofNat n = n.toUInt64.toFloat * one := by
  change Float.ofScientific n false 0 = _
  unfold Float.ofScientific
  rw [dif_pos ⟨h, by decide⟩]
  rfl

lemma ofNat_of_large (h : ¬n < 2 ^ 53) :
    Float.ofNat n = .ofModel (Float.Model.ofScientific n 0) := by
  change Float.ofScientific n false 0 = _
  unfold Float.ofScientific
  rw [dif_neg (fun hlt => h hlt.1)]
  rfl

lemma toFloat_unpack (hn : n ≠ 0) (h : n < 2 ^ 64) :
    n.toUInt64.toFloat.toModel = .pack (round Format.binary64 .positive n 0) := by
  rw [← normalize_nat hn]
  change Float.Model.pack (normalize Format.binary64 n.toUInt64.toNat 0 .positive) = _
  rw [show n.toUInt64.toNat = n from Nat.mod_eq_of_lt h]

lemma ofScientific_nat (hn : n ≠ 0) :
    UnpackedFloat.ofScientific Format.binary64 n 0 =
      roundWithAccuracy Format.binary64 .positive (n <<< 53) (-53) .exact := by
  unfold UnpackedFloat.ofScientific
  have hpow : (0 : Int) ≤ 2 ^ Format.binary64.exponentBits := by decide
  rw [dif_neg hn, if_neg (by decide), if_neg (by omega), if_pos (by decide)]
  change roundWithAccuracy Format.binary64 .positive (n <<< 53 * 1) (-53 + 0) .exact = _
  rw [Nat.mul_one]
  rfl

lemma ofNat_of_wide {m : Nat} {e : Int} (hm : 52 ≤ m.log2) (hlt : 0 < totalExponent m e)
    (hle : totalExponent m e ≤ 64)
    (h : (Float.ofNat n).toModel = .pack (roundWithAccuracy Format.binary64 .positive m e .exact)) :
    Below 70 (Float.ofNat n) ∧ AtLeast 0 (Float.ofNat n) := by
  have hbelow := roundWithAccuracy_isBelow .exact .positive hle (by omega)
  have hwide := roundWithAccuracy_isWide .exact .positive hm (by omega) hlt
  constructor
  · unfold Below
    rw [h]
    exact IsBelow.mono (packed_isBelow hbelow (by omega) (by omega)) (by omega)
  · apply atLeast_of_isWide
    rw [h]
    exact packed_isWide hwide hbelow (by omega) (by omega)

/-- A whole number of 64 bits keeps its size. -/
lemma ofNat_bounds (hn : n ≠ 0) (h : n < 2 ^ 64) :
    Below 70 (Float.ofNat n) ∧ AtLeast 0 (Float.ofNat n) := by
  have htotal := totalExponent_nat hn h
  -- A small number is converted and scaled by one, a large one is read as a decimal.
  by_cases hsmall : n < 2 ^ 53
  · have hround := round_isBelow .positive hn htotal.2 (by omega)
    have hbelow : Below 65 n.toUInt64.toFloat := by
      unfold Below
      rw [toFloat_unpack hn h]
      exact packed_isBelow hround (by omega) (by omega)
    have hwide : IsWide 0 n.toUInt64.toFloat.toModel.unpack := by
      rw [toFloat_unpack hn h]
      exact packed_isWide (round_isWide .positive hn htotal.1 (by omega)) hround (by omega) (by omega)
    have hone : Below 1 one ∧ AtLeast 0 one := by decide
    rw [ofNat_of_small hsmall]
    constructor
    · exact (hbelow.mul hone.1 (by omega) (by omega)).mono (by omega)
    · exact atLeast_of_isWide (packed_isWide (mul_isWide hwide hone.2 (by omega))
        (mul_isBelow hbelow hone.1 (by omega)) (by omega) (by omega))
  · have hlog : (n <<< 53).log2 = n.log2 + 53 := log2_shiftLeft hn
    have hshift : totalExponent (n <<< 53) (-53) = totalExponent n 0 := by
      unfold totalExponent
      omega
    have hmodel : (Float.ofNat n).toModel =
        .pack (roundWithAccuracy Format.binary64 .positive (n <<< 53) (-53) .exact) := by
      rw [ofNat_of_large hsmall, ← ofScientific_nat hn]
      rfl
    exact ofNat_of_wide (by omega) (by omega) (by omega) hmodel

lemma below_zero : Below 0 (Float.ofNat 0) := by decide

lemma below_ofNat (h : n < 2 ^ 64) : Below 70 (Arithmetic.ofNat n : Float) := by
  change Below 70 (Float.ofNat n)
  by_cases hn : n = 0
  · subst hn
    exact below_zero.mono (by omega)
  · exact (ofNat_bounds hn h).1

lemma atLeast_ofNat (hn : n ≠ 0) (h : n < 2 ^ 64) : AtLeast 0 (Arithmetic.ofNat n : Float) :=
  (ofNat_bounds hn h).2

lemma below_ofInt (i : Int) (h : i.natAbs < 2 ^ 64) : Below 70 (Arithmetic.ofInt i : Float) := by
  cases i with
  | ofNat n => exact below_ofNat h
  | negSucc n =>
    change Below 70 (-Float.ofNat (n + 1))
    exact (ofNat_bounds (Nat.succ_ne_zero n) h).1.neg (by omega) (by omega)

end Naturals

section Lists
variable {xs : List Float}

lemma below_foldl (hx : Below k x) (h : ∀ y ∈ xs, Below k y) (hmin : -1000 ≤ k)
    (hmax : k + 2 * xs.length ≤ 970) : Below (k + 2 * xs.length) (xs.foldl (· + ·) x) := by
  induction xs generalizing k x with
  | nil => exact hx.mono (by simp)
  | cons y ys ih =>
    rw [List.length_cons] at hmax ⊢
    have hsum := hx.add (h y List.mem_cons_self) hmin (by omega)
    have hrest : ∀ z ∈ ys, Below (k + 2) z := by
      intro z hz
      exact (h z (List.mem_cons_of_mem _ hz)).mono (by omega)
    exact (ih hsum hrest (by omega) (by omega)).mono (by omega)

lemma below_sum (h : ∀ y ∈ xs, Below k y) (hmin : -1000 ≤ k) (hmax : k + 2 * xs.length ≤ 970) :
    Below (k + 2 * xs.length) (Arithmetic.sum xs) := by
  have hzero : IsBelow k (.zero .negative) := trivial
  exact below_foldl hzero h hmin hmax

lemma isNaN_mean? (h : ∀ y ∈ xs, Below 100 y) (hlen : xs.length ≤ 100)
    (hx : Arithmetic.mean? xs = some x) : Arithmetic.isNaN x = false := by
  cases xs with
  | nil => cases hx
  | cons y ys =>
    have hsum := below_sum h (by omega) (by omega)
    have hlength : AtLeast 0 (Arithmetic.ofNat (y :: ys).length : Float) :=
      atLeast_ofNat (Nat.succ_ne_zero _) (by omega)
    cases hx
    exact (hsum.div hlength (by omega) (by omega)).isNaN

/-- Nothing, or a number below `2 ^ k`. -/
def Below? (k : Int) (x : Option Float) : Prop := ∀ y, x = some y → Below k y

lemma below?_map {β : Type} {x : Option β} {f : β → Float} (h : ∀ z, x = some z → Below k (f z)) :
    Below? k (x.map f) := by
  intro y hy
  obtain ⟨z, hz, rfl⟩ := Option.map_eq_some_iff.mp hy
  exact h z hz

lemma isNaN_meanPresent? {values : List (Option Float)} (h : ∀ value ∈ values, Below? 100 value)
    (hlen : values.length ≤ 100) (hx : Arithmetic.meanPresent? values = some x) :
    Arithmetic.isNaN x = false := by
  apply isNaN_mean? _ _ hx
  · intro y hy
    obtain ⟨value, hmem, rfl⟩ := List.mem_filterMap.mp hy
    exact h (some y) hmem y rfl
  · exact Nat.le_trans (List.length_filterMap_le _ _) hlen

end Lists

end Appraisal.Double
