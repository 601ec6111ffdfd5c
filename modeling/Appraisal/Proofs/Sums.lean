import Appraisal.Proofs.Quotients

/-!
# Sums in double precision

Positive numbers have a positive sum, however small they are, because rounding never loses a whole number. What is
defined stays defined when a finite number is added to it, and a finite number stays finite when it is multiplied by
a share of one.
-/

namespace Appraisal.Double
open Float.Model Float.Model.UnpackedFloat

section Positive

/-- Greater than zero, finite or not. -/
def IsPositive : UnpackedFloat → Prop
  | .finite .positive _ _ _ | .infinity .positive => True
  | _ => False

variable {m n : Nat} {e f : Int} {u v : UnpackedFloat} {x y : Float}

lemma lt_iff_isPositive : (0.0 : Float) < x ↔ IsPositive x.toModel.unpack := by
  rw [Double.lt_iff, unpack_zero]
  generalize x.toModel.unpack = u
  cases u with
  | notANumber => exact iff_of_false nofun id
  | zero s => exact iff_of_false nofun id
  | infinity s =>
    cases s with
    | negative => exact iff_of_false nofun id
    | positive => exact iff_of_true rfl trivial
  | finite s m e hm =>
    cases s with
    | negative => exact iff_of_false nofun id
    | positive => exact iff_of_true rfl trivial

lemma shiftAmount_le_log2 (he : -1074 ≤ e) : shiftAmount m e ≤ m.log2 := by
  unfold shiftAmount
  rw [targetExponent_eq]
  unfold totalExponent
  omega

lemma log2_le_shiftAmount : m.log2 ≤ shiftAmount m e + 52 := by
  unfold shiftAmount
  rw [targetExponent_eq]
  unfold totalExponent
  omega

/-- A mantissa of a number that is not too small is not lost when it is moved. -/
lemma div_shiftAmount_pos (hm : m ≠ 0) (he : -1074 ≤ e) : 0 < m / 2 ^ shiftAmount m e := by
  apply Nat.div_pos _ (Nat.two_pow_pos _)
  calc 2 ^ shiftAmount m e ≤ 2 ^ m.log2 := Nat.pow_le_pow_right (by decide) (shiftAmount_le_log2 he)
    _ ≤ m := Nat.log2_self_le hm

/-- Rounding leaves a number of its sign, with a mantissa that fits. -/
lemma exists_roundWithAccuracy (a : Accuracy) (s : Sign) (hm : m ≠ 0) (he : -1074 ≤ e) :
    ∃ n f hn, roundWithAccuracy Format.binary64 s m e a = .finite s n f hn ∧ n.log2 ≤ 52 ∧ -1074 ≤ f := by
  have hle := le_roundedMantissa (shiftToTargetExponent Format.binary64 m e a).1
  have hpos := div_shiftAmount_pos hm he
  rw [shifted_mantissa] at hle
  rw [roundWithAccuracy_eq]
  generalize (shiftToTargetExponent Format.binary64 m e a).1.roundedMantissa = r at hle ⊢
  have hr : r ≠ 0 := by omega
  have hr' := div_shiftAmount_pos (e := e + shiftAmount m e) hr (by omega)
  have hlog := @log2_le_shiftAmount r (e + shiftAmount m e)
  have hshift := @shiftAmount_le_log2 r (e + shiftAmount m e) (by omega)
  unfold ofParts
  dsimp only
  rw [dif_neg hr'.ne']
  refine ⟨_, _, hr', rfl, ?_, by omega⟩
  rw [log2_div_two_pow hshift hr]
  omega

lemma exists_round (s : Sign) (hm : m ≠ 0) (he : -1074 ≤ e) :
    ∃ n f hn, round Format.binary64 s m e = .finite s n f hn ∧ n.log2 ≤ 52 ∧ -1074 ≤ f := by
  unfold UnpackedFloat.round decreaseExponent
  rw [targetExponent_eq]
  apply exists_roundWithAccuracy
  · rw [Nat.shiftLeft_eq]
    exact Nat.mul_ne_zero hm (Nat.two_pow_pos _).ne'
  · omega

lemma unpack_infinity (s : Sign) : (Float.Model.pack (.infinity s)).unpack = .infinity s := by
  cases s <;> rfl

/-- What is too large is packed as infinite. -/
lemma unpack_pack_of_large (s : Sign) (hm : 0 < m) (he : 972 ≤ e) :
    (Float.Model.pack (.finite s m e hm)).unpack = .infinity s := by
  have hpack : UnpackedFloat.pack Format.binary64 (.finite s m e hm) = packedInfinity Format.binary64 s := by
    change (if 2048 ≤ (e + 1023 + 52).toNat + 1 then _ else _) = _
    rw [if_pos (by omega)]
  change UnpackedFloat.unpack Format.binary64 (UnpackedFloat.pack Format.binary64 _) = _
  rw [hpack]
  exact unpack_infinity s

lemma pack_isPositive (hpos : 0 < m) (hm : m.log2 ≤ 52) (he : -1074 ≤ e) :
    IsPositive (Float.Model.pack (.finite .positive m e hpos)).unpack := by
  by_cases hlarge : 972 ≤ e
  · rw [unpack_pack_of_large .positive hpos hlarge]
    trivial
  · by_cases hfull : m.log2 = 52
    · rw [unpack_pack_of_full .positive hpos hfull (by omega) (by omega)]
      trivial
    · have hlt : m < 2 ^ 52 := (Nat.log2_lt hpos.ne').mp (by omega)
      change IsPositive (UnpackedFloat.unpack Format.binary64 (UnpackedFloat.pack Format.binary64 _))
      rw [pack_finite .positive hpos (by omega), if_neg hfull, unpack_eq_decoded, sign_packComponents,
        unpackExponent_packComponents, unpackMantissa_packComponents]
      have hmantissa : (BitVec.ofNat 52 m).toNat = m := by
        rw [BitVec.toNat_ofNat]
        exact Nat.mod_eq_of_lt hlt
      unfold decoded ofParts
      rw [if_neg (by decide), if_pos (show (0 : BitVec 11) = 0#11 from rfl), hmantissa, dif_neg hpos.ne']
      trivial

lemma normalize_isPositive {n : Int} (hn : 0 < n) (he : -1074 ≤ e) (s : Sign) :
    IsPositive (Float.Model.pack (normalize Format.binary64 n e s)).unpack := by
  unfold UnpackedFloat.normalize
  rw [Int.compare_eq_gt.mpr hn]
  obtain ⟨m, f, hpos, hround, hm, hf⟩ := @exists_round n.toNat e .positive (by omega) he
  change IsPositive (Float.Model.pack (round Format.binary64 .positive n.toNat e)).unpack
  rw [hround]
  exact pack_isPositive hpos hm hf

/-- A number that is read is positive again when it is packed. -/
lemma IsPositive.packed (hu : IsPositive u) (hc : IsCanonical u) : IsPositive (Float.Model.pack u).unpack := by
  cases u with
  | finite s m e hm =>
    cases s with
    | positive => exact pack_isPositive hm hc.1 hc.2.1
    | negative => cases hu
  | infinity s =>
    cases s with
    | positive => trivial
    | negative => cases hu
  | zero s => cases hu
  | notANumber => cases hu

lemma add_isPositive (hu : IsPositive u) (hv : IsPositive v) (hcu : IsCanonical u) (hcv : IsCanonical v) :
    IsPositive (Float.Model.pack (add Format.binary64 u v)).unpack := by
  cases u with
  | notANumber => cases hu
  | zero s => cases hu
  | infinity s =>
    cases v with
    | notANumber => cases hv
    | zero t => cases hv
    | infinity t => cases s <;> cases t <;> trivial
    | finite t n f hn =>
      change IsPositive (Float.Model.pack (.infinity s)).unpack
      rwa [unpack_infinity]
  | finite s m e hm =>
    cases v with
    | notANumber => cases hv
    | zero t => cases hv
    | infinity t =>
      change IsPositive (Float.Model.pack (.infinity t)).unpack
      rwa [unpack_infinity]
    | finite t n f hn =>
      cases s with
      | negative => cases hu
      | positive =>
        cases t with
        | negative => cases hv
        | positive =>
          have he := hcu.2.1
          have hf := hcv.2.1
          apply normalize_isPositive _ (by omega)
          have hshift : 0 < m <<< (e - min e f).toNat := by
            rw [Nat.shiftLeft_eq]
            exact Nat.mul_pos hm (Nat.two_pow_pos _)
          exact Int.add_pos_of_pos_of_nonneg (Int.natCast_pos.mpr hshift) (Int.natCast_nonneg _)

lemma zero_add_isPositive (s : Sign) (hv : IsPositive v) (hcv : IsCanonical v) :
    IsPositive (Float.Model.pack (add Format.binary64 (.zero s) v)).unpack := by
  have hadd : add Format.binary64 (.zero s) v = v := by
    cases v with
    | notANumber => cases hv
    | zero t => cases hv
    | infinity t => rfl
    | finite t n f hn => rfl
  rw [hadd]
  exact hv.packed hcv

lemma isCanonical_unpack (x : Float) : IsCanonical x.toModel.unpack := unpack_isCanonical x.toModel.toBits.toBitVec

lemma add_pos (hx : (0.0 : Float) < x) (hy : (0.0 : Float) < y) : (0.0 : Float) < x + y := by
  rw [lt_iff_isPositive] at hx hy ⊢
  exact add_isPositive hx hy (isCanonical_unpack x) (isCanonical_unpack y)

lemma foldl_add_pos {xs : List Float} (hx : (0.0 : Float) < x) (h : ∀ y ∈ xs, (0.0 : Float) < y) :
    (0.0 : Float) < xs.foldl (· + ·) x := by
  induction xs generalizing x with
  | nil => exact hx
  | cons y ys ih => exact ih (add_pos hx (h y List.mem_cons_self)) fun z hz => h z (List.mem_cons_of_mem _ hz)

/-- Some positive numbers have a positive sum. -/
lemma sum_pos {xs : List Float} (hne : xs ≠ []) (h : ∀ y ∈ xs, (0.0 : Float) < y) :
    (0.0 : Float) < Arithmetic.sum xs := by
  cases xs with
  | nil => exact absurd rfl hne
  | cons y ys =>
    have hfirst : (0.0 : Float) < -(0.0 : Float) + y := by
      have hy := h y List.mem_cons_self
      rw [lt_iff_isPositive] at hy ⊢
      exact zero_add_isPositive .negative hy (isCanonical_unpack y)
    change (0.0 : Float) < ys.foldl (· + ·) (-(0.0 : Float) + y)
    exact foldl_add_pos hfirst fun z hz => h z (List.mem_cons_of_mem _ hz)

lemma not_le_of_lt (h : x < y) : ¬ y ≤ x := by
  rw [Double.lt_iff] at h
  rw [le_iff, compare_swap, h]
  decide

end Positive

section Defined
variable {m : Nat} {e : Int} {u v : UnpackedFloat} {x y : Float}

lemma ofParts_eq (s : Sign) (m : Nat) (e : Int) :
    ofParts s m e = .zero s ∨ ∃ hm, ofParts s m e = .finite s m e hm := by
  by_cases h : m = 0
  · exact .inl (dif_pos h)
  · exact .inr ⟨Nat.pos_of_ne_zero h, dif_neg h⟩

lemma isNaN_ofParts (s : Sign) (m : Nat) (e : Int) : (ofParts s m e).isNaN = false := by
  obtain h | ⟨hm, h⟩ := ofParts_eq s m e
  · rw [h]
    rfl
  · rw [h]
    rfl

lemma isNaN_roundWithAccuracy (s : Sign) (m : Nat) (e : Int) (a : Accuracy) :
    (roundWithAccuracy Format.binary64 s m e a).isNaN = false := by
  rw [roundWithAccuracy_eq]
  exact isNaN_ofParts _ _ _

lemma isNaN_normalize (n : Int) (e : Int) (s : Sign) : (normalize Format.binary64 n e s).isNaN = false := by
  unfold UnpackedFloat.normalize
  split
  · exact isNaN_roundWithAccuracy _ _ _ _
  · rfl
  · exact isNaN_roundWithAccuracy _ _ _ _

lemma ofParts_isFinite (s : Sign) (m : Nat) (e : Int) : (ofParts s m e).isFinite = true := by
  obtain h | ⟨hm, h⟩ := ofParts_eq s m e
  · rw [h]
    rfl
  · rw [h]
    rfl

lemma decoded_isFinite (s : Sign) {c : BitVec 11} (m : BitVec 52) (hc : c ≠ -1#11) :
    (decoded s c m).isFinite = true := by
  unfold decoded
  rw [if_neg hc]
  split
  · exact ofParts_isFinite _ _ _
  · exact ofParts_isFinite _ _ _

/-- What is not too large is finite when it is packed and read again. -/
lemma packed_isFinite (s : Sign) (hm : 0 < m) (he : e < 972) :
    (Float.Model.pack (.finite s m e hm)).unpack.isFinite = true := by
  change (UnpackedFloat.unpack Format.binary64 (UnpackedFloat.pack Format.binary64 _)).isFinite = true
  rw [pack_finite s hm he]
  split
  · obtain ⟨t, ht⟩ := unpack_components s (biased e) (BitVec.ofNat 52 m)
    rw [ht]
    exact decoded_isFinite t _ (biased_ne_allOnes he)
  · obtain ⟨t, ht⟩ := unpack_components s 0 (BitVec.ofNat 52 m)
    rw [ht]
    exact decoded_isFinite t _ (by decide)

/-- What is defined is defined when it is packed and read again. -/
lemma isNaN_packed (hu : u.isNaN = false) : (Float.Model.pack u).unpack.isNaN = false := by
  cases u with
  | notANumber => cases hu
  | infinity s =>
    rw [unpack_infinity]
    rfl
  | zero s => cases s <;> rfl
  | finite s m e hm =>
    by_cases hlarge : 972 ≤ e
    · rw [unpack_pack_of_large s hm hlarge]
      rfl
    · have hfinite := packed_isFinite s hm (Int.not_le.mp hlarge)
      cases hv : (Float.Model.pack (.finite s m e hm)).unpack with
      | notANumber =>
        rw [hv] at hfinite
        cases hfinite
      | _ => rfl

lemma add_isNaN (hu : u.isNaN = false) (hv : v.isFinite = true) : (add Format.binary64 u v).isNaN = false := by
  cases v with
  | notANumber => cases hv
  | infinity t => cases hv
  | zero t =>
    cases u with
    | notANumber => cases hu
    | zero s => cases s <;> cases t <;> rfl
    | infinity s => rfl
    | finite s m e hm => rfl
  | finite t n f hn =>
    cases u with
    | notANumber => cases hu
    | zero s => rfl
    | infinity s => rfl
    | finite s m e hm => exact isNaN_normalize _ _ _

lemma neg_isFinite (hu : u.isFinite = true) : u.neg.isFinite = true := by
  cases u with
  | notANumber => cases hu
  | infinity s => cases hu
  | zero s => rfl
  | finite s m e hm => rfl

lemma mul_isNaN {k : Int} (hu : u.isNaN = false) (hv : IsAtLeast k v) : (mul Format.binary64 u v).isNaN = false := by
  cases v with
  | notANumber => cases hv
  | infinity t => cases hv
  | zero t => cases hv
  | finite t n f hn =>
    cases u with
    | notANumber => cases hu
    | zero s => rfl
    | infinity s => rfl
    | finite s m e hm => exact isNaN_roundWithAccuracy _ _ _ _

/-- A defined number stays defined when a finite one is added to it. -/
lemma isNaN_add (hx : Arithmetic.isNaN x = false) (hy : Arithmetic.isFinite y = true) :
    Arithmetic.isNaN (x + y) = false := isNaN_packed (add_isNaN hx hy)

lemma isNaN_sub (hx : Arithmetic.isNaN x = false) (hy : Arithmetic.isFinite y = true) :
    Arithmetic.isNaN (x - y) = false := by
  refine isNaN_packed ?_
  rw [sub_eq_add_neg]
  exact add_isNaN hx (neg_isFinite hy)

lemma isNaN_mul {k : Int} (hx : Arithmetic.isNaN x = false) (hy : AtLeast k y) : Arithmetic.isNaN (x * y) = false :=
  isNaN_packed (mul_isNaN hx hy)

lemma isNaN_foldl_add {xs : List Float} (hx : Arithmetic.isNaN x = false)
    (h : ∀ y ∈ xs, Arithmetic.isFinite y = true) : Arithmetic.isNaN (xs.foldl (· + ·) x) = false := by
  induction xs generalizing x with
  | nil => exact hx
  | cons y ys ih =>
    exact ih (isNaN_add hx (h y List.mem_cons_self)) fun z hz => h z (List.mem_cons_of_mem _ hz)

/-- A sum of finite numbers may overflow, but it is defined. -/
lemma isNaN_sum {xs : List Float} (h : ∀ y ∈ xs, Arithmetic.isFinite y = true) :
    Arithmetic.isNaN (Arithmetic.sum xs) = false := isNaN_foldl_add rfl h

end Defined

section Shares
variable {m n k : Nat} {e f : Int} {u v : UnpackedFloat} {x y : Float}

/-- Rounding does not pass a bound that needs no rounding. -/
lemma roundedMantissa_le_of_le (h : m ≤ n * 2 ^ k) :
    ((ExtendedMantissa.ofMantissaAndAccuracy m .exact) >>> k).roundedMantissa ≤ n := by
  rcases Nat.lt_or_eq_of_le h with hlt | rfl
  · have hle := roundedMantissa_le ((ExtendedMantissa.ofMantissaAndAccuracy m .exact) >>> k)
    rw [shiftRight_mantissa, ofMantissaAndAccuracy_mantissa] at hle
    have hdiv : m / 2 ^ k < n := (Nat.div_lt_iff_lt_mul (Nat.two_pow_pos k)).mpr hlt
    omega
  · rw [shiftRight_mul_two_pow]
    exact Nat.le_refl n

lemma div_shiftAmount_lt_full (m : Nat) (e : Int) : m / 2 ^ shiftAmount m e < 2 ^ 53 := by
  rw [Nat.div_lt_iff_lt_mul (Nat.two_pow_pos _), ← Nat.pow_add]
  calc m < 2 ^ (m.log2 + 1) := Nat.lt_log2_self
    _ ≤ 2 ^ (53 + shiftAmount m e) := Nat.pow_le_pow_right (by decide) (by
      have hlog := @log2_le_shiftAmount m e
      omega)

/-- The exponent to which a mantissa is moved when the number is not above the greatest finite one. -/
lemma moved_exponent_mem (he : e ≤ 971) (h : m ≤ (2 ^ 53 - 1) * 2 ^ (971 - e).toNat) :
    -1074 ≤ e + shiftAmount m e ∧ e + shiftAmount m e ≤ 971 := by
  have hlt : m < 2 ^ (53 + (971 - e).toNat) := by
    rw [Nat.pow_add]
    exact Nat.lt_of_le_of_lt h (Nat.mul_lt_mul_of_pos_right (by decide) (Nat.two_pow_pos _))
  have hlog : m.log2 < 53 + (971 - e).toNat := by
    by_cases hm : m = 0
    · subst hm
      rw [Nat.log2_zero]
      omega
    · exact (Nat.log2_lt hm).mpr hlt
  unfold shiftAmount
  rw [targetExponent_eq]
  unfold totalExponent
  omega

/-- A rounded mantissa may be longer by one digit, but not at the greatest exponent. -/
lemma log2_rounded_le (h : m ≤ (2 ^ 53 - 1) * 2 ^ (971 - e).toNat) :
    let r := (shiftToTargetExponent Format.binary64 m e .exact).1.roundedMantissa
    r.log2 ≤ 53 ∧ (e + shiftAmount m e = 971 → r.log2 ≤ 52) := by
  intro r
  have hlog {k : Nat} (hr : r < 2 ^ (k + 1)) : r.log2 ≤ k := by
    by_cases hzero : r = 0
    · rw [hzero, Nat.log2_zero]
      exact Nat.zero_le k
    · exact Nat.lt_succ_iff.mp ((Nat.log2_lt hzero).mpr hr)
  constructor
  · apply hlog
    have hle : r ≤ _ := roundedMantissa_le (shiftToTargetExponent Format.binary64 m e .exact).1
    rw [shifted_mantissa] at hle
    have hlt := div_shiftAmount_lt_full m e
    omega
  · intro hgreatest
    apply hlog
    have hle : r ≤ 2 ^ 53 - 1 := by
      apply roundedMantissa_le_of_le
      change m ≤ (2 ^ 53 - 1) * 2 ^ shiftAmount m e
      rwa [show shiftAmount m e = (971 - e).toNat by omega]
    omega

/-- What is not above the greatest finite number stays finite when it is rounded and packed. -/
lemma roundWithAccuracy_isFinite (s : Sign) (he : e ≤ 971) (h : m ≤ (2 ^ 53 - 1) * 2 ^ (971 - e).toNat) :
    (Float.Model.pack (roundWithAccuracy Format.binary64 s m e .exact)).unpack.isFinite = true := by
  obtain ⟨hleast, hmost⟩ := moved_exponent_mem he h
  obtain ⟨hlog, hgreatest⟩ := log2_rounded_le h
  rw [roundWithAccuracy_eq]
  generalize (shiftToTargetExponent Format.binary64 m e .exact).1.roundedMantissa = r at hlog hgreatest ⊢
  have hexponent : e + shiftAmount m e + shiftAmount r (e + shiftAmount m e) < 972 := by
    generalize e + (shiftAmount m e : Int) = e₁ at *
    unfold shiftAmount
    rw [targetExponent_eq]
    unfold totalExponent
    omega
  obtain h | ⟨hm, h⟩ := ofParts_eq s (r / 2 ^ shiftAmount r (e + shiftAmount m e))
    (e + shiftAmount m e + shiftAmount r (e + shiftAmount m e))
  · rw [h]
    cases s <;> rfl
  · rw [h]
    exact packed_isFinite s hm hexponent

/-- Zero, or finite with an exponent that is not too large for packing. -/
def Fits : UnpackedFloat → Prop
  | .zero _ => True
  | .finite _ m e _ => m < 2 ^ 53 ∧ e ≤ 971
  | _ => False

/-- Between zero and one. -/
def IsShare : UnpackedFloat → Prop
  | .zero _ => True
  | .finite .positive m e _ => e ≤ -52 ∧ m ≤ 2 ^ (-e).toNat
  | _ => False

lemma ofParts_fits (s : Sign) (hm : m < 2 ^ 53) (he : e ≤ 971) : Fits (ofParts s m e) := by
  obtain h | ⟨hpos, h⟩ := ofParts_eq s m e
  · rw [h]
    trivial
  · rw [h]
    exact ⟨hm, he⟩

lemma fits_of_isFinite (hx : Arithmetic.isFinite x = true) : Fits x.toModel.unpack := by
  change (UnpackedFloat.unpack Format.binary64 x.toModel.toBits.toBitVec).isFinite = true at hx
  change Fits (UnpackedFloat.unpack Format.binary64 x.toModel.toBits.toBitVec)
  rw [unpack_eq_decoded] at hx ⊢
  generalize @unpackExponent Format.binary64 _ = c at hx ⊢
  generalize @unpackMantissa Format.binary64 _ = b at hx ⊢
  have hc : c.toNat < 2048 := c.isLt
  unfold decoded at hx ⊢
  by_cases hones : c = -1#11
  · rw [if_pos hones] at hx
    split at hx <;> cases hx
  · have hne : c.toNat ≠ 2047 := fun heq => hones (BitVec.eq_of_toNat_eq heq)
    have hb : b.toNat < 2 ^ 52 := b.isLt
    rw [if_neg hones]
    split
    · exact ofParts_fits _ (by omega) (by omega)
    · exact ofParts_fits _ (toNat_append_lt b) (by omega)

lemma isShare_of_mem (hx : (0.0 : Float) ≤ x) (hx' : x ≤ 1.0) : IsShare x.toModel.unpack := by
  have hone : (1.0 : Float).toModel.unpack = .finite .positive (2 ^ 52) (-52) (by decide) := rfl
  have hc := isCanonical_unpack x
  rw [le_iff, unpack_zero] at hx
  rw [le_iff, hone] at hx'
  generalize x.toModel.unpack = u at hx hx' hc ⊢
  cases u with
  | notANumber => cases hx
  | zero s => trivial
  | infinity s =>
    cases s with
    | negative => cases hx
    | positive => cases hx'
  | finite s m e hm =>
    cases s with
    | negative => cases hx
    | positive =>
      have hlog : m < 2 ^ (52 + 1) := (Nat.log2_lt hm.ne').mp (Nat.lt_succ_iff.mpr hc.1)
      change ((compare e (-52)).then (compare m (2 ^ 52))).isLE = true at hx'
      rcases Int.lt_trichotomy e (-52) with hlt | rfl | hgt
      · refine ⟨hlt.le, hlog.le.trans (Nat.pow_le_pow_right (by decide) (by omega))⟩
      · rw [Int.compare_eq_eq.mpr rfl] at hx'
        exact ⟨le_rfl, Nat.isLE_compare.mp hx'⟩
      · rw [Int.compare_eq_gt.mpr hgt] at hx'
        cases hx'

lemma mul_isFinite (hu : IsShare u) (hv : Fits v) :
    (Float.Model.pack (mul Format.binary64 u v)).unpack.isFinite = true := by
  have hzero : ∀ s : Sign, (Float.Model.pack (.zero s)).unpack.isFinite = true := by
    rintro (_ | _) <;> rfl
  cases v with
  | notANumber => cases hv
  | infinity t => cases hv
  | zero t =>
    cases u with
    | notANumber => cases hu
    | infinity s => cases hu
    | zero s => exact hzero (s * t)
    | finite s m e hm => exact hzero (s * t)
  | finite t n f hn =>
    cases u with
    | notANumber => cases hu
    | infinity s => cases hu
    | zero s => exact hzero (s * t)
    | finite s m e hm =>
      cases s with
      | negative => cases hu
      | positive =>
        obtain ⟨he, hm'⟩ := hu
        obtain ⟨hn', hf⟩ := hv
        apply roundWithAccuracy_isFinite _ (by omega)
        calc m * n ≤ 2 ^ (-e).toNat * (2 ^ 53 - 1) := Nat.mul_le_mul hm' (Nat.le_sub_one_of_lt hn')
          _ ≤ 2 ^ (971 - (e + f)).toNat * (2 ^ 53 - 1) :=
            Nat.mul_le_mul_right _ (Nat.pow_le_pow_right (by decide) (by omega))
          _ = (2 ^ 53 - 1) * 2 ^ (971 - (e + f)).toNat := Nat.mul_comm _ _

/-- A finite number stays finite when it is multiplied by a share of one. -/
lemma isFinite_mul (hx : (0.0 : Float) ≤ x) (hx' : x ≤ 1.0) (hy : Arithmetic.isFinite y = true) :
    Arithmetic.isFinite (x * y) = true := mul_isFinite (isShare_of_mem hx hx') (fits_of_isFinite hy)

end Shares

end Appraisal.Double
