import Appraisal.Calendar.Reader
import Appraisal.Decimal.Fixed
import Mathlib.Algebra.Group.Nat.Defs
import Mathlib.Data.List.Basic
import Mathlib.Tactic.Common

/-!
# Digits

Numbers written with a fixed count of digits. Such a text reads back as its number, and the order of
the texts is the order of the numbers.
-/

namespace Appraisal.Decimal

/-- The last `width` digits of a number. -/
def lastDigits : Nat → Nat → List Char
  | 0, _ => []
  | width + 1, n => lastDigits width (n / 10) ++ [Nat.digitChar (n % 10)]

@[simp]
lemma length_lastDigits (width n : Nat) : (lastDigits width n).length = width := by
  induction width generalizing n with
  | zero => rfl
  | succ width ih => rw [lastDigits, List.length_append, ih, List.length_singleton]

lemma isDigit_of_mem_lastDigits {width n : Nat} {c : Char} (h : c ∈ lastDigits width n) : c.isDigit := by
  induction width generalizing n with
  | zero => cases h
  | succ width ih =>
    rw [lastDigits, List.mem_append, List.mem_singleton] at h
    rcases h with h | rfl
    · exact ih h
    · rw [Nat.isDigit_digitChar]
      simp only [decide_eq_true_eq]
      omega

lemma replicate_append_toDigits (width n : Nat) (h : n < 10 ^ (width + 1)) :
    List.replicate (width + 1 - (Nat.toDigits 10 n).length) '0' ++ Nat.toDigits 10 n =
      lastDigits (width + 1) n := by
  induction width generalizing n with
  | zero =>
    have hn : n < 10 := by simpa using h
    simp [Nat.toDigits_of_lt_base hn, lastDigits, Nat.mod_eq_of_lt hn]
  | succ width ih =>
    rw [lastDigits]
    by_cases hn : n < 10
    · have hzero : n / 10 = 0 := by omega
      have hprefix := ih 0 (Nat.pow_pos (by omega))
      rw [Nat.toDigits_zero, List.length_singleton] at hprefix
      rw [hzero, ← hprefix, Nat.toDigits_of_lt_base hn, Nat.mod_eq_of_lt hn, List.length_singleton]
      simp [← List.replicate_succ']
    · have hquotient : n / 10 < 10 ^ (width + 1) := by
        rw [Nat.pow_succ] at h
        omega
      rw [← ih (n / 10) hquotient, Nat.toDigits_of_base_le (by omega) (by omega : 10 ≤ n)]
      simp

lemma toList_padded (width : Nat) {n : Nat} (hpos : 0 < width) (h : n < 10 ^ width) :
    (padded width n).toList = lastDigits width n := by
  obtain ⟨w, rfl⟩ : ∃ w, width = w + 1 := ⟨width - 1, by omega⟩
  have hlength : n.repr.length = (Nat.toDigits 10 n).length := by
    rw [← Nat.toList_repr, String.length_toList]
  rw [padded, String.toList_append, String.toList_ofList, Nat.toList_repr, hlength,
    replicate_append_toDigits w n h]

lemma lastDigits_add (a b n : Nat) :
    lastDigits (a + b) n = lastDigits a (n / 10 ^ b) ++ lastDigits b n := by
  induction b generalizing n with
  | zero => simp [lastDigits]
  | succ b ih =>
    rw [← Nat.add_assoc, lastDigits, ih, lastDigits, Nat.div_div_eq_div_mul, Nat.pow_succ, Nat.mul_comm,
      List.append_assoc]

lemma lastDigits_of_dvd {width n : Nat} (h : n % 10 ^ width = 0) :
    lastDigits width n = List.replicate width '0' := by
  induction width generalizing n with
  | zero => rfl
  | succ width ih =>
    obtain ⟨k, hk⟩ := Nat.dvd_of_mod_eq_zero h
    have hlast : n % 10 = 0 := by
      rw [hk, Nat.pow_succ, Nat.mul_comm _ 10, Nat.mul_assoc]
      exact Nat.mul_mod_right 10 _
    have hrest : n / 10 = 10 ^ width * k := by
      rw [hk, Nat.pow_succ, Nat.mul_comm _ 10, Nat.mul_assoc]
      exact Nat.mul_div_cancel_left _ (by omega)
    rw [lastDigits, ih (by rw [hrest]; exact Nat.mul_mod_right _ _), hlast, List.replicate_succ']
    rfl

lemma append_lt_append_of_length_eq {a b : List Char} (hlength : a.length = b.length) (h : a < b)
    (x y : List Char) : a ++ x < b ++ y := by
  induction a generalizing b with
  | nil =>
    cases b with
    | nil => exact absurd h (List.lt_irrefl [])
    | cons d b => simp at hlength
  | cons c a ih =>
    cases b with
    | nil => simp at hlength
    | cons d b =>
      rw [List.cons_append, List.cons_append]
      rcases List.cons_lt_cons_iff.mp h with hcd | ⟨rfl, hab⟩
      · exact List.cons_lt_cons_iff.mpr (.inl hcd)
      · have hrest := ih (by simpa using hlength) hab
        exact List.cons_lt_cons_iff.mpr (.inr ⟨rfl, hrest⟩)

lemma digitChar_lt {d e : Nat} (h : d < e) (he : e < 10) : Nat.digitChar d < Nat.digitChar e := by
  have hd := Nat.toNat_digitChar_of_lt_ten (by omega : d < 10)
  have he := Nat.toNat_digitChar_of_lt_ten he
  rw [Char.lt_def, UInt32.lt_iff_toNat_lt]
  simp only [Char.toNat] at hd he
  omega

lemma lastDigits_lt {width n m : Nat} (h : n < m) (hm : m < 10 ^ width) :
    lastDigits width n < lastDigits width m := by
  induction width generalizing n m with
  | zero =>
    have : m = 0 := by simpa using hm
    omega
  | succ width ih =>
    rw [lastDigits, lastDigits]
    have hquotient : m / 10 < 10 ^ width := by
      rw [Nat.pow_succ] at hm
      omega
    by_cases hlt : n / 10 < m / 10
    · exact append_lt_append_of_length_eq (by simp) (ih hlt hquotient) _ _
    · have heq : n / 10 = m / 10 := by omega
      rw [heq]
      apply List.append_left_lt
      exact List.cons_lt_cons_iff.mpr (.inl (digitChar_lt (by omega) (by omega)))

lemma lastDigits_append_lt {width n m : Nat} {x y : List Char} (hm : m < 10 ^ width)
    (h : n < m ∨ n = m ∧ x < y) : lastDigits width n ++ x < lastDigits width m ++ y := by
  rcases h with hlt | ⟨rfl, hxy⟩
  · exact append_lt_append_of_length_eq (by simp) (lastDigits_lt hlt hm) x y
  · exact List.append_left_lt hxy

/-- Digits are not before zeros. -/
lemma not_lt_zeros {a : List Char} (ha : ∀ c ∈ a, c.isDigit) : ¬a < List.replicate a.length '0' := by
  induction a with
  | nil => exact List.lt_irrefl []
  | cons c a ih =>
    intro h
    rcases List.cons_lt_cons_iff.mp h with hc | ⟨-, hrest⟩
    · have hdigit := ha c List.mem_cons_self
      simp only [Char.isDigit, ge_iff_le, Bool.and_eq_true, decide_eq_true_eq] at hdigit
      rw [Char.lt_def] at hc
      exact absurd hdigit.1 (UInt32.not_le.mpr hc)
    · exact ih (fun d hd => ha d (List.mem_cons_of_mem c hd)) hrest

lemma plus_lt_of_isDigit {c : Char} (h : c.isDigit) : '+' < c := by
  simp only [Char.isDigit, ge_iff_le, Bool.and_eq_true, decide_eq_true_eq] at h
  rw [Char.lt_def]
  exact UInt32.lt_of_lt_of_le (by decide) h.1

/-- Zeros at the end of a fraction do not matter for the order, because a plus sign comes before all
digits. -/
lemma trimmed_lt {a b zone : List Char} (ha : ∀ c ∈ a, c.isDigit) (hb : ∀ c ∈ b, c.isDigit) {k l : Nat}
    (hlength : a.length + k = b.length + l)
    (h : a ++ List.replicate k '0' < b ++ List.replicate l '0') :
    a ++ '+' :: zone < b ++ '+' :: zone := by
  induction a generalizing b with
  | nil =>
    cases b with
    | nil =>
      have hkl : k = l := by simpa using hlength
      subst hkl
      exact absurd h (List.lt_irrefl _)
    | cons d b => exact List.cons_lt_cons_iff.mpr (.inl (plus_lt_of_isDigit (hb d List.mem_cons_self)))
  | cons c a ih =>
    cases b with
    | nil =>
      -- What is left of `a` is digits, and these do not come before zeros.
      have hdigits : ∀ d ∈ (c :: a) ++ List.replicate k '0', d.isDigit := by
        intro d hd
        rcases List.mem_append.mp hd with hd | hd
        · exact ha d hd
        · rw [List.eq_of_mem_replicate hd]
          rfl
      have hlen : l = ((c :: a) ++ List.replicate k '0').length := by
        simp at hlength ⊢
        omega
      rw [List.nil_append, hlen] at h
      exact absurd h (not_lt_zeros hdigits)
    | cons d b =>
      rw [List.cons_append, List.cons_append] at h ⊢
      rcases List.cons_lt_cons_iff.mp h with hcd | ⟨rfl, hrest⟩
      · exact List.cons_lt_cons_iff.mpr (.inl hcd)
      · have htail := ih (fun e he => ha e (List.mem_cons_of_mem c he))
          (fun e he => hb e (List.mem_cons_of_mem c he)) (by simp at hlength; omega) hrest
        exact List.cons_lt_cons_iff.mpr (.inr ⟨rfl, htail⟩)

end Appraisal.Decimal
