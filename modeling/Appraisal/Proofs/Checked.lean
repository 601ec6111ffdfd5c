import Appraisal.Checked
import Mathlib.Algebra.Group.Int.Defs
import Mathlib.Algebra.GroupWithZero.Nat
import Mathlib.Tactic.Common

/-!
# Exact or aborted

A checked operation on machine integers gives the exact result whenever that fits, and is aborted otherwise. Of
computations one after the other, each has to have a value.
-/

namespace Appraisal.Checked
variable {β γ : Type}

lemma exists_value {x : Checked β} (h : x ≠ aborted) : ∃ b, x = value b := by
  cases x with
  | value b => exact ⟨b, rfl⟩
  | aborted => exact absurd rfl h

/-- A result that is not nothing. -/
lemma exists_value_some {x : Checked (Option β)} (h : x ≠ aborted) (hnone : x ≠ value none) :
    ∃ b, x = value (some b) := by
  obtain ⟨found, rfl⟩ := exists_value h
  cases found with
  | none => exact absurd rfl hnone
  | some b => exact ⟨b, rfl⟩

/-- The integers of 32 bits. -/
def FitsInt32 (n : Int) : Prop := -2 ^ 31 ≤ n ∧ n < 2 ^ 31

instance : DecidablePred FitsInt32 := fun n => inferInstanceAs (Decidable (-2 ^ 31 ≤ n ∧ n < 2 ^ 31))

lemma toInt_sub_eq_iff {a b : Int32} : (a - b).toInt = a.toInt - b.toInt ↔ FitsInt32 (a.toInt - b.toInt) := by
  constructor
  · intro h
    rw [← h]
    exact ⟨(a - b).le_toInt, (a - b).toInt_lt⟩
  · rintro ⟨hlow, hhigh⟩
    rw [Int32.toInt_sub, Int.bmod_eq_emod]
    split <;> omega

lemma sub_eq_value_iff {a b d : Int32} : sub a b = value d ↔ d.toInt = a.toInt - b.toInt := by
  unfold sub
  split
  · rename_i hexact
    rw [value.injEq, ← hexact, Int32.toInt_inj, eq_comm]
  · rename_i hinexact
    refine ⟨nofun, fun h => absurd (toInt_sub_eq_iff.mpr ?_) hinexact⟩
    rw [← h]
    exact ⟨d.le_toInt, d.toInt_lt⟩

lemma sub_eq_aborted_iff {a b : Int32} : sub a b = aborted ↔ ¬ FitsInt32 (a.toInt - b.toInt) := by
  rw [← toInt_sub_eq_iff]
  unfold sub
  split <;> simp_all

lemma exists_sub {a b : Int32} (h : FitsInt32 (a.toInt - b.toInt)) :
    ∃ d, sub a b = value d ∧ d.toInt = a.toInt - b.toInt := by
  obtain ⟨d, hd⟩ := exists_value (mt sub_eq_aborted_iff.mp (not_not.mpr h))
  exact ⟨d, hd, sub_eq_value_iff.mp hd⟩

/-- Only the least number has no opposite. -/
lemma neg_eq_aborted_iff {a : Int64} : neg a = aborted ↔ a = Int64.minValue := by
  have hexact : (-a).toInt = -a.toInt ↔ a ≠ Int64.minValue := by
    have hlow := a.le_toInt
    have hhigh := a.toInt_lt
    have hleast : a = Int64.minValue ↔ a.toInt = -2 ^ 63 := by
      rw [← Int64.toInt_inj]
      rfl
    rw [ne_eq, hleast, Int64.toInt_neg, Int.bmod_eq_emod]
    split <;> omega
  unfold neg
  split
  · rename_i h
    simpa using hexact.mp h
  · rename_i h
    simpa using mt hexact.mpr h

lemma add_eq_value_iff {a b c : UInt32} : add a b = value c ↔ c.toNat = a.toNat + b.toNat := by
  unfold add
  split
  · rename_i hexact
    rw [value.injEq, ← hexact, UInt32.toNat_inj, eq_comm]
  · rename_i hinexact
    refine ⟨nofun, fun h => absurd ?_ hinexact⟩
    have hlt := c.toNat_lt
    rw [UInt32.toNat_add, Nat.mod_eq_of_lt (by omega)]

instance : LawfulMonad Checked :=
  have hid {δ : Type} (x : Checked δ) : id <$> x = x := by cases x <;> rfl
  have hassoc {δ ε ζ : Type} (x : Checked δ) (f : δ → Checked ε) (g : ε → Checked ζ) :
      x >>= f >>= g = x >>= fun a => f a >>= g := by cases x <;> rfl
  have hpure {δ ε : Type} (f : δ → ε) (x : Checked δ) : (x >>= fun a => pure (f a)) = f <$> x := by cases x <;> rfl
  .mk' Checked hid (fun _ _ => rfl) hassoc (fun _ _ => rfl) (fun _ _ => rfl) (fun _ _ => rfl) hpure

/-- Checked additions one after the other are one check of the whole sum. -/
lemma foldlM_add_eq_value_iff {xs : List UInt32} {start total : UInt32} :
    xs.foldlM add start = value total ↔ total.toNat = start.toNat + (xs.map UInt32.toNat).sum := by
  induction xs generalizing start with
  | nil => simp [← UInt32.toNat_inj, eq_comm]
  | cons x rest ih =>
    rw [List.foldlM_cons, bind_eq_value_iff, List.map_cons, List.sum_cons]
    simp only [add_eq_value_iff, ih]
    constructor
    · rintro ⟨next, hnext, htotal⟩
      omega
    · intro htotal
      have hlt : start.toNat + x.toNat < UInt32.size := Nat.lt_of_le_of_lt (by omega) total.toNat_lt
      refine ⟨UInt32.ofNat (start.toNat + x.toNat), UInt32.toNat_ofNat_of_lt' hlt, ?_⟩
      rw [UInt32.toNat_ofNat_of_lt' hlt, htotal, Nat.add_assoc]

/-- Whether there is a value, and it is such. -/
def any (p : β → Bool) : Checked β → Bool
  | value b => p b
  | aborted => false

lemma any_eq_true_iff {p : β → Bool} {x : Checked β} : x.any p = true ↔ ∃ b, x = value b ∧ p b := by
  cases x <;> simp [any]

/-- A list of computations is aborted with any one of them. -/
lemma mapM_eq_aborted_iff {f : β → Checked γ} {xs : List β} : xs.mapM f = aborted ↔ ∃ x ∈ xs, f x = aborted := by
  induction xs with
  | nil => simp
  | cons x rest ih =>
    simp only [List.mapM_cons, bind_eq_aborted_iff, ih, pure_eq, reduceCtorEq, and_false, exists_false, or_false,
      List.mem_cons, exists_eq_or_imp]
    constructor
    · rintro (hx | ⟨-, -, hrest⟩)
      · exact .inl hx
      · exact .inr hrest
    · rintro (hx | hrest)
      · exact .inl hx
      · cases hx : f x with
        | aborted => exact .inl rfl
        | value c => exact .inr ⟨c, rfl, hrest⟩

lemma mapM_eq_value {f : β → Checked γ} {g : β → γ} {xs : List β} (h : ∀ x ∈ xs, f x = value (g x)) :
    xs.mapM f = value (xs.map g) := by
  induction xs with
  | nil => rfl
  | cons x rest ih =>
    rw [List.mapM_cons, h x List.mem_cons_self, ih fun y hy => h y (List.mem_cons_of_mem _ hy)]
    rfl

lemma mapM_congr {f g : β → Checked γ} {xs : List β} (h : ∀ x ∈ xs, f x = g x) : xs.mapM f = xs.mapM g := by
  induction xs with
  | nil => rfl
  | cons x rest ih =>
    rw [List.mapM_cons, List.mapM_cons, h x List.mem_cons_self, ih fun y hy => h y (List.mem_cons_of_mem _ hy)]

/-- A step that is aborted whatever came before it aborts all the steps. -/
lemma foldlM_eq_aborted {f : γ → β → Checked γ} {xs : List β} (h : ∃ x ∈ xs, ∀ c, f c x = aborted) (start : γ) :
    xs.foldlM f start = aborted := by
  induction xs generalizing start with
  | nil =>
    obtain ⟨x, hx, -⟩ := h
    cases hx
  | cons first rest ih =>
    rw [List.foldlM_cons, bind_eq_aborted_iff]
    obtain ⟨x, hx, haborted⟩ := h
    rcases List.mem_cons.mp hx with rfl | hx
    · exact .inl (haborted start)
    · cases hfirst : f start first with
      | aborted => exact .inl rfl
      | value next => exact .inr ⟨next, rfl, ih ⟨x, hx, haborted⟩ next⟩

/-- Whether two computations are aborted together, and else come to related values. -/
inductive Rel (R : β → γ → Prop) : Checked β → Checked γ → Prop
  | value {b : β} {c : γ} (h : R b c) : Rel R (value b) (value c)
  | aborted : Rel R aborted aborted

lemma sum_eq_value_iff {xs : List UInt32} {total : UInt32} :
    sum xs = value total ↔ total.toNat = (xs.map UInt32.toNat).sum := by
  rw [sum, foldlM_add_eq_value_iff]
  simp

lemma sum_eq_aborted_iff {xs : List UInt32} : sum xs = aborted ↔ 2 ^ 32 ≤ (xs.map UInt32.toNat).sum := by
  cases hsum : sum xs with
  | value total =>
    have htotal := sum_eq_value_iff.mp hsum
    have hlt := total.toNat_lt
    simp only [reduceCtorEq, false_iff]
    omega
  | aborted =>
    simp only [true_iff]
    by_contra hlt
    have hvalue : sum xs = value (UInt32.ofNat (xs.map UInt32.toNat).sum) :=
      sum_eq_value_iff.mpr (UInt32.toNat_ofNat_of_lt' (Nat.not_le.mp hlt))
    rw [hsum] at hvalue
    cases hvalue

end Appraisal.Checked
