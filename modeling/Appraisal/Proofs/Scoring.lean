import Mathlib.Data.List.Chain
import Appraisal.Proofs.Magnitudes
import Appraisal.Scoring.Curve
import Appraisal.Scoring.Scorecard

/-!
# Scoring in double precision

A curve through moderate points has a moderate value at every quantity that is defined, also at an
infinite one. A scorecard whose components are defined gives a score in its range.
-/

namespace Appraisal
open Double

namespace Curve

/-- A point whose coordinates are of moderate size. -/
def IsModerate (p : Float × Float) : Prop := Below 13 p.1 ∧ Below 7 p.2

instance : DecidablePred IsModerate := fun p =>
  inferInstanceAs (Decidable (Below 13 p.1 ∧ Below 7 p.2))

/-- Whether two neighbouring points leave room between them. -/
def AreApart (left right : Float × Float) : Prop := AtLeast (-5) (right.1 - left.1)

instance : DecidableRel AreApart := fun left right =>
  inferInstanceAs (Decidable (AtLeast (-5) (right.1 - left.1)))

/-- There is a point, and all points are moderate and apart from one another. -/
def IsGentle (c : Curve Float) : Prop :=
  c.points ≠ [] ∧ (∀ p ∈ c.points, IsModerate p) ∧ c.points.IsChain AreApart

instance : DecidablePred IsGentle := fun c => inferInstanceAs
  (Decidable (c.points ≠ [] ∧ (∀ p ∈ c.points, IsModerate p) ∧ c.points.IsChain AreApart))

/-- A place at which `x` lies on a gentle curve. -/
def Place.Suits (x : Float) : Place Float → Prop
  | .level y => Below 7 y
  | .between left right =>
    IsModerate left ∧ IsModerate right ∧ AreApart left right ∧ left.1 ≤ x ∧ x ≤ right.1

variable {x : Float}

lemma below_interpolate {left right : Float × Float}
    (h : (Place.between left right).Suits x) : Below 33 (interpolate left right x) := by
  obtain ⟨hleft, hright, hapart, hle, hle'⟩ := h
  have hx : Below 13 x := hleft.1.of_between hright.1 hle hle'
  have hrun : Below 15 (x - left.1) := hx.sub hleft.1 (by omega) (by omega)
  have hshare : Below 21 ((x - left.1) / (right.1 - left.1)) :=
    hrun.div hapart (by omega) (by omega)
  have hrise : Below 9 (right.2 - left.2) := hright.2.sub hleft.2 (by omega) (by omega)
  have hpart : Below 31 ((x - left.1) / (right.1 - left.1) * (right.2 - left.2)) :=
    hshare.mul hrise (by omega) (by omega)
  exact (hleft.2.mono (by omega)).add hpart (by omega) (by omega)

lemma placeAfter_suits {left : Float × Float} {rest : List (Float × Float)}
    (hx : Arithmetic.isNaN x = false) (hle : left.1 ≤ x)
    (hmoderate : ∀ p ∈ left :: rest, IsModerate p) (hapart : (left :: rest).IsChain AreApart) :
    (placeAfter left x rest).Suits x := by
  induction rest generalizing left with
  | nil => exact (hmoderate left List.mem_cons_self).2
  | cons right rest ih =>
    have hleft := hmoderate left List.mem_cons_self
    have hright := hmoderate right (List.mem_cons_of_mem _ List.mem_cons_self)
    obtain ⟨hgap, hchain⟩ := List.isChain_cons_cons.mp hapart
    unfold placeAfter
    split
    · rename_i hle'
      exact ⟨hleft, hright, hgap, hle, hle'⟩
    · rename_i hnot
      have hright' := le_of_not_le hx hright.1.isNaN hnot
      exact ih hright' (fun p hp => hmoderate p (List.mem_cons_of_mem _ hp)) hchain

/-- A gentle curve has a moderate value wherever it is read. -/
lemma IsGentle.below_eval {c : Curve Float} (h : c.IsGentle) (hx : Arithmetic.isNaN x = false) :
    Below 33 (c.eval x) := by
  obtain ⟨hne, hmoderate, hapart⟩ := h
  unfold eval place?
  cases hpoints : c.points with
  | nil => exact absurd hpoints hne
  | cons first rest =>
    rw [hpoints] at hmoderate hapart
    have hfirst := hmoderate first List.mem_cons_self
    simp only [hx, Bool.false_eq_true, if_false]
    by_cases hle : x ≤ first.1
    · rw [if_pos hle]
      exact hfirst.2.mono (by omega)
    · rw [if_neg hle]
      have hle' := le_of_not_le hx hfirst.1.isNaN hle
      have hsuits := placeAfter_suits hx hle' hmoderate hapart
      cases hplace : placeAfter first x rest with
      | level y =>
        rw [hplace] at hsuits
        exact Below.mono hsuits (by omega)
      | between left right =>
        rw [hplace] at hsuits
        exact below_interpolate hsuits

end Curve

namespace Score

/-- The value lies in 0 to 100, and the confidence in 0 to 1. -/
def IsInRange {α : Type} [Arithmetic α] (s : Score α) : Prop :=
  ((0.0 : α) ≤ s.value ∧ s.value ≤ 100.0) ∧ ((0.0 : α) ≤ s.confidence ∧ s.confidence ≤ 1.0)

variable {s : Score Float} {value confidence : Float}

lemma percent_range : (0.0 : Float) ≤ 100.0 := by decide

lemma share_range : (0.0 : Float) ≤ 1.0 := by decide

lemma below_of_percent {x : Float} (h : (0.0 : Float) ≤ x) (h' : x ≤ 100.0) : Below 7 x :=
  Below.of_between (by decide) (by decide) h h'

lemma below_of_share {x : Float} (h : (0.0 : Float) ≤ x) (h' : x ≤ 1.0) : Below 1 x :=
  Below.of_between (by decide) (by decide) h h'

/-- A value and a confidence that are defined are moved into range. -/
lemma of_isInRange (hvalue : Arithmetic.isNaN value = false)
    (hconfidence : Arithmetic.isNaN confidence = false) (reasoning : String) :
    (Score.of value confidence reasoning).IsInRange :=
  ⟨clamp_mem hvalue percent_range, clamp_mem hconfidence share_range⟩

lemma IsInRange.below_value (h : s.IsInRange) : Below 7 s.value :=
  below_of_percent h.1.1 h.1.2

lemma IsInRange.below_confidence (h : s.IsInRange) : Below 1 s.confidence :=
  below_of_share h.2.1 h.2.2

lemma IsInRange.isFinite (h : s.IsInRange) : s.isFinite = true := by
  unfold Score.isFinite
  rw [h.below_value.isFinite, h.below_confidence.isFinite]
  rfl

end Score

namespace Scorecard

/-- At most `n` entries, and every component has a weight of at most one and a score that is
defined. -/
structure IsSound (n : Nat) (card : Scorecard Float) : Prop where
  length : card.length ≤ n
  parts : ∀ part, Entry.component part ∈ card →
    Below 0 part.weight ∧ Arithmetic.isNaN part.score = false

variable {m n : Nat} {card other : Scorecard Float}

lemma isSound_nil : IsSound n [] := ⟨Nat.zero_le n, fun _ hpart => absurd hpart List.not_mem_nil⟩

/-- An entry that is no component adds nothing but itself. -/
lemma IsSound.cons (h : IsSound n card) {entry : Entry Float}
    (hentry : ∀ part, entry ≠ .component part) : IsSound (n + 1) (entry :: card) := by
  constructor
  · exact Nat.succ_le_succ h.length
  · intro part hpart
    rcases List.mem_cons.mp hpart with heq | hmem
    · exact absurd heq.symm (hentry part)
    · exact h.parts part hmem

lemma IsSound.slot (h : IsSound n card) {name : String} {present : Bool} :
    IsSound (n + 1) (.slot name present :: card) := h.cons (fun _ => nofun)

lemma IsSound.reason (h : IsSound n card) {text : String} : IsSound (n + 1) (.reason text :: card) :=
  h.cons (fun _ => nofun)

lemma IsSound.dataPoint (h : IsSound n card) {key : String} {value : Json Float} :
    IsSound (n + 1) (.dataPoint key value :: card) := h.cons (fun _ => nofun)

lemma IsSound.component (h : IsSound n card) {part : Component Float} (hweight : Below 0 part.weight)
    (hscore : Arithmetic.isNaN part.score = false) : IsSound (n + 1) (.component part :: card) := by
  constructor
  · exact Nat.succ_le_succ h.length
  · intro q hq
    rcases List.mem_cons.mp hq with heq | hmem
    · cases heq
      exact ⟨hweight, hscore⟩
    · exact h.parts q hmem

lemma IsSound.ite {p : Prop} [Decidable p] (h : IsSound n card) (h' : IsSound n other) :
    IsSound n (if p then card else other) := by
  split
  · exact h
  · exact h'

lemma IsSound.mono (h : IsSound m card) (hmn : m ≤ n) : IsSound n card :=
  ⟨Nat.le_trans h.length hmn, h.parts⟩

lemma IsSound.append (h : IsSound m card) (h' : IsSound n other) :
    IsSound (m + n) (card ++ other) := by
  constructor
  · rw [List.length_append]
    exact Nat.add_le_add h.length h'.length
  · intro part hpart
    rcases List.mem_append.mp hpart with hmem | hmem
    · exact h.parts part hmem
    · exact h'.parts part hmem

lemma IsSound.given {β : Type} {x : Option β} {entries : β → Scorecard Float}
    (h : ∀ y, x = some y → IsSound n (entries y)) : IsSound n (given x entries) := by
  cases x with
  | none => exact ⟨Nat.zero_le _, by simp [Scorecard.given]⟩
  | some y => exact h y rfl

lemma components_length_le : card.components.length ≤ card.length := List.length_filterMap_le _ _

lemma slots_length_le : card.slots.length ≤ card.length := List.length_filterMap_le _ _

lemma IsSound.below_product (h : IsSound n card) {part : Component Float}
    (hpart : part ∈ card.components) : Below 8 (part.weight * part.score) := by
  obtain ⟨entry, hmem, hentry⟩ := List.mem_filterMap.mp hpart
  cases entry with
  | component p =>
    cases hentry
    obtain ⟨hweight, hscore⟩ := h.parts p hmem
    have hclamp := clamp_mem hscore Score.percent_range
    have hbelow := Score.below_of_percent hclamp.1 hclamp.2
    exact hweight.mul hbelow (by omega) (by omega)
  | slot name present => cases hentry
  | reason text => cases hentry
  | dataPoint key value => cases hentry

lemma IsSound.isNaN_total (h : IsSound n card) (hn : n ≤ 100) :
    Arithmetic.isNaN card.total = false := by
  have hterms : ∀ y ∈ card.components.map (fun part => part.weight * part.score), Below 8 y := by
    intro y hy
    obtain ⟨part, hpart, rfl⟩ := List.mem_map.mp hy
    exact h.below_product hpart
  have hlength := Nat.le_trans components_length_le h.length
  rw [← List.length_map (fun part => part.weight * part.score)] at hlength
  exact (below_sum hterms (by omega) (by omega)).isNaN

lemma IsSound.isNaN_confidence (h : IsSound n card) (hn : n ≤ 100) :
    Arithmetic.isNaN card.confidence = false := by
  have hlength := Nat.le_trans slots_length_le h.length
  have hcount := List.countP_le_length (p := fun slot : String × Bool => slot.2) (l := card.slots)
  unfold confidence
  simp only
  split
  · rfl
  · rename_i hne
    have hzero : card.slots.length ≠ 0 := by
      rw [List.isEmpty_iff] at hne
      exact fun heq => hne (List.length_eq_zero_iff.mp heq)
    have hnum : Below 70 (Arithmetic.ofNat (card.slots.countP (·.2)) : Float) :=
      below_ofNat (by omega)
    have hden : AtLeast 0 (Arithmetic.ofNat card.slots.length : Float) :=
      atLeast_ofNat hzero (by omega)
    exact (hnum.div hden (by omega) (by omega)).isNaN

/-- The score of a sound card is in range. -/
lemma IsSound.toScore?_isInRange (h : IsSound n card) (hn : n ≤ 100) {formula : String}
    {s : Score Float} (hs : card.toScore? formula = some s) : s.IsInRange := by
  unfold toScore? at hs
  split at hs
  · cases hs
  · cases hs
    exact Score.of_isInRange (h.isNaN_total hn) (h.isNaN_confidence hn) card.reasoning

end Scorecard
end Appraisal
