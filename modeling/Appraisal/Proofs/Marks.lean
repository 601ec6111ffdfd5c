import Appraisal.Analysis.Availability
import Appraisal.Analysis.Demand
import Appraisal.Analysis.Quality
import Appraisal.Proofs.ExactNumbers
import Mathlib.Algebra.Order.BigOperators.Group.List
import Mathlib.Data.List.Forall2

/-!
# Marks

The marks of a card are the weights and the scores of its components, without the texts. The marks of an analysis
are those of its formula, part by part: a part that is not found has none. When the same parts are found on two
cards, and none of them with a lower score, the value does not fall.
-/

namespace Appraisal

section Presence
variable {β γ : Type} {x x' y y' : Option β} {R : β → β → Prop} {S : γ → γ → Prop}

lemma rel_refl (hR : ∀ a, R a a) (x : Option β) : Option.Rel R x x := by
  cases x with
  | none => exact .none
  | some a => exact .some (hR a)

lemma rel_bind {f f' : β → Option γ} (h : Option.Rel R x x') (hf : ∀ {a a'}, R a a' → Option.Rel S (f a) (f' a')) :
    Option.Rel S (x.bind f) (x'.bind f') := by
  cases h with
  | none => exact .none
  | some ha => exact hf ha

lemma rel_map {f f' : β → γ} (h : Option.Rel R x x') (hf : ∀ {a a'}, R a a' → S (f a) (f' a')) :
    Option.Rel S (x.map f) (x'.map f') := by
  cases h with
  | none => exact .none
  | some ha => exact .some (hf ha)

lemma rel_orElse (h : Option.Rel R x x') (hy : Option.Rel R y y') : Option.Rel R (x <|> y) (x' <|> y') := by
  cases h with
  | none => exact hy
  | some ha => exact .some ha

lemma rel_getD {a a' : β} (h : Option.Rel R x x') (ha : R a a') : R (x.getD a) (x'.getD a') := by
  cases h with
  | none => exact ha
  | some hx => exact hx

end Presence

namespace Scorecard
variable {α : Type} [Arithmetic α] {card other : Scorecard α}

/-- The weights of the components, and their scores in 0 to 100. -/
def marks (card : Scorecard α) : List (α × α) :=
  card.filterMap fun
    | .component part => some (part.weight, Arithmetic.clamp 0.0 100.0 part.score)
    | _ => none

/-- The mark of a part that may not be found. -/
def mark (weight : α) (score : Option α) : List (α × α) :=
  (score.map fun s => (weight, Arithmetic.clamp 0.0 100.0 s)).toList

@[simp]
lemma marks_nil : marks ([] : Scorecard α) = [] := rfl

@[simp]
lemma marks_slot (name : String) (present : Bool) : marks (.slot name present :: card) = marks card := rfl

@[simp]
lemma marks_reason (text : String) : marks (.reason text :: card) = marks card := rfl

@[simp]
lemma marks_dataPoint (key : String) (value : Json α) : marks (.dataPoint key value :: card) = marks card := rfl

@[simp]
lemma marks_component (part : Component α) :
    marks (.component part :: card) = mark part.weight (some part.score) ++ marks card := rfl

@[simp]
lemma marks_append : marks (card ++ other) = marks card ++ marks other := List.filterMap_append

@[simp]
lemma marks_ite (p : Prop) [Decidable p] :
    marks (if p then card else other) = if p then marks card else marks other := by
  split <;> rfl

/-- Entries that a value gives rise to have no mark when they have none for any value. -/
lemma marks_given_remarks {β : Type} {x : Option β} {entries : β → Scorecard α}
    (h : ∀ y, marks (entries y) = []) : marks (given x entries) = [] := by
  cases x with
  | none => rfl
  | some y => exact h y

/-- A part that a value gives rise to is found when the value is there. -/
lemma marks_given {β : Type} {x : Option β} {entries : β → Scorecard α} {weight : α} {score : β → α}
    (h : ∀ y, marks (entries y) = mark weight (some (score y))) :
    marks (given x entries) = mark weight (x.map score) := by
  cases x with
  | none => rfl
  | some y => exact h y

lemma marks_given_score {x : Option α} {entries : α → Scorecard α} {weight : α}
    (h : ∀ score, marks (entries score) = mark weight (some score)) : marks (given x entries) = mark weight x := by
  rw [marks_given h, Option.map_id']

lemma marks_components : card.components.map (fun part => (part.weight, part.score)) = card.marks := by
  unfold components marks
  rw [List.map_filterMap]
  congr 1
  funext entry
  cases entry <;> rfl

end Scorecard

open Scorecard

section Formulas
variable {α : Type} [Arithmetic α] [NumberText α]

namespace Availability

lemma marks_timingEntries (t : Timing) (reasoning : String) :
    marks (t.entries reasoning : Scorecard α) = mark retirementWeight t.score? := by
  have hdays : marks (given t.days? fun days => [.dataPoint "days_until_retirement" (.int days.toInt)]
      : Scorecard α) = [] := marks_given_remarks fun days => rfl
  have hscore : marks (given t.score? fun score => [
      .component {
        name := "retirement_urgency"
        weight := retirementWeight
        score
        raw := t.raw
        calculation := t.calculation score
        reasoning }] : Scorecard α) = mark retirementWeight t.score? :=
    marks_given_score fun score => by simp
  unfold Timing.entries
  rw [marks_append, marks_append, marks_append, hdays, hscore]
  simp

lemma marks_card (e : AvailabilityEvidence) (currentYear : Int32) (timingReason : String) :
    marks (card e currentYear timingReason : Scorecard α) =
      mark retirementWeight (timing e currentYear).score? ++
        mark stockWeight (e.stock.map fun stock => byStock.eval (Arithmetic.ofNat stock.toNat)) ++
        mark listingStatusWeight (e.listingStatus.map statusScore) := by
  have hstock : marks (given e.stock stockEntries : Scorecard α) =
      mark stockWeight (e.stock.map fun stock => byStock.eval (Arithmetic.ofNat stock.toNat)) :=
    marks_given fun stock => by simp [stockEntries]
  have hstatus : marks (given e.listingStatus statusEntries : Scorecard α) =
      mark listingStatusWeight (e.listingStatus.map statusScore) :=
    marks_given fun status => by simp [statusEntries]
  unfold card
  rw [marks_append, marks_append, marks_append, marks_timingEntries, hstock, hstatus]
  rfl

end Availability

namespace Quality

lemma marks_card (expectedBrand : String) (e : QualityEvidence α) (pattern : Option ReviewPattern) :
    marks (card expectedBrand e pattern) =
      mark ratingWeight (e.rating.map (ratingScore e pattern)) ++
        mark brandWeight (e.brand.map fun brand => (matchBrand brand expectedBrand).score) ++
        mark metadataWeight (if e.theme.isSome || e.partsCount.isSome then some (metadataScore e) else none) := by
  have hrating : marks (given e.rating (ratingEntries e pattern)) =
      mark ratingWeight (e.rating.map (ratingScore e pattern)) :=
    marks_given fun rating => by simp [ratingEntries]
  have hbrand : marks (given e.brand (brandEntries expectedBrand) : Scorecard α) =
      mark brandWeight (e.brand.map fun brand => (matchBrand brand expectedBrand).score) :=
    marks_given fun brand => by simp [brandEntries]
  have hmetadata : marks (metadataEntries e) =
      mark metadataWeight (if e.theme.isSome || e.partsCount.isSome then some (metadataScore e) else none) := by
    unfold metadataEntries
    split <;> simp [mark]
  unfold card
  rw [marks_append, marks_append, marks_append, hrating, hbrand, hmetadata]
  rfl

end Quality

namespace Demand

omit [NumberText α] in
/-- The score of the pace of sales, by the statistics or else by the guide. -/
def pace? (e : DemandEvidence α) : Option α :=
  match e.transactions with
  | some t => some (velocityScore t)
  | none => e.guideTimesSold.map fun timesSold => byPace.eval (count timesSold / guideDays)

lemma marks_salesEntries (e : DemandEvidence α) :
    marks (salesEntries e) =
      mark velocityWeight (pace? e) ++ mark momentumWeight (e.transactions.bind momentumScore?) := by
  unfold salesEntries pace?
  cases e.transactions with
  | none =>
    have hguide : marks (given e.guideTimesSold guideVelocityEntries : Scorecard α) =
        mark velocityWeight (e.guideTimesSold.map fun timesSold => byPace.eval (count timesSold / guideDays)) :=
      marks_given fun timesSold => by simp [guideVelocityEntries]
    simp [hguide, mark]
  | some t =>
    have hchange : marks (given (paceChange? t) fun text => [.reason text] : Scorecard α) = [] :=
      marks_given_remarks fun text => rfl
    have hstrength : marks (given t.relativeStrength fun strength => [.dataPoint "rsi" (.number strength)]
        : Scorecard α) = [] := marks_given_remarks fun strength => rfl
    have hmomentum : marks (momentumEntries t) = mark momentumWeight (momentumScore? t) :=
      marks_given_score fun score => by simp [hstrength]
    simp [velocityEntries, hchange, hmomentum]

lemma marks_listingEntries (e : DemandEvidence α) :
    marks (listingEntries e) = mark listingWeight (listingScore? e) := by
  have htrend : marks (given (priceTrendRatio? e) fun ratio => [.dataPoint "price_trend_ratio" (.number ratio)]
      : Scorecard α) = [] := marks_given_remarks fun ratio => rfl
  have hpremium : marks (given (retailPremium? e) fun ratio => [.dataPoint "retail_premium" (.number ratio)]
      : Scorecard α) = [] := marks_given_remarks fun ratio => rfl
  exact marks_given_score fun score => by simp [htrend, hpremium]

lemma marks_card (e : DemandEvidence α) :
    marks (card e) =
      mark velocityWeight (pace? e) ++ mark momentumWeight (e.transactions.bind momentumScore?) ++
        mark listingWeight (listingScore? e) ++ mark communityWeight (e.community.map communityScore) ++
        mark retailWeight (e.unitsSold.map fun units => byUnitsSold.eval (Arithmetic.ofNat units.toNat)) := by
  have hcommunity : marks (given e.community communityEntries) =
      mark communityWeight (e.community.map communityScore) := marks_given fun c => rfl
  have hretail : marks (given e.unitsSold retailEntries : Scorecard α) =
      mark retailWeight (e.unitsSold.map fun units => byUnitsSold.eval (Arithmetic.ofNat units.toNat)) :=
    marks_given fun units => rfl
  unfold card
  rw [marks_append, marks_append, marks_append, marks_append, marks_append, marks_salesEntries,
    marks_listingEntries, hcommunity, hretail, List.append_assoc]
  simp [slotEntries]

end Demand
end Formulas

namespace Scorecard
variable [Exponential] {card card' : Scorecard ℚ}

/-- Whether two lists have marks of the same weights, and the second one none with a lower score. -/
def MarksNoLower : List (ℚ × ℚ) → List (ℚ × ℚ) → Prop :=
  List.Forall₂ fun m m' => 0 ≤ m.1 ∧ m'.1 = m.1 ∧ m.2 ≤ m'.2

lemma mark_noLower {weight : ℚ} (hweight : 0 ≤ weight) {score score' : Option ℚ}
    (h : Option.Rel (· ≤ ·) score score') : MarksNoLower (mark weight score) (mark weight score') := by
  cases h with
  | none => exact .nil
  | some hle => exact .cons ⟨hweight, rfl, Exact.clamp_mono (by norm_num) hle⟩ .nil

omit [Exponential] in
lemma MarksNoLower.append {marks₁ marks₁' marks₂ marks₂' : List (ℚ × ℚ)} (h₁ : MarksNoLower marks₁ marks₁')
    (h₂ : MarksNoLower marks₂ marks₂') : MarksNoLower (marks₁ ++ marks₂) (marks₁' ++ marks₂') :=
  List.rel_append h₁ h₂

lemma total_eq_marks : card.total = (card.marks.map fun m => m.1 * m.2).sum := by
  unfold total
  rw [Exact.sum_eq, ← marks_components, List.map_map]
  rfl

lemma toScore?_noLower (h : MarksNoLower card.marks card'.marks) (formula : String) :
    Option.Rel (fun s s' => s.value ≤ s'.value) (card.toScore? formula) (card'.toScore? formula) := by
  have htotal : card.total ≤ card'.total := by
    rw [total_eq_marks, total_eq_marks]
    apply List.Forall₂.sum_le_sum
    rw [List.forall₂_map_left_iff, List.forall₂_map_right_iff]
    refine h.imp fun m m' hm => ?_
    rw [hm.2.1]
    exact mul_le_mul_of_nonneg_left hm.2.2 hm.1
  have hlength : card'.components.length = card.components.length := by
    have hmarks : card.marks.length = card'.marks.length := h.length_eq
    rw [← marks_components, ← marks_components, List.length_map, List.length_map] at hmarks
    exact hmarks.symm
  unfold toScore?
  simp only [List.isEmpty_iff_length_eq_zero, hlength]
  split
  · exact .none
  · exact .some (Exact.clamp_mono (by norm_num) htotal)

end Scorecard
end Appraisal
