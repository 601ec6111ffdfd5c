import Appraisal.Double
import Appraisal.Proofs.CardContents

/-!
# Abstention and confidence

An analysis says nothing exactly when it has nothing to go on. What it says is trusted by the share of its inputs that
were there, and it names the ones that were not.
-/

namespace Appraisal
open Scorecard

section Silence
variable {α : Type} [Arithmetic α]

lemma Arithmetic.meanPresent?_eq_none_iff {values : List (Option α)} :
    meanPresent? values = none ↔ ∀ value ∈ values, value = none := by
  have hnil : meanPresent? values = none ↔ values.filterMap id = [] := by
    unfold meanPresent?
    cases values.filterMap id with
    | nil => simp [mean?]
    | cons x xs => simp [mean?]
  rw [hnil, List.filterMap_eq_nil_iff]
  rfl

lemma Cents.ratio?_eq_none_iff (c base : Cents) : (c.ratio? base : Option α) = none ↔ base.isPositive = false := by
  unfold ratio?
  cases base.isPositive <;> simp

namespace Demand
variable {e : DemandEvidence α}

lemma priceTrendRatio?_eq_none_iff :
    priceTrendRatio? e = none ↔ ¬ (e.askingPrice.isSome ∧ e.paidPrice.any Cents.isPositive) := by
  unfold priceTrendRatio?
  cases e.askingPrice with
  | none => simp
  | some asking =>
    cases e.paidPrice with
    | none => simp
    | some paid => simpa using Cents.ratio?_eq_none_iff (α := α) asking paid

lemma retailPremium?_eq_none_iff :
    retailPremium? e = none ↔
      ¬ ((e.askingPrice.isSome ∨ e.paidPrice.isSome) ∧ e.retailPrice.any Cents.isPositive) := by
  have hmarket : (e.askingPrice <|> e.paidPrice).isSome ↔ e.askingPrice.isSome ∨ e.paidPrice.isSome := by
    cases e.askingPrice <;> simp
  unfold retailPremium?
  rw [← hmarket]
  cases e.askingPrice <|> e.paidPrice with
  | none => simp
  | some market =>
    cases e.retailPrice with
    | none => simp
    | some retail => simpa using Cents.ratio?_eq_none_iff (α := α) market retail

lemma listingScore?_eq_none_iff :
    listingScore? e = none ↔ priceTrendRatio? e = none ∧ retailPremium? e = none ∧ e.currentLots = none := by
  unfold listingScore?
  rw [Arithmetic.meanPresent?_eq_none_iff]
  simp

end Demand

variable [NumberText α]

lemma Availability.score?_eq_none_iff {e : AvailabilityEvidence} {currentYear : Int32} :
    (score? e currentYear : Checked (Option (Score α))) = .value none ↔
      e.yearRetired = none ∧ e.daysUntilRetirement = none ∧ e.retiringSoon = none ∧ e.stock = none ∧
        e.listingStatus = none := by
  have hcard (reason : String) : (card e currentYear reason : Scorecard α).toScore? formula = none ↔
      e.yearRetired = none ∧ e.daysUntilRetirement = none ∧ e.retiringSoon = none ∧ e.stock = none ∧
        e.listingStatus = none := by
    rw [toScore?_eq_none_iff, (card_writes e currentYear reason).labels, used_eq_nil_iff]
    simp [parts, isTimed, and_assoc]
  simp only [score?_eq_value_iff, Option.map_eq_none_iff, hcard, exists_and_right]
  refine and_iff_right_of_imp fun ⟨hyear, hdays, hflag, _⟩ => ⟨"", ?_⟩
  simp [timing, hyear, hdays, hflag, Timing.reasoning]

lemma Quality.score?_eq_none_iff {expectedBrand : String} {e : QualityEvidence α} :
    score? expectedBrand e = .value none ↔
      e.rating = none ∧ e.brand = none ∧ e.theme = none ∧ e.partsCount = none := by
  have hcard (pattern : Option ReviewPattern) : (card expectedBrand e pattern).toScore? formula = none ↔
      e.rating = none ∧ e.brand = none ∧ e.theme = none ∧ e.partsCount = none := by
    rw [toScore?_eq_none_iff, (card_writes expectedBrand e pattern).labels, used_eq_nil_iff]
    simp [parts]
  simp only [score?_eq_value_iff, hcard, exists_and_right]
  refine and_iff_right_of_imp fun ⟨hrating, _⟩ => ⟨none, ?_⟩
  rw [reviews, hrating]
  rfl

lemma Demand.score?_eq_none_iff {e : DemandEvidence α} :
    score? e = none ↔
      e.transactions = none ∧ e.guideTimesSold = none ∧ e.community = none ∧ e.unitsSold = none ∧
        e.currentLots = none ∧ ¬ (e.askingPrice.isSome ∧ e.paidPrice.any Cents.isPositive) ∧
        ¬ ((e.askingPrice.isSome ∨ e.paidPrice.isSome) ∧ e.retailPrice.any Cents.isPositive) := by
  -- Momentum needs transactions, and those give a pace by themselves.
  have hmomentum : e.transactions = none → e.transactions.bind momentumScore? = none := by
    intro h
    rw [h]
    rfl
  unfold score?
  rw [toScore?_eq_none_iff, (card_writes e).labels, used_eq_nil_iff, ← priceTrendRatio?_eq_none_iff,
    ← retailPremium?_eq_none_iff]
  simp only [parts, List.forall_mem_cons, Bool.or_eq_false_iff, Option.isSome_eq_false_iff, Option.isNone_iff_eq_none,
    listingScore?_eq_none_iff]
  tauto

end Silence

/-- A score is trusted by the share of so many inputs that were there, and tells which ones were not. -/
structure Score.Reports (s : Score Float) (number : Nat) (inputs : List (String × Bool)) : Prop where
  declared : inputs.length = number
  once : (inputs.map (·.1)).Nodup
  confidence : s.confidence = Arithmetic.ofNat (inputs.countP (·.2)) / Arithmetic.ofNat number
  missing : s.breakdown.map (·.missingData) = some ((inputs.filter fun input => !input.2).map (·.1))

/-- A share of the inputs of an analysis is exact enough to lie between zero and one. -/
lemma clamp_share : ∀ number ∈ [3, 5, 8], ∀ count ≤ number,
    Arithmetic.clamp 0.0 1.0 (Arithmetic.ofNat count / Arithmetic.ofNat number : Float) =
      Arithmetic.ofNat count / Arithmetic.ofNat number := by
  decide +kernel

lemma Scorecard.Writes.reports {card : Scorecard Float} {inputs : List (String × Bool)}
    {parts : List ((String × Float) × Bool)} (h : card.Writes inputs parts) (number : Nat)
    (hnumber : number ∈ [3, 5, 8]) (hlength : inputs.length = number) (honce : (inputs.map (·.1)).Nodup)
    {formula : String} {s : Score Float} (hs : card.toScore? formula = some s) : s.Reports number inputs := by
  obtain ⟨-, hconfidence, b, hb, -, -, hmissing⟩ := toScore?_eq_some hs
  refine ⟨hlength, honce, ?_, ?_⟩
  · have hcount : inputs.countP (·.2) ≤ number := hlength ▸ List.countP_le_length
    have hne : inputs.isEmpty = false := by
      cases inputs with
      | nil => exact absurd (hlength ▸ hnumber) (by decide)
      | cons input rest => rfl
    rw [hconfidence, ← clamp_share number hnumber _ hcount]
    unfold Scorecard.confidence
    rw [h.slots]
    simp [hne, hlength]
  · rw [hb, Option.map_some, hmissing, missing_eq, h.slots]

lemma Score.Reports.withScarcity {s : Score Float} {number : Nat} {inputs : List (String × Bool)}
    (h : s.Reports number inputs) : (Availability.withScarcity s).Reports number inputs := by
  refine ⟨h.declared, h.once, h.confidence, ?_⟩
  unfold Availability.withScarcity
  rw [Option.map_map]
  exact h.missing

/-- Each analysis is silent exactly when nothing that it can score is known, and else reports its inputs: three for
availability, five for quality, and eight for demand. -/
theorem analyses_report_inputs (expectedBrand : String) (currentYear : Int32) (a : AvailabilityEvidence)
    (q : QualityEvidence Float) (d : DemandEvidence Float) :
    ((Availability.score? a currentYear : Checked (Option (Score Float))) = .value none ↔
      a.yearRetired = none ∧ a.daysUntilRetirement = none ∧ a.retiringSoon = none ∧ a.stock = none ∧
        a.listingStatus = none) ∧
    (Quality.score? expectedBrand q = .value none ↔
      q.rating = none ∧ q.brand = none ∧ q.theme = none ∧ q.partsCount = none) ∧
    (Demand.score? d = none ↔
      d.transactions = none ∧ d.guideTimesSold = none ∧ d.community = none ∧ d.unitsSold = none ∧
        d.currentLots = none ∧ ¬ (d.askingPrice.isSome ∧ d.paidPrice.any Cents.isPositive) ∧
        ¬ ((d.askingPrice.isSome ∨ d.paidPrice.isSome) ∧ d.retailPrice.any Cents.isPositive)) ∧
    (∀ s, Availability.score? a currentYear = .value (some s) → s.Reports 3 (Availability.inputs a)) ∧
    (∀ s, Quality.score? expectedBrand q = .value (some s) → s.Reports 5 (Quality.inputs q)) ∧
    ∀ s, Demand.score? d = some s → s.Reports 8 (Demand.inputs d) := by
  refine ⟨Availability.score?_eq_none_iff, Quality.score?_eq_none_iff, Demand.score?_eq_none_iff, ?_, ?_, ?_⟩
  · intro s hs
    obtain ⟨reason, -, hcard⟩ := Availability.score?_eq_value_iff.mp hs
    obtain ⟨bare, hbare, rfl⟩ := Option.map_eq_some_iff.mp hcard
    have honce : ((Availability.inputs a).map (·.1)).Nodup := by simp [Availability.inputs]
    exact ((Availability.card_writes a currentYear reason).reports 3 (by decide) rfl honce hbare).withScarcity
  · intro s hs
    obtain ⟨pattern, -, hcard⟩ := Quality.score?_eq_value_iff.mp hs
    have honce : ((Quality.inputs q).map (·.1)).Nodup := by simp [Quality.inputs]
    exact (Quality.card_writes expectedBrand q pattern).reports 5 (by decide) rfl honce hcard
  · intro s hs
    have honce : ((Demand.inputs d).map (·.1)).Nodup := by simp [Demand.inputs]
    exact (Demand.card_writes d).reports 8 (by decide) rfl honce hs

/-- What sellers ask, without anything to compare it with. -/
def askingOnly : DemandEvidence Float := { askingPrice := some ⟨4999⟩ }

/-- A price alone is an input that says nothing. With the number of lots there is a score on two of eight inputs. A
flag that is not set is known, and so is a count of reviews, though it is not scored by itself. -/
theorem sparse_inputs_reported :
    Demand.score? askingOnly = none ∧
    (∃ s, Demand.score? { askingOnly with currentLots := some 3 } = some s ∧ s.confidence = 0.25 ∧
      s.breakdown.map (·.missingData) = some
        ["transaction_statistics", "price_trend", "rsi", "volume_trend", "community_sentiment",
          "retail_units_sold"]) ∧
    (∃ s : Score Float, Availability.score? { retiringSoon := some false } 2026 = .value (some s) ∧
      s.confidence = 1.0 / 3.0 ∧ s.breakdown.map (·.missingData) = some ["stock", "listing_status"]) ∧
    ∃ s : Score Float, Quality.score? "LEGO" { reviewCount := some 12, theme := some "Castle" } = .value (some s) ∧
      s.confidence = 0.4 ∧ s.breakdown.map (·.missingData) = some ["rating", "brand", "parts_count"] := by
  have hall := analyses_report_inputs "LEGO" 2026 { retiringSoon := some false }
    { reviewCount := some 12, theme := some "Castle" }
  obtain ⟨havailability, hquality, hdemand, htimed, hrated, hlisted⟩ :=
    hall { askingOnly with currentLots := some 3 }
  refine ⟨(hall askingOnly).2.2.1.mpr (by decide), ?_, ?_, ?_⟩
  · obtain ⟨s, hs⟩ := Option.ne_none_iff_exists'.mp (mt hdemand.mp (by simp))
    refine ⟨s, hs, ?_, (hlisted s hs).missing⟩
    rw [(hlisted s hs).confidence]
    decide +kernel
  · obtain ⟨s, hs⟩ := Checked.exists_value_some (mt Availability.score?_eq_aborted_iff.mp (by simp))
      (mt havailability.mp (by simp))
    refine ⟨s, hs, ?_, (htimed s hs).missing⟩
    rw [(htimed s hs).confidence]
    decide +kernel
  · obtain ⟨s, hs⟩ := Checked.exists_value_some (mt Quality.score?_eq_aborted_iff.mp (by simp))
      (mt hquality.mp (by simp))
    refine ⟨s, hs, ?_, (hrated s hs).missing⟩
    rw [(hrated s hs).confidence]
    decide +kernel

end Appraisal
