import Appraisal.Proofs.Abstention
import Appraisal.Proofs.ExactNumbers
import Mathlib.Algebra.BigOperators.Ring.List
import Mathlib.Algebra.Order.BigOperators.Group.List

/-!
# Breakdowns

The value of a score is the weighted sum of the components that its breakdown lists, over exact numbers. What is
missing is not made up for. The weights of an analysis sum to at most one, so the sum lies between 0 and 100 by
itself.
-/

namespace Appraisal
open Scorecard
variable [Exponential]

/-- The labels from which an analysis takes its components: no name has two weights, and the weights sum to at most
one. -/
structure AreShares (declared : List (String × ℚ)) : Prop where
  names : (declared.map (·.1)).Nodup
  nonneg : ∀ weight ∈ declared.map (·.2), 0 ≤ weight
  sum_le : (declared.map (·.2)).sum ≤ 1

/-- A value is the weighted sum of what a breakdown lists: components that each have a name of their own, the weight
that is declared for it, and a score in range. -/
structure Breakdown.AccountsFor (b : Breakdown ℚ) (value : ℚ) (declared : List (String × ℚ)) : Prop where
  names : (b.components.map (·.name)).Nodup
  labels : ∀ part ∈ b.components, (part.name, part.weight) ∈ declared
  scores : ∀ part ∈ b.components, 0 ≤ part.score ∧ part.score ≤ 100
  sum : value = (b.components.map fun part => part.weight * part.score).sum
  le : value ≤ 100 * (b.components.map (·.weight)).sum
  total : b.total = Exact.nearest value

namespace Scorecard
variable {card : Scorecard ℚ} {inputs : List (String × Bool)} {parts : List ((String × ℚ) × Bool)}

lemma score_mem {part : Component ℚ} (h : part ∈ card.components) : 0 ≤ part.score ∧ part.score ≤ 100 := by
  unfold components at h
  obtain ⟨entry, -, hentry⟩ := List.mem_filterMap.mp h
  cases entry with
  | component written =>
    cases hentry
    have hclamp := Exact.clamp_mem (show (0.0 : ℚ) ≤ 100.0 by norm_num) written.score
    exact ⟨le_trans (by norm_num) hclamp.1, hclamp.2.trans (by norm_num)⟩
  | _ => cases hentry

lemma total_eq : card.total = (card.components.map fun part => part.weight * part.score).sum := Exact.sum_eq _

section Shares
variable (h : card.Writes inputs parts) (hshares : AreShares (parts.map (·.1)))
include h hshares

lemma Writes.names_nodup : (card.components.map (·.name)).Nodup := by
  have hnames := h.labels_sublist.map (·.1)
  rw [List.map_map] at hnames
  exact hshares.names.sublist hnames

omit hshares in
lemma Writes.weights_sublist : (card.components.map (·.weight)).Sublist ((parts.map (·.1)).map (·.2)) := by
  have hweights := h.labels_sublist.map (·.2)
  rw [List.map_map] at hweights
  exact hweights

lemma Writes.weight_nonneg {part : Component ℚ} (hpart : part ∈ card.components) : 0 ≤ part.weight :=
  hshares.nonneg _ (h.weights_sublist.subset (List.mem_map_of_mem hpart))

lemma Writes.sum_weights_le : (card.components.map (·.weight)).sum ≤ 1 :=
  (h.weights_sublist.sum_le_sum hshares.nonneg).trans hshares.sum_le

lemma Writes.total_nonneg : 0 ≤ card.total := by
  rw [total_eq]
  apply List.sum_nonneg
  intro points hpoints
  obtain ⟨part, hpart, rfl⟩ := List.mem_map.mp hpoints
  exact mul_nonneg (h.weight_nonneg hshares hpart) (score_mem hpart).1

lemma Writes.total_le : card.total ≤ 100 * (card.components.map (·.weight)).sum := by
  rw [total_eq, ← List.sum_map_mul_left]
  apply List.sum_le_sum
  intro part hpart
  rw [mul_comm]
  exact mul_le_mul_of_nonneg_right (score_mem hpart).2 (h.weight_nonneg hshares hpart)

lemma Writes.accountsFor {formula : String} {s : Score ℚ} (hs : card.toScore? formula = some s) :
    ∃ b, s.breakdown = some b ∧ b.AccountsFor s.value (parts.map (·.1)) := by
  obtain ⟨hvalue, -, b, hb, hcomponents, htotal, -⟩ := toScore?_eq_some hs
  have htotal_le := h.total_le hshares
  have hweights_le := h.sum_weights_le hshares
  have hclamp : s.value = card.total := by
    rw [hvalue]
    apply Exact.clamp_eq_self
    · exact le_trans (by norm_num) (h.total_nonneg hshares)
    · norm_num
      linarith
  refine ⟨b, hb, ?_, ?_, ?_, ?_, ?_, ?_⟩
  · rw [hcomponents]
    exact h.names_nodup hshares
  · rw [hcomponents]
    intro part hpart
    exact h.labels_sublist.subset (List.mem_map_of_mem hpart)
  · rw [hcomponents]
    intro part hpart
    exact score_mem hpart
  · rw [hclamp, hcomponents, total_eq]
  · rw [hclamp, hcomponents]
    exact htotal_le
  · rw [hclamp, htotal]
    rfl

end Shares
end Scorecard

section Analyses
variable [NumberText ℚ]

/-- The value of every score is accounted for by its breakdown. -/
theorem breakdown_accountsFor_value (expectedBrand : String) (currentYear : Int32) (a : AvailabilityEvidence)
    (q : QualityEvidence ℚ) (d : DemandEvidence ℚ) :
    (∀ s, Availability.score? a currentYear = .value (some s) → ∃ b, s.breakdown = some b ∧ b.AccountsFor s.value
      [("retirement_urgency", 0.55), ("stock_scarcity", 0.35), ("listing_status", 0.10)]) ∧
    (∀ s, Quality.score? expectedBrand q = .value (some s) → ∃ b, s.breakdown = some b ∧ b.AccountsFor s.value
      [("rating", 0.50), ("brand", 0.30), ("metadata", 0.20)]) ∧
    ∀ s, Demand.score? d = some s → ∃ b, s.breakdown = some b ∧ b.AccountsFor s.value
      [ ("velocity", 0.40), ("momentum", 0.25), ("listing_price", 0.15), ("community", 0.12),
        ("retail_sales", 0.08) ] := by
  refine ⟨?_, ?_, ?_⟩
  · intro s hs
    obtain ⟨reason, -, hcard⟩ := Availability.score?_eq_value_iff.mp hs
    obtain ⟨bare, hbare, rfl⟩ := Option.map_eq_some_iff.mp hcard
    have hshares : AreShares [("retirement_urgency", 0.55), ("stock_scarcity", 0.35), ("listing_status", 0.10)] :=
      ⟨by decide, by norm_num, by norm_num⟩
    obtain ⟨b, hb, hsum⟩ := (Availability.card_writes a currentYear reason).accountsFor hshares hbare
    -- The factor for the price is added to the breakdown after the card is scored, and changes no component.
    refine ⟨_, congrArg (Option.map _) hb, ?_⟩
    exact ⟨hsum.names, hsum.labels, hsum.scores, hsum.sum, hsum.le, hsum.total⟩
  · intro s hs
    obtain ⟨pattern, -, hcard⟩ := Quality.score?_eq_value_iff.mp hs
    have hshares : AreShares [("rating", 0.50), ("brand", 0.30), ("metadata", 0.20)] :=
      ⟨by decide, by norm_num, by norm_num⟩
    exact (Quality.card_writes expectedBrand q pattern).accountsFor hshares hcard
  · intro s hs
    have hshares : AreShares
        [ ("velocity", 0.40), ("momentum", 0.25), ("listing_price", 0.15), ("community", 0.12),
          ("retail_sales", 0.08) ] := ⟨by decide, by norm_num, by norm_num⟩
    exact (Demand.card_writes d).accountsFor hshares hs

end Analyses

omit [Exponential]

/-- A set that the catalog does not know. -/
def uncataloged : QualityEvidence ℚ := { rating := some 4, brand := some "Lego" }

theorem uncataloged_accountedFor :
    letI := gentleExponential
    letI := fractionText
    ∃ s b, Quality.score? "LEGO" uncataloged = .value (some s) ∧ s.breakdown = some b ∧
      b.AccountsFor s.value [("rating", 0.50), ("brand", 0.30), ("metadata", 0.20)] := by
  let _ := gentleExponential
  let _ := fractionText
  obtain ⟨s, hs⟩ : ∃ s, Quality.score? "LEGO" uncataloged = .value (some s) :=
    Checked.exists_value_some (mt Quality.score?_eq_aborted_iff.mp (by simp [uncataloged]))
      (mt Quality.score?_eq_none_iff.mp (by simp [uncataloged]))
  obtain ⟨b, hb, hsum⟩ := (breakdown_accountsFor_value "LEGO" 2026 {} uncataloged {}).2.1 s hs
  exact ⟨s, b, hs, hb, hsum⟩

end Appraisal
