import Appraisal.Proofs.Contributions
import Appraisal.Verdict.Basic
import Mathlib.Tactic.Common

/-!
# Kinds of risks

The risks of a verdict come from several places: what a score says by itself, what little is behind it, and what is
missing. Their first words tell them apart, so each of them can be counted among all others.
-/

namespace Appraisal

/-- Whether a text begins with another one. -/
def BeginsWith (text start : String) : Prop := start.toList <+: text.toList

namespace BeginsWith
variable {text start other : String}

instance : Decidable (BeginsWith text start) := inferInstanceAs (Decidable (start.toList <+: text.toList))

lemma append (h : BeginsWith text start) (rest : String) : BeginsWith (text ++ rest) start := by
  unfold BeginsWith
  rw [String.toList_append]
  exact h.trans (List.prefix_append _ _)

lemma trans (h : BeginsWith text start) (h' : BeginsWith start other) : BeginsWith text other :=
  List.IsPrefix.trans h' h

/-- A text that begins with two others begins with the longer one, which begins with the shorter one. -/
lemma comparable (h : BeginsWith text start) (h' : BeginsWith text other) :
    BeginsWith start other ∨ BeginsWith other start :=
  (List.prefix_or_prefix_of_prefix h h').symm

end BeginsWith

namespace Dimension

lemma name_injective {d e : Dimension} (h : d.name = e.name) : d = e := by
  revert h
  cases d <;> cases e <;> decide

lemma countP_all (d : Dimension) (b : Bool) :
    (Named.all : List Dimension).countP (fun e => decide (e = d) && b) = if b then 1 else 0 := by
  cases d <;> cases b <;> rfl

end Dimension

namespace Weights
variable {α : Type} [Arithmetic α]

/-- Whether a dimension counts. -/
def Weighs (weights : Weights α) (d : Dimension) : Prop := ∃ weight, weights.get d = some weight ∧ 0.0 < weight

variable {weights : Weights α} {d : Dimension}

lemma positive?_isSome_iff : (weights.positive? d).isSome ↔ weights.Weighs d := by
  unfold positive? Weighs
  cases weights.get d with
  | none => simp
  | some weight => simp [Option.isSome_filter]

end Weights

namespace Verdict
variable {α : Type} [Arithmetic α] {weights : Weights α} {scores : Scores α} {d e : Dimension} {risk : String}

/-- Whether a risk says that there is little behind the score of a dimension. -/
def TellsLimited (d : Dimension) (risk : String) : Prop := BeginsWith risk s!"Limited {d.name} data"

instance (d : Dimension) : DecidablePred (TellsLimited d) := fun risk =>
  inferInstanceAs (Decidable (BeginsWith risk s!"Limited {d.name} data"))

/-- Whether a risk is neither about missing data nor about limited data. -/
def IsRemark (risk : String) : Prop := ∀ start ∈ ["Insufficient ", "Limited ", "No "], ¬BeginsWith risk start

instance : DecidablePred IsRemark := fun risk =>
  inferInstanceAs (Decidable (∀ start ∈ ["Insufficient ", "Limited ", "No "], ¬BeginsWith risk start))

section Texts

lemma noDataRisk_beginsWith (d : Dimension) : BeginsWith (noDataRisk d) "No " := by cases d <;> decide

lemma noDataRisk_injective (h : noDataRisk d = noDataRisk e) : d = e := by
  revert h
  cases d <;> cases e <;> decide

lemma TellsLimited.beginsWith (h : TellsLimited d risk) : BeginsWith risk "Limited " :=
  BeginsWith.trans h (by cases d <;> decide)

lemma not_tellsLimited_of_beginsWith (h : BeginsWith risk "No ") : ¬TellsLimited d risk := by
  intro hlimited
  exact absurd (h.comparable hlimited.beginsWith) (by decide)

lemma noDataRisk_ne_nothingScored (d : Dimension) : noDataRisk d ≠ nothingScored := by cases d <;> decide

lemma not_tellsLimited_nothingScored (d : Dimension) : ¬TellsLimited d nothingScored := by cases d <;> decide

lemma countP_eq_zero_of_not_tellsLimited {risks : List String} (h : ∀ risk ∈ risks, ¬TellsLimited d risk) :
    risks.countP (TellsLimited d) = 0 :=
  List.countP_eq_zero.mpr fun risk hrisk hlimited => h risk hrisk (of_decide_eq_true hlimited)

variable [NumberText α]

lemma limitedDataRisk_tellsLimited (d : Dimension) (confidence : α) :
    TellsLimited d (limitedDataRisk d confidence) := by
  unfold limitedDataRisk
  refine BeginsWith.append (BeginsWith.append ?_ _) _
  cases d <;> decide

/-- Two such risks differ in the name of the dimension. -/
lemma tellsLimited_limitedDataRisk {confidence : α} : TellsLimited d (limitedDataRisk e confidence) ↔ e = d := by
  constructor
  · intro h
    have hcomparable := h.comparable (limitedDataRisk_tellsLimited e confidence)
    revert hcomparable
    cases d <;> cases e <;> decide
  · rintro rfl
    exact limitedDataRisk_tellsLimited e confidence

end Texts

section Remarks

lemma IsRemark.ne_noDataRisk (h : IsRemark risk) : risk ≠ noDataRisk d := by
  rintro rfl
  exact h "No " (by decide) (noDataRisk_beginsWith d)

lemma IsRemark.ne_nothingScored (h : IsRemark risk) : risk ≠ nothingScored := by
  rintro rfl
  exact h "Insufficient " (by decide) (by decide)

lemma IsRemark.not_tellsLimited (h : IsRemark risk) : ¬TellsLimited d risk :=
  fun hlimited => h "Limited " (by decide) hlimited.beginsWith

/-- What the scores can say by themselves. -/
lemma mem_findings {finding : Finding} (h : finding ∈ findings scores) :
    finding ∈ [.risk "Low market demand", .opportunity "Strong market demand", .opportunity "Scarcity value",
      .risk "Readily available, no scarcity premium", .risk "Quality concerns",
      .opportunity "High quality product"] := by
  obtain ⟨entry, hentry, rfl⟩ := List.mem_filterMap.mp h
  simp only [List.mem_cons, List.not_mem_nil, or_false] at hentry
  rcases hentry with hfinding | hfinding | hfinding
  · obtain ⟨s, -, hs⟩ := Option.bind_eq_some_iff.mp hfinding.symm
    unfold demandFinding? at hs
    split_ifs at hs <;> cases hs <;> simp
  · obtain ⟨s, -, hs⟩ := Option.bind_eq_some_iff.mp hfinding.symm
    unfold availabilityFinding? at hs
    split_ifs at hs <;> cases hs <;> simp
  · obtain ⟨s, -, hs⟩ := Option.bind_eq_some_iff.mp hfinding.symm
    unfold qualityFinding? at hs
    split_ifs at hs <;> cases hs <;> simp

lemma finding_isRemark (h : risk ∈ (findings scores).filterMap Finding.risk?) : IsRemark risk := by
  obtain ⟨finding, hmem, hrisk⟩ := List.mem_filterMap.mp h
  have hfinding := mem_findings hmem
  simp only [List.mem_cons, List.not_mem_nil, or_false] at hfinding
  rcases hfinding with rfl | rfl | rfl | rfl | rfl | rfl <;> cases hrisk <;> decide

end Remarks

section Limited
variable [NumberText α]

/-- What one dimension has to say about its confidence. -/
def limitedData? (scores : Scores α) (d : Dimension) : Option String :=
  (scores.get d).bind fun s => if s.confidence < 0.5 then some (limitedDataRisk d s.confidence) else none

lemma confidenceRisks_eq : confidenceRisks scores = Named.all.filterMap (limitedData? scores) := by
  unfold confidenceRisks PerDimension.present
  rw [List.filterMap_filterMap]
  congr 1
  funext d
  unfold limitedData?
  cases scores.get d <;> rfl

lemma limitedData?_isSome : (limitedData? scores d).isSome = (scores.get d).any fun s => s.confidence < 0.5 := by
  unfold limitedData?
  cases scores.get d with
  | none => rfl
  | some s => by_cases hlow : s.confidence < 0.5 <;> simp [hlow]

lemma tellsLimited_of_limitedData? (h : limitedData? scores e = some risk) : TellsLimited d risk ↔ e = d := by
  obtain ⟨s, -, hs⟩ := Option.bind_eq_some_iff.mp h
  split at hs
  · cases hs
    exact tellsLimited_limitedDataRisk
  · cases hs

lemma any_tellsLimited : ((limitedData? scores e).map fun risk => decide (TellsLimited d risk)).getD false =
    (decide (e = d) && (limitedData? scores d).isSome) := by
  by_cases hed : e = d
  · subst hed
    cases he : limitedData? scores e with
    | none => simp
    | some risk => simp [tellsLimited_of_limitedData? he]
  · cases he : limitedData? scores e with
    | none => simp [hed]
    | some risk => simp [tellsLimited_of_limitedData? he, hed]

/-- Each dimension has one risk for its confidence, if any. -/
lemma countP_confidenceRisks : (confidenceRisks scores).countP (TellsLimited d) =
    if (scores.get d).any fun s => s.confidence < 0.5 then 1 else 0 := by
  rw [confidenceRisks_eq, List.countP_filterMap]
  simp only [any_tellsLimited]
  rw [Dimension.countP_all, limitedData?_isSome]

lemma beginsWith_of_mem_confidenceRisks (h : risk ∈ confidenceRisks scores) : BeginsWith risk "Limited " := by
  rw [confidenceRisks_eq] at h
  obtain ⟨d, -, hd⟩ := List.mem_filterMap.mp h
  exact ((tellsLimited_of_limitedData? hd).mpr rfl).beginsWith

end Limited

section Among

lemma mem_missingRisks :
    risk ∈ missingRisks weights scores ↔ ∃ d, risk = noDataRisk d ∧ weights.Weighs d ∧ scores.get d = none := by
  unfold missingRisks PerDimension.missing
  simp only [List.mem_map, List.mem_filter, Weights.positive?_isSome_iff, Option.isNone_iff_eq_none,
    Dimension.mem_all, true_and]
  constructor
  · rintro ⟨d, ⟨hnone, hweighs⟩, rfl⟩
    exact ⟨d, rfl, hweighs, hnone⟩
  · rintro ⟨d, rfl, hweighs, hnone⟩
    exact ⟨d, ⟨hnone, hweighs⟩, rfl⟩

variable [NumberText α]

lemma noDataRisk_mem_risksIn :
    noDataRisk d ∈ risksIn weights scores ↔ weights.Weighs d ∧ scores.get d = none := by
  unfold risksIn
  rw [List.mem_append, List.mem_append, mem_missingRisks]
  constructor
  · rintro ((hfinding | hlimited) | ⟨e, he, hweighs, hnone⟩)
    · exact absurd rfl (finding_isRemark hfinding).ne_noDataRisk
    · have hlimited := beginsWith_of_mem_confidenceRisks hlimited
      exact absurd ((noDataRisk_beginsWith d).comparable hlimited) (by decide)
    · cases noDataRisk_injective he
      exact ⟨hweighs, hnone⟩
  · rintro ⟨hweighs, hnone⟩
    exact .inr ⟨d, rfl, hweighs, hnone⟩

lemma nothingScored_not_mem_risksIn : nothingScored ∉ risksIn weights scores := by
  unfold risksIn
  rw [List.mem_append, List.mem_append, mem_missingRisks]
  rintro ((hfinding | hlimited) | ⟨d, hd, -⟩)
  · exact (finding_isRemark hfinding).ne_nothingScored rfl
  · exact absurd (beginsWith_of_mem_confidenceRisks hlimited) (by decide)
  · exact noDataRisk_ne_nothingScored d hd.symm

/-- Each dimension has one such risk among all risks, if any. -/
lemma countP_risksIn : (risksIn weights scores).countP (TellsLimited d) =
    if (scores.get d).any fun s => s.confidence < 0.5 then 1 else 0 := by
  have hfindings := countP_eq_zero_of_not_tellsLimited (d := d)
    fun risk (h : risk ∈ (findings scores).filterMap Finding.risk?) => (finding_isRemark h).not_tellsLimited
  have hmissing : (missingRisks weights scores).countP (TellsLimited d) = 0 := by
    apply countP_eq_zero_of_not_tellsLimited
    intro risk hrisk
    obtain ⟨e, rfl, -⟩ := mem_missingRisks.mp hrisk
    exact not_tellsLimited_of_beginsWith (noDataRisk_beginsWith e)
  unfold risksIn
  rw [List.countP_append, List.countP_append, hfindings, hmissing, countP_confidenceRisks, Nat.zero_add,
    Nat.add_zero]

end Among

end Verdict
end Appraisal
