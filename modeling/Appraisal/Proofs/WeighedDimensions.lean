import Appraisal.Proofs.RiskKinds
import Appraisal.Proofs.Sums
import Appraisal.Strategy.Registry

/-!
# Weighed dimensions

Nothing that a strategy weighs goes missing without a word: a weighed dimension is listed in the breakdown of the
overall score, or a risk says that there is no data on it. What a strategy adds in its story is never mistaken for
such a risk.
-/

namespace Appraisal

namespace Weights
variable {d : Dimension}

/-- Positive weights have a positive sum, so each dimension with a score and a positive weight contributes. -/
lemma contributions_dims_eq_weighted (weights : Weights Float) (scores : Scores Float) :
    (weights.contributions scores).map (·.dimension) = (weights.weighted scores).map (·.dimension) := by
  unfold contributions
  simp only
  by_cases hparts : weights.weighted scores = []
  · -- Without parts the sum is the negative zero, which is not above zero.
    rw [hparts]
    decide
  · have hweights : ∀ weight ∈ (weights.weighted scores).map (·.weight), (0.0 : Float) < weight := by
      intro weight hweight
      obtain ⟨part, hpart, rfl⟩ := List.mem_map.mp hweight
      exact of_decide_eq_true (Option.filter_eq_some_iff.mp (mem_weighted.mp hpart).2).2
    have htotal := Double.sum_pos (mt List.map_eq_nil_iff.mp hparts) hweights
    rw [if_neg (Double.not_le_of_lt htotal), List.map_map]
    rfl

lemma mem_contributions_dims {weights : Weights Float} {scores : Scores Float} :
    d ∈ (weights.contributions scores).map (·.dimension) ↔ weights.Weighs d ∧ (scores.get d).isSome := by
  rw [contributions_dims_eq_weighted, weighted_dims, List.mem_filter, Bool.and_eq_true, positive?_isSome_iff]
  exact ⟨fun h => h.2.symm, fun h => ⟨d.mem_all, h.symm⟩⟩

lemma contributions_eq_nil_iff {weights : Weights Float} {scores : Scores Float} :
    weights.contributions scores = [] ↔ ∀ d, weights.Weighs d → scores.get d = none := by
  rw [← List.map_eq_nil_iff (f := fun c : Contribution Float => c.dimension), List.eq_nil_iff_forall_not_mem]
  refine forall_congr' fun d => ?_
  rw [mem_contributions_dims, not_and, Option.not_isSome_iff_eq_none]

end Weights

namespace Verdict
variable {α : Type} [Arithmetic α]

/-- The names of the dimensions that the breakdown of the overall score lists. -/
def listed (v : Verdict α) : List String := v.overall.breakdown.elim [] fun b => b.components.map (·.name)

/-- Whether a verdict says what became of each dimension: a weighed one is listed when it has a score, and said to be
missing when it has none. -/
structure AccountsFor (v : Verdict α) (weights : Weights α) (scores : Scores α) : Prop where
  weighed : ∀ d, weights.Weighs d →
    if (scores.get d).isSome then d.name ∈ v.listed ∧ noDataRisk d ∉ v.risks
    else d.name ∉ v.listed ∧ noDataRisk d ∈ v.risks
  unweighed : ∀ d, ¬weights.Weighs d → d.name ∉ v.listed ∧ noDataRisk d ∉ v.risks
  limited : ∀ d, v.risks.countP (TellsLimited d) =
    if (scores.get d).any fun score => score.confidence < 0.5 then 1 else 0
  nothing : nothingScored ∈ v.risks ↔ ∀ d, weights.Weighs d → scores.get d = none
  withheld : nothingScored ∈ v.risks → v.risks.head? = some nothingScored ∧ v.action = .pass ∧
    v.overall.value = 0.0 ∧ v.overall.confidence = 0.0

section Read
variable (weights : Weights α) (actions : ActionLevels α) (urgencies : UrgencyLevels α) (scores : Scores α)
variable [NumberText α]

lemma listed_read : (read weights actions urgencies scores).listed =
    ((weights.contributions scores).map (·.dimension)).map Dimension.name := by
  unfold read
  cases hoverall : weights.overall? scores with
  | none =>
    rw [Weights.overall?_eq_none_iff.mp hoverall]
    rfl
  | some overall =>
    change ((weights.contributions scores).map overallComponent).map (·.name) = _
    rw [List.map_map, List.map_map]
    rfl

lemma risks_read : (read weights actions urgencies scores).risks =
    (if weights.contributions scores = [] then [nothingScored] else []) ++ risksIn weights scores := by
  unfold read
  cases hoverall : weights.overall? scores with
  | none =>
    rw [if_pos (Weights.overall?_eq_none_iff.mp hoverall)]
    rfl
  | some overall =>
    have hsome : weights.contributions scores ≠ [] := by
      rw [Ne, ← Weights.overall?_eq_none_iff, hoverall]
      nofun
    rw [if_neg hsome]
    rfl

lemma nothingScored_mem_read :
    nothingScored ∈ (read weights actions urgencies scores).risks ↔ weights.contributions scores = [] := by
  rw [risks_read, List.mem_append, or_iff_left nothingScored_not_mem_risksIn]
  split
  · rename_i hnil
    exact iff_of_true (List.mem_singleton_self _) hnil
  · rename_i hsome
    exact iff_of_false List.not_mem_nil hsome

lemma noDataRisk_mem_read {d : Dimension} : noDataRisk d ∈ (read weights actions urgencies scores).risks ↔
    weights.Weighs d ∧ scores.get d = none := by
  rw [risks_read, List.mem_append, noDataRisk_mem_risksIn, or_iff_right]
  split
  · exact fun hmem => noDataRisk_ne_nothingScored d (List.mem_singleton.mp hmem)
  · exact List.not_mem_nil

lemma countP_read {d : Dimension} : (read weights actions urgencies scores).risks.countP (TellsLimited d) =
    if (scores.get d).any fun s => s.confidence < 0.5 then 1 else 0 := by
  rw [risks_read, List.countP_append, countP_risksIn, countP_eq_zero_of_not_tellsLimited, Nat.zero_add]
  intro risk hrisk
  split at hrisk
  · rw [List.mem_singleton.mp hrisk]
    exact not_tellsLimited_nothingScored d
  · cases hrisk

end Read

lemma dimension_mem_read (weights : Weights Float) (actions : ActionLevels Float) (urgencies : UrgencyLevels Float)
    (scores : Scores Float) {d : Dimension} : d.name ∈ (read weights actions urgencies scores).listed ↔
      weights.Weighs d ∧ (scores.get d).isSome := by
  rw [listed_read, ← Weights.mem_contributions_dims, List.mem_map]
  constructor
  · rintro ⟨e, he, hname⟩
    rwa [← Dimension.name_injective hname]
  · intro hd
    exact ⟨d, hd, rfl⟩

lemma read_accountsFor (weights : Weights Float) (actions : ActionLevels Float) (urgencies : UrgencyLevels Float)
    (scores : Scores Float) : (read weights actions urgencies scores).AccountsFor weights scores := by
  have hlisted d := dimension_mem_read weights actions urgencies scores (d := d)
  have hnoData d := noDataRisk_mem_read weights actions urgencies scores (d := d)
  have hnothing := nothingScored_mem_read weights actions urgencies scores
  constructor
  · intro d hweighs
    rw [hlisted, hnoData]
    split
    · rename_i hscored
      refine ⟨⟨hweighs, hscored⟩, fun hmissing => ?_⟩
      rw [hmissing.2] at hscored
      cases hscored
    · rename_i hscored
      exact ⟨fun h => hscored h.2, hweighs, Option.not_isSome_iff_eq_none.mp hscored⟩
  · intro d hweighs
    rw [hlisted, hnoData]
    exact ⟨fun h => hweighs h.1, fun h => hweighs h.1⟩
  · intro d
    exact countP_read weights actions urgencies scores
  · rw [hnothing, Weights.contributions_eq_nil_iff]
  · intro hmem
    have hnil := hnothing.mp hmem
    refine ⟨?_, ?_⟩
    · rw [risks_read, if_pos hnil]
      rfl
    · unfold read
      rw [Weights.overall?_eq_none_iff.mpr hnil]
      exact ⟨rfl, rfl, rfl⟩

/-- Whether a verdict is another one with remarks at the end of its risks. -/
structure AddsRemarks (v base : Verdict α) : Prop where
  overall : v.overall = base.overall
  action : v.action = base.action
  risks : ∃ remarks, (∀ risk ∈ remarks, IsRemark risk) ∧ v.risks = base.risks ++ remarks

omit [Arithmetic α] in
lemma addsRemarks_refl (v : Verdict α) : v.AddsRemarks v := ⟨rfl, rfl, [], nofun, (List.append_nil _).symm⟩

section Remarks
variable {v base : Verdict α} {weights : Weights α} {scores : Scores α}

omit [Arithmetic α] in
lemma AddsRemarks.mem_risks_iff (h : v.AddsRemarks base) {risk : String} (hrisk : ¬IsRemark risk) :
    risk ∈ v.risks ↔ risk ∈ base.risks := by
  obtain ⟨remarks, hremarks, hv⟩ := h.risks
  rw [hv, List.mem_append]
  exact or_iff_left fun hmem => hrisk (hremarks risk hmem)

/-- Remarks say nothing that accounts for a dimension. -/
lemma AccountsFor.of_addsRemarks (h : base.AccountsFor weights scores) (hv : v.AddsRemarks base) :
    v.AccountsFor weights scores := by
  have hlisted : v.listed = base.listed := by
    unfold listed
    rw [hv.overall]
  have hnoData d : noDataRisk d ∈ v.risks ↔ noDataRisk d ∈ base.risks :=
    hv.mem_risks_iff fun hremark => hremark.ne_noDataRisk rfl
  have hnothing : nothingScored ∈ v.risks ↔ nothingScored ∈ base.risks :=
    hv.mem_risks_iff fun hremark => hremark.ne_nothingScored rfl
  obtain ⟨remarks, hremarks, hrisks⟩ := hv.risks
  constructor
  · intro d
    rw [hlisted, hnoData]
    exact h.weighed d
  · intro d
    rw [hlisted, hnoData]
    exact h.unweighed d
  · intro d
    have hadded : remarks.countP (TellsLimited d) = 0 :=
      countP_eq_zero_of_not_tellsLimited fun risk hrisk => (hremarks risk hrisk).not_tellsLimited
    rw [hrisks, List.countP_append, hadded]
    exact h.limited d
  · rw [hnothing]
    exact h.nothing
  · rw [hnothing, hv.action, hv.overall]
    intro hmem
    obtain ⟨hfirst, hrest⟩ := h.withheld hmem
    refine ⟨?_, hrest⟩
    rw [hrisks, List.head?_append, hfirst]
    rfl

end Remarks

end Verdict

namespace Strategy
variable {α : Type}

lemma addsRemarks_tell {story : Narrative α} (h : ∀ risk, story.risk = some risk → Verdict.IsRemark risk)
    (base : Verdict α) : (story.tell base).AddsRemarks base where
  overall := rfl
  action := rfl
  risks := ⟨story.risk.toList, fun risk hrisk => h risk (Option.mem_toList.mp hrisk), rfl⟩

variable [Arithmetic α]

lemma holdingNarrative_risk (scores : Scores α) (overall : α) : (holdingNarrative scores overall).risk = none := by
  unfold holdingNarrative
  split
  · rfl
  · simp only
    split <;> rfl

lemma bargainNarrative_risk {scores : Scores α} {overall : α} {risk : String}
    (h : (bargainNarrative scores overall).risk = some risk) : Verdict.IsRemark risk := by
  unfold bargainNarrative at h
  simp only at h
  split at h
  · simp only at h
    split at h
    · cases h
      decide
    · cases h
  · cases h

variable [NumberText α]

lemma overheatedRisk?_isRemark {demand : Score α} {risk : String} (h : overheatedRisk? demand = some risk) :
    Verdict.IsRemark risk := by
  obtain ⟨strength, -, hstrength⟩ := Option.bind_eq_some_iff.mp h
  obtain ⟨-, -, htext⟩ := Option.bind_eq_some_iff.mp hstrength
  cases htext
  have hbegins : BeginsWith s!"Overheated market (RSI {NumberText.whole strength}): prices may correct before resale"
      "Overheated " := BeginsWith.append (BeginsWith.append (by decide) _) _
  intro start hstart hother
  simp only [List.mem_cons, List.not_mem_nil, or_false] at hstart
  rcases hstart with rfl | rfl | rfl <;> exact absurd (hbegins.comparable hother) (by decide)

lemma flipNarrative_risk {scores : Scores α} {overall : α} {risk : String}
    (h : (flipNarrative scores overall).risk = some risk) : Verdict.IsRemark risk := by
  unfold flipNarrative at h
  split at h
  · cases h
  · exact overheatedRisk?_isRemark h

/-- What a built-in strategy adds is not about missing or limited data. -/
lemma interpret_addsRemarks {s : Strategy α} (hs : s ∈ Registry.builtIn.strategies ∨ s.narrative = silent)
    (scores : Scores α) : (s.interpret scores).AddsRemarks (s.baseVerdict scores) := by
  rcases hs with hs | hs
  · rcases Registry.mem_builtIn hs with rfl | rfl | rfl
    · refine addsRemarks_tell (fun risk h => ?_) _
      rw [holdingNarrative_risk] at h
      cases h
    · exact addsRemarks_tell (fun _ => bargainNarrative_risk) _
    · exact addsRemarks_tell (fun _ => flipNarrative_risk) _
  · unfold interpret
    rw [hs]
    exact Verdict.addsRemarks_refl _

/-- Nothing that a strategy weighs is silently missing. -/
theorem interpret_accountsFor_dimensions {s : Strategy Float}
    (hs : s ∈ Registry.builtIn.strategies ∨ s.narrative = silent) (scores : Scores Float) :
    (s.interpret scores).AccountsFor s.weights scores := by
  have hbase := Verdict.read_accountsFor s.weights s.actions s.urgencies scores
  exact hbase.of_addsRemarks (interpret_addsRemarks hs scores)

/-- Demand counts in full, and quality not at all. -/
def demandOnly : Strategy Float :=
  { investmentFocus with weights := .ofList [(.demand, 2.0), (.quality, -1.0)], narrative := silent }

/-- Only quality has a score, and not much is behind it. -/
def thinQuality : Scores Float := ⟨none, none, some (.of 85.0 0.4 "Few ratings")⟩

theorem demandOnly_accountsFor_thinQuality : demandOnly.narrative = silent ∧
    (demandOnly.interpret thinQuality).AccountsFor demandOnly.weights thinQuality ∧
    (demandOnly.interpret thinQuality).risks = [
      "Insufficient data to score this product",
      "Limited quality data (40% of inputs available)",
      "No demand data available"] :=
  ⟨rfl, interpret_accountsFor_dimensions (.inr rfl) thinQuality, by decide +kernel⟩

end Strategy
end Appraisal
