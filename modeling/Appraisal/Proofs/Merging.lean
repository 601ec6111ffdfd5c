import Appraisal.Double
import Appraisal.Proofs.Aborted
import Appraisal.Proofs.Prices
import Appraisal.Recommendation.Basic

/-!
# What a recommendation is merged from

A strategy reads the scores, and the scores and the evidence are appraised. Neither sees what comes of the other.
A recommendation takes the verdict as it is and puts a price next to it, or the reason why there is none.
-/

namespace Appraisal
variable {α : Type}

namespace Analyzer
variable {a : Analyzer α} {e : Evidence α}

/-- The score that an analyzer gives. It gives none when it is aborted. -/
def score? (a : Analyzer α) (e : Evidence α) : Option (Score α) :=
  match a.analyze e with
  | .value score => score
  | .aborted => none

lemma analyze_eq_score? (h : a.analyze e ≠ .aborted) : a.analyze e = .value (a.score? e) := by
  unfold score?
  cases hsaid : a.analyze e with
  | value score => rfl
  | aborted => exact absurd hsaid h

lemma score?_eq {score : Option (Score α)} (h : a.analyze e = .value score) : a.score? e = score := by
  unfold score?
  rw [h]

variable [Arithmetic α]

/-- Whether an analyzer comes to an end, with a finite score or with none. -/
def isHeard (a : Analyzer α) (e : Evidence α) : Bool := (a.analyze e).any (·.all Score.isFinite)

lemma isHeard_iff : a.isHeard e = true ↔ a.analyze e ≠ .aborted ∧ (a.score? e).all Score.isFinite := by
  unfold isHeard score?
  cases a.analyze e <;> simp [Checked.any]

end Analyzer

namespace Recommendation

/-- What the analyzers say, taken in their order. -/
def heard (analyzers : List (Analyzer α)) (e : Evidence α) : Scores α :=
  analyzers.foldl (fun scores a => scores.set a.dimension (a.score? e)) Scores.empty

/-- The last analyzer for a dimension has the final word, also when it says nothing. -/
lemma get_heard (analyzers : List (Analyzer α)) (e : Evidence α) (d : Dimension) :
    (heard analyzers e).get d = (analyzers.reverse.find? (·.dimension = d)).bind (·.score? e) := by
  unfold heard Scores.empty
  rw [PerDimension.get_foldl_set (fun a : Analyzer α => a.dimension) (fun a => a.score? e),
    PerDimension.get_none]
  cases analyzers.reverse.find? (·.dimension = d) <;> rfl

variable [Arithmetic α] {e : Evidence α} {analyzers : List (Analyzer α)}

lemma addScore_of_isFinite {scores : Scores α} {a : Analyzer α} {score : Option (Score α)}
    (h : score.all Score.isFinite) : addScore e scores a score = .ok (scores.set a.dimension score) := by
  have hfinite : score.any (fun s => !s.isFinite) = false := by
    cases score with
    | none => rfl
    | some s => simpa using h
  unfold addScore
  simp only [hfinite, Bool.false_eq_true, if_false]

lemma scoreAll_of_aborted (h : ∃ a ∈ analyzers, a.analyze e = .aborted) : scoreAll analyzers e = .ok .aborted := by
  have haborted : analyzers.mapM (m := Checked) (fun a => return (a, ← a.analyze e)) = .aborted := by
    obtain ⟨a, ha, hanalyze⟩ := h
    exact Checked.mapM_eq_aborted_iff.mpr ⟨a, ha, by rw [hanalyze]; rfl⟩
  unfold scoreAll
  rw [haborted]
  rfl

/-- Analyzers that come to an end are heard one after the other. -/
lemma scoreAll_eq_foldlM (h : ∀ a ∈ analyzers, a.analyze e ≠ .aborted) :
    scoreAll analyzers e =
      .value <$> analyzers.foldlM (fun scores a => addScore e scores a (a.score? e)) Scores.empty := by
  have hsaid : analyzers.mapM (m := Checked) (fun a => return (a, ← a.analyze e)) =
      .value (analyzers.map fun a => (a, a.score? e)) :=
    Checked.mapM_eq_value fun a ha => by rw [Analyzer.analyze_eq_score? (h a ha)]; rfl
  unfold scoreAll
  rw [hsaid]
  dsimp only
  rw [List.foldlM_map, map_eq_pure_bind]

/-- Analyzers with finite scores are all heard. -/
lemma scoreAll_of_isHeard (h : ∀ a ∈ analyzers, a.isHeard e) :
    scoreAll analyzers e = .ok (.value (heard analyzers e)) := by
  have hfold (scores : Scores α) : analyzers.foldlM (fun scores a => addScore e scores a (a.score? e)) scores =
      .ok (analyzers.foldl (fun scores a => scores.set a.dimension (a.score? e)) scores) := by
    induction analyzers generalizing scores with
    | nil => rfl
    | cons a rest ih =>
      rw [List.foldlM_cons, addScore_of_isFinite (Analyzer.isHeard_iff.mp (h a List.mem_cons_self)).2]
      exact ih (fun b hb => h b (List.mem_cons_of_mem _ hb)) _
  rw [scoreAll_eq_foldlM fun a ha => (Analyzer.isHeard_iff.mp (h a ha)).1, hfold]
  rfl

/-- Every dimension holds what the last analyzer for it said, and nothing without an analyzer for it. -/
lemma elim_analyze_heard (h : ∀ a ∈ analyzers, a.isHeard e) (d : Dimension) :
    (analyzers.reverse.find? (·.dimension = d)).elim (.value none) (·.analyze e) =
      .value ((heard analyzers e).get d) := by
  rw [get_heard]
  cases hlast : analyzers.reverse.find? (·.dimension = d) with
  | none => rfl
  | some a =>
    have ha : a ∈ analyzers := List.mem_reverse.mp (List.mem_of_find?_eq_some hlast)
    exact Analyzer.analyze_eq_score? (Analyzer.isHeard_iff.mp (h a ha)).1

/-- Whether a recommendation agrees with a verdict on all that a price has no say in. -/
structure Carries (r : Recommendation α) (v : Verdict α) : Prop where
  value : r.overall.value = v.overall.value
  confidence : r.overall.confidence = v.overall.confidence
  dataPoints : r.overall.dataPoints = v.overall.dataPoints
  breakdown : r.overall.breakdown = v.overall.breakdown
  action : r.action = v.action
  urgency : r.urgency = v.urgency
  estimatedReturn : r.estimatedReturn = v.estimatedReturn
  timeHorizon : r.timeHorizon = v.timeHorizon
  opportunities : r.opportunities = v.opportunities

variable [NumberText α] (e) (strategy : Strategy α) (scores : Scores α)

lemma combine_carries (valuation : Valuation α) :
    (combine e strategy scores valuation).Carries (strategy.interpret scores) := by
  cases valuation with
  | priced price => constructor <;> rfl
  | rejected reason => constructor <;> rfl

lemma combine_of_rejected {valuation : Valuation α} {reason : Rejection α} (h : valuation = .rejected reason) :
    let verdict := strategy.interpret scores
    let r := combine e strategy scores valuation
    r.risks = verdict.risks ++ [reason.message] ∧
      r.overall.reasoning = verdict.overall.reasoning ++ "; Buy price withheld: " ++ reason.message := by
  subst h
  exact ⟨rfl, rfl⟩

lemma combine_of_priced {valuation : Valuation α} {price : BuyPrice α} (h : valuation = .priced price) :
    let verdict := strategy.interpret scores
    let r := combine e strategy scores valuation
    r.buyPrice = some price ∧ r.risks = verdict.risks ∧ r.overall.reasoning = verdict.overall.reasoning := by
  subst h
  exact ⟨rfl, rfl, rfl⟩

end Recommendation

variable [Arithmetic α] [NumberText α]

/-- Once all analyzers are heard, what is left is the appraisal. -/
lemma recommend_of_isHeard {analyzers : List (Analyzer α)} {policy : PricePolicy α} {strategy : Strategy α}
    {e : Evidence α} (hvalid : e.validate = .ok ()) (hheard : ∀ a ∈ analyzers, a.isHeard e) :
    let scores := Recommendation.heard analyzers e
    recommend analyzers policy strategy e =
      .ok ((appraise policy e scores strategy.margin).map (.combine e strategy scores)) := by
  unfold recommend
  rw [hvalid, Recommendation.scoreAll_of_isHeard hheard]
  exact congrArg Except.ok (Checked.bind_pure_eq_map _ _)

lemma PricePolicy.standard_ordered_float :
    (standard : PricePolicy Float).leastMargin ≤ (standard : PricePolicy Float).greatestMargin := by
  decide

lemma exists_recommend_of_isHeard {analyzers : List (Analyzer α)} {policy : PricePolicy α} (strategy : Strategy α)
    {e : Evidence α} (hvalid : e.validate = .ok ()) (hheard : ∀ a ∈ analyzers, a.isHeard e)
    (hyears : e.availability.YearsFit e.asOf.year) (horder : policy.leastMargin ≤ policy.greatestMargin) :
    ∃ r, recommend analyzers policy strategy e = .ok (.value r) := by
  obtain ⟨valuation, hvaluation⟩ : ∃ valuation,
      appraise policy e (Recommendation.heard analyzers e) strategy.margin = .value valuation :=
    Valuation.exists_appraise hyears horder
  rw [recommend_of_isHeard hvalid hheard, hvaluation]
  exact ⟨_, rfl⟩

/-- Valid evidence is appraised with the scores of the last analyzers, as long as all scores are finite. The answer has
the verdict of the strategy, and a price exactly when the appraisal gives one. A rejection is appended to the risks
and to the text, and moves nothing else. -/
theorem recommend_merges_valuation (analyzers : List (Analyzer α)) (policy : PricePolicy α)
    (strategy : Strategy α) {e : Evidence α} (hvalid : e.validate = .ok ())
    (hheard : ∀ a ∈ analyzers, a.isHeard e) :
    ∃ scores : Scores α,
      (∀ d, (analyzers.reverse.find? (·.dimension = d)).elim (.value none) (·.analyze e) =
        .value (scores.get d)) ∧
      let verdict := strategy.interpret scores
      (appraise policy e scores strategy.margin = .aborted →
        recommend analyzers policy strategy e = .ok .aborted) ∧
      ∀ valuation, appraise policy e scores strategy.margin = .value valuation →
        ∃ r, recommend analyzers policy strategy e = .ok (.value r) ∧ r.dimensions = scores ∧
          r.Carries verdict ∧
          (r.buyPrice = none ↔ ∃ reason, valuation = .rejected reason) ∧
          (∀ reason, valuation = .rejected reason →
            r.risks = verdict.risks ++ [reason.message] ∧
            r.overall.reasoning = verdict.overall.reasoning ++ "; Buy price withheld: " ++ reason.message) ∧
          ∀ price, valuation = .priced price →
            r.buyPrice = some price ∧ r.risks = verdict.risks ∧
            r.overall.reasoning = verdict.overall.reasoning := by
  refine ⟨Recommendation.heard analyzers e, Recommendation.elim_analyze_heard hheard, fun haborted => ?_,
    fun valuation hvaluation => ?_⟩
  · rw [recommend_of_isHeard hvalid hheard, haborted]
    rfl
  · refine ⟨.combine e strategy (Recommendation.heard analyzers e) valuation, ?_, rfl,
      Recommendation.combine_carries e strategy _ valuation, Valuation.price?_eq_none_iff, ?_, ?_⟩
    · rw [recommend_of_isHeard hvalid hheard, hvaluation]
      rfl
    · intro reason hrejected
      exact Recommendation.combine_of_rejected e strategy _ hrejected
    · intro price hpriced
      exact Recommendation.combine_of_priced e strategy _ hpriced

omit [NumberText α]

/-- Two analyzers for demand. The later one says nothing about a set that was never sold. -/
def secondOpinion : List (Analyzer α) :=
  [ { name := "listings", description := "Asking prices", dimension := .demand
      analyze := fun _ => .value (some (.of 90.0 0.5 "Much asked for")) },
    { name := "reviews", description := "Star ratings", dimension := .quality
      analyze := fun e => .value (e.quality.rating.map fun rating => .of (rating * 20.0) 0.75 "Well liked") },
    { name := "sales", description := "Units sold", dimension := .demand
      analyze := fun e => .value (e.demand.unitsSold.map fun _ => .of 40.0 0.9 "Sold now and then") } ]

/-- Words its verdicts in its own way, whatever the figures say. -/
def contrarian : Strategy α :=
  { Strategy.quickFlip with
    name := "Contrarian"
    narrative := fun scores base =>
      { base with
        overall := .of 12.5 (scores.meanConfidence?.getD 0.25) "The crowd is wrong"
        action := .pass
        timeHorizon := some "A decade"
        risks := ["Crowded trade"] } }

/-- A well liked set whose price is known or not. -/
def likedSet (retail : Option Cents) : Evidence α where
  productId := "p-1"
  name := "Castle"
  catalogNumber := some "10305-1"
  asOf := ⟨2026, 3, 15, by decide⟩
  pricing := { retailPrice := retail }
  demand := {}
  availability := {}
  quality := { rating := some 4.5 }

/-- Without a known price the reason follows the risk that the strategy sees, and what the listings say of demand is
overruled by sales that say nothing. A price leaves the verdict alone. -/
theorem likedSet_merged :
    letI := gentleExponential
    letI := fractionText
    (∃ r, recommend secondOpinion .standard contrarian (likedSet none : Evidence Float) = .ok (.value r) ∧
      r.buyPrice.isNone ∧ r.dimensions.demand.isNone ∧ r.dimensions.quality.isSome ∧
      r.risks =
        ["Crowded trade", "No retail or secondary-market price available to anchor valuation"] ∧
      r.overall.reasoning = "The crowd is wrong; Buy price withheld: " ++
        "No retail or secondary-market price available to anchor valuation" ∧
      r.action = .pass ∧ r.timeHorizon = some "A decade") ∧
    ∃ r buy, recommend secondOpinion .standard contrarian (likedSet (some ⟨10000⟩) : Evidence ℚ) =
        .ok (.value r) ∧
      r.buyPrice = some buy ∧ r.risks = ["Crowded trade"] ∧
      r.overall.reasoning = "The crowd is wrong" ∧ r.action = .pass := by
  let _ := gentleExponential
  let _ := fractionText
  have hunpriced : (likedSet none : Evidence Float).validate = .ok () := by decide +kernel
  have hfloat : ∀ a ∈ secondOpinion, a.isHeard (likedSet none : Evidence Float) := by decide +kernel
  have hpriced : (likedSet (some ⟨10000⟩) : Evidence ℚ).validate = .ok () := by decide +kernel
  have hexact : ∀ a ∈ secondOpinion, a.isHeard (likedSet (some ⟨10000⟩) : Evidence ℚ) := by decide +kernel
  constructor
  · obtain ⟨scores, hscores, -, hanswered⟩ :=
      recommend_merges_valuation secondOpinion .standard contrarian hunpriced hfloat
    have hvaluation : appraise .standard (likedSet none) scores (contrarian : Strategy Float).margin =
        .value (.rejected .noAnchor) := rfl
    obtain ⟨r, hrun, rfl, hcarries, hprice, hrejected, -⟩ := hanswered _ hvaluation
    obtain ⟨hrisks, htext⟩ := hrejected _ rfl
    refine ⟨r, hrun, ?_, ?_, ?_, hrisks, htext, hcarries.action, hcarries.timeHorizon⟩
    · rw [hprice.mpr ⟨_, rfl⟩]
      rfl
    · have hdemand : (none : Option (Score Float)) = r.dimensions.demand := Checked.value.inj (hscores .demand)
      rw [← hdemand]
      rfl
    · have hquality : some (.of (4.5 * 20.0) 0.75 "Well liked") = r.dimensions.quality :=
        Checked.value.inj (hscores .quality)
      rw [← hquality]
      rfl
  · obtain ⟨scores, -, habort, hanswered⟩ :=
      recommend_merges_valuation secondOpinion .standard contrarian hpriced hexact
    have hknown : (recommend secondOpinion .standard contrarian (likedSet (some ⟨10000⟩) : Evidence ℚ)).toOption.any
        (·.any fun r => r.buyPrice.isSome) := by
      decide +kernel
    cases hanswer : appraise .standard (likedSet (some ⟨10000⟩)) scores (contrarian : Strategy ℚ).margin with
    | aborted =>
      rw [habort hanswer] at hknown
      cases hknown
    | value valuation =>
      obtain ⟨r, hrun, -, hcarries, hprice, -, hpricing⟩ := hanswered valuation hanswer
      rw [hrun] at hknown
      cases valuation with
      | rejected reason =>
        have hbuy : r.buyPrice.isSome := hknown
        rw [hprice.mpr ⟨reason, rfl⟩] at hbuy
        cases hbuy
      | priced buy =>
        obtain ⟨hsome, hrisks, htext⟩ := hpricing buy rfl
        exact ⟨r, buy, hrun, hsome, hrisks, htext, hcarries.action⟩

end Appraisal
