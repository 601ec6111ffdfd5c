import Appraisal.Proofs.Abstention
import Appraisal.Proofs.Prices
import Appraisal.Proofs.Recommendations
import Appraisal.Proofs.RetirementPhase
import Appraisal.Proofs.RiskKinds

/-!
# Hand-offs

Some of what the analyses find is meant for others: the factor of availability for the price, the relative strength
for the strategy that resells within weeks, and the phase of retirement for the strategy that holds for years. It
travels in the breakdown and under keys of the data points, and arrives whenever it was known at the start.
-/

namespace Appraisal
open Scorecard

section Producers
variable {α : Type} [Arithmetic α] [NumberText α]

/-- The factor for the price is entered when the card has been scored. -/
lemma Availability.multiplier_of_score? {e : AvailabilityEvidence} {currentYear : Int32} {s : Score α}
    (h : score? e currentYear = .value (some s)) : s.multiplier = some (scarcityFactor s.value) := by
  obtain ⟨reason, -, hcard⟩ := score?_eq_value_iff.mp h
  obtain ⟨bare, hbare, rfl⟩ := Option.map_eq_some_iff.mp hcard
  -- A score of a card always has the breakdown that takes the factor.
  obtain ⟨-, -, b, hb, -⟩ := toScore?_eq_some hbare
  unfold Score.multiplier withScarcity
  simp only [hb, Option.map_some, Option.bind_some]

namespace Demand
variable {e : DemandEvidence α}

omit [NumberText α] in
lemma exists_momentumScore? {t : ConditionSales α} {strength : α} (h : t.relativeStrength = some strength) :
    ∃ score, momentumScore? t = some score := by
  rw [← Option.ne_none_iff_exists', ne_eq]
  unfold momentumScore?
  rw [Arithmetic.meanPresent?_eq_none_iff]
  simp [h]

lemma points_velocityEntries (t : ConditionSales α) :
    (velocityEntries t).points =
      [("sales_per_day", .number (salesPerDay t)), ("total_transactions", .nat t.totalTransactions.toNat)] := by
  cases hchange : paceChange? t <;> simp [velocityEntries, hchange]

lemma points_momentumEntries (t : ConditionSales α) :
    (momentumEntries t).points = (t.relativeStrength.map fun strength => ("rsi", .number strength)).toList := by
  unfold momentumEntries
  cases hstrength : t.relativeStrength with
  | none => cases momentumScore? t <;> simp
  | some strength =>
    -- The strength is written only beside a momentum, which it is enough for.
    obtain ⟨score, hscore⟩ := exists_momentumScore? hstrength
    simp [hscore]

/-- The relative strength is written under its key whenever it is known, and nothing else is. -/
lemma mem_points_rsi {value : Json α} :
    ("rsi", value) ∈ (card e).points ↔
      ∃ strength, e.transactions.bind (·.relativeStrength) = some strength ∧ value = .number strength := by
  have hlisting : ("rsi", value) ∉ (listingEntries e).points := by
    unfold listingEntries
    cases listingScore? e <;> cases priceTrendRatio? e <;> cases retailPremium? e <;> simp
  have hsales : ("rsi", value) ∈ (salesEntries e).points ↔
      ∃ strength, e.transactions.bind (·.relativeStrength) = some strength ∧ value = .number strength := by
    unfold salesEntries
    cases e.transactions with
    | some t =>
      cases hstrength : t.relativeStrength <;> simp [points_velocityEntries, points_momentumEntries, hstrength]
    | none => cases e.guideTimesSold <;> simp [guideVelocityEntries]
  rw [← hsales]
  cases hcommunity : e.community <;> cases hunits : e.unitsSold <;>
    simp [card, slotEntries, communityEntries, retailEntries, hlisting, hcommunity, hunits]

/-- A relative strength that has a written form is read back from the score. -/
lemma strength_of_score? {s : Score α} (hs : score? e = some s)
    (hfinite : ∀ strength, e.transactions.bind (·.relativeStrength) = some strength →
      Arithmetic.isFinite strength = true) :
    s.dataNumber? "rsi" = e.transactions.bind (·.relativeStrength) := by
  unfold Score.dataNumber?
  rw [dataPoints_of_toScore? hs]
  cases hstrength : e.transactions.bind (·.relativeStrength) with
  | none =>
    have hnone : (card e).dataPoints.get? "rsi" = none := by
      refine (Keyed.get?_ofList_eq_none_iff _ _).mpr fun hmem => ?_
      obtain ⟨⟨key, value⟩, hpoint, rfl⟩ := List.mem_map.mp hmem
      obtain ⟨strength, hsome, -⟩ := mem_points_rsi.mp hpoint
      rw [hstrength] at hsome
      cases hsome
    rw [hnone]
    rfl
  | some strength =>
    have hpoint : (card e).dataPoints.get? "rsi" = some (.number strength) := by
      refine get?_dataPoints (mem_points_rsi.mpr ⟨strength, hstrength, rfl⟩) fun value hvalue => ?_
      obtain ⟨other, hother, rfl⟩ := mem_points_rsi.mp hvalue
      rw [hstrength] at hother
      cases hother
      rfl
    rw [hpoint, Json.number, if_pos (hfinite strength hstrength)]
    rfl

/-- With a relative strength there is always a score that carries it. -/
lemma bind_strength (hfinite : ∀ strength, e.transactions.bind (·.relativeStrength) = some strength →
      Arithmetic.isFinite strength = true) :
    (score? e).bind (·.dataNumber? "rsi") = e.transactions.bind (·.relativeStrength) := by
  cases hs : score? e with
  | some s => exact strength_of_score? hs hfinite
  | none =>
    rw [(score?_eq_none_iff.mp hs).1]
    rfl

end Demand

lemma Evidence.isFinite_strength {e : Evidence Float} (h : e.validate = .ok ()) {strength : Float}
    (hstrength : e.demand.transactions.bind (·.relativeStrength) = some strength) :
    Arithmetic.isFinite strength = true := by
  obtain ⟨t, ht, hx⟩ := Option.bind_eq_some_iff.mp hstrength
  apply isFinite_of_validate h "rsi"
  unfold measures
  rw [ht, ← hx]
  simp

end Producers

section Consumers
variable {α : Type} [Arithmetic α] [NumberText α] {scores : Scores α}

/-- A price is worked out with the factor that the availability score contributes. -/
lemma Valuation.scarcity_of_priced {policy : PricePolicy α} {e : Evidence α} {base : α} {buy : BuyPrice α}
    (h : appraise policy e scores base = .value (.priced buy)) :
    ∃ d, buy.derivation = some d ∧
      d.factors.scarcity = (scores.availability.bind (·.multiplier)).getD 1.0 := by
  obtain ⟨d, s, hd, -, -, -, hfactors, -⟩ := exists_derivation h
  refine ⟨d, hd, ?_⟩
  rw [hfactors]
  rfl

namespace Verdict
variable {weights : Weights α} {actions : ActionLevels α} {urgencies : UrgencyLevels α}

lemma mem_opportunities {text : String} (h : text ∈ (read weights actions urgencies scores).opportunities) :
    text ∈ ["Strong market demand", "Scarcity value", "High quality product"] := by
  have hread : text ∈ opportunitiesIn scores := by
    unfold read at h
    dsimp only at h
    split at h <;> exact h
  obtain ⟨finding, hmem, htext⟩ := List.mem_filterMap.mp hread
  have hfinding := mem_findings hmem
  simp only [List.mem_cons, List.not_mem_nil, or_false] at hfinding
  rcases hfinding with rfl | rfl | rfl | rfl | rfl | rfl <;> cases htext <;> simp

lemma mem_risks {text : String} (h : text ∈ (read weights actions urgencies scores).risks) :
    text ∈ ["Insufficient data to score this product", "Low market demand",
      "Readily available, no scarcity premium", "Quality concerns"] ∨ BeginsWith text "Limited" ∨ BeginsWith text "No " := by
  have hread : text = nothingScored ∨ text ∈ risksIn weights scores := by
    unfold read at h
    dsimp only at h
    split at h
    · exact List.mem_cons.mp h
    · exact .inr h
  rcases hread with rfl | hrisk
  · exact .inl List.mem_cons_self
  · unfold risksIn at hrisk
    rcases List.mem_append.mp hrisk with hrisk | hmissing
    · rcases List.mem_append.mp hrisk with hfinding | hlimited
      · obtain ⟨finding, hmem, htext⟩ := List.mem_filterMap.mp hfinding
        have hfinding := mem_findings hmem
        simp only [List.mem_cons, List.not_mem_nil, or_false] at hfinding
        rcases hfinding with rfl | rfl | rfl | rfl | rfl | rfl <;> cases htext <;> simp
      · exact .inr (.inl ((beginsWith_of_mem_confidenceRisks hlimited).trans (by decide)))
    · obtain ⟨d, -, rfl⟩ := List.mem_map.mp hmissing
      exact .inr (.inr (noDataRisk_beginsWith d))

/-- No verdict that the figures give warns of an overheated market. -/
lemma not_beginsWith_of_mem_risks {text : String} (h : text ∈ (read weights actions urgencies scores).risks) :
    ¬ BeginsWith text "Overheated market" := by
  intro hbegins
  rcases mem_risks h with hmem | hlimited | hnone
  · simp only [List.mem_cons, List.not_mem_nil, or_false] at hmem
    rcases hmem with rfl | rfl | rfl | rfl <;> exact absurd hbegins (by decide)
  · exact absurd (hlimited.comparable hbegins) (by decide)
  · exact absurd (hnone.comparable hbegins) (by decide)

end Verdict

/-- Neither does a reason for which a price is withheld. -/
lemma Rejection.not_beginsWith (reason : Rejection α) : ¬ BeginsWith reason.message "Overheated market" := by
  intro hbegins
  have hmessage : BeginsWith reason.message "No " ∨ BeginsWith reason.message "Zero " ∨
      BeginsWith reason.message "Degenerate " := by
    cases reason <;> dsimp only [message]
    case noAnchor => exact .inl (by decide)
    case unverifiedMarket => exact .inr (.inl (by decide))
    case unverifiedPremium ratio asking retail =>
      refine .inr (.inl ?_)
      repeat apply BeginsWith.append
      decide
    case degenerateValue anchor => exact .inr (.inr (BeginsWith.append (by decide) _))
    case degeneratePrice value => exact .inr (.inr (BeginsWith.append (by decide) _))
  rcases hmessage with hstart | hstart | hstart <;> exact absurd (hstart.comparable hbegins) (by decide)

namespace Strategy

lemma overheatedRisk?_eq_some_iff {demand : Score α} {risk : String} :
    overheatedRisk? demand = some risk ↔
      ∃ strength, demand.dataNumber? "rsi" = some strength ∧ (80.0 : α) < strength ∧
        risk = s!"Overheated market (RSI {NumberText.whole strength}): prices may correct before resale" := by
  unfold overheatedRisk?
  cases demand.dataNumber? "rsi" with
  | none => simp
  | some strength => by_cases hhot : (80.0 : α) < strength <;> simp [guard, hhot, eq_comm]

/-- A verdict warns of an overheated market only through the story of the strategy that resells. -/
lemma quickFlip_warns_iff_risk :
    (∃ risk ∈ (quickFlip.interpret scores).risks, BeginsWith risk "Overheated market") ↔
      ∃ demand, scores.demand = some demand ∧ ∃ risk, overheatedRisk? demand = some risk := by
  constructor
  · rintro ⟨risk, hmem, hbegins⟩
    rcases List.mem_append.mp hmem with hbase | htold
    · exact absurd hbegins (Verdict.not_beginsWith_of_mem_risks hbase)
    · unfold flipNarrative at htold
      cases hdemand : scores.demand with
      | none => simp [hdemand] at htold
      | some demand =>
        rw [hdemand] at htold
        exact ⟨demand, rfl, risk, Option.mem_toList.mp htold⟩
  · rintro ⟨demand, hdemand, risk, hrisk⟩
    refine ⟨risk, List.mem_append_right _ ?_, ?_⟩
    · unfold flipNarrative
      rw [hdemand]
      exact Option.mem_toList.mpr hrisk
    · obtain ⟨strength, -, -, rfl⟩ := overheatedRisk?_eq_some_iff.mp hrisk
      repeat apply BeginsWith.append
      decide

/-- It does so exactly when the strength that demand carries is above 80. -/
lemma quickFlip_warns_iff :
    (∃ risk ∈ (quickFlip.interpret scores).risks, BeginsWith risk "Overheated market") ↔
      (scores.demand.bind (·.dataNumber? "rsi")).any ((80.0 : α) < ·) := by
  rw [quickFlip_warns_iff_risk]
  simp only [overheatedRisk?_eq_some_iff, Option.any_eq_true, Option.bind_eq_some_iff, decide_eq_true_eq]
  constructor
  · rintro ⟨demand, hdemand, risk, strength, hstrength, hhot, -⟩
    exact ⟨strength, ⟨demand, hdemand, hstrength⟩, hhot⟩
  · rintro ⟨strength, ⟨demand, hdemand, hstrength⟩, hhot⟩
    exact ⟨demand, hdemand, _, strength, hstrength, hhot, rfl⟩

omit [NumberText α] in
/-- The story of the strategy that holds for years follows the phase that availability publishes. -/
lemma holdingNarrative_cases (h : scores.present ≠ []) (overall : α) :
    let story := holdingNarrative scores overall
    let phase := scores.availability.bind (·.dataText? "retirement_phase")
    (phase = some "retired" ∧ story.timeHorizon = some "2-5 years (appreciation phase)" ∧
      story.opportunity = some "Appreciation phase: retired set with fixed supply") ∨
    (phase = some "pre_retirement" ∧ story.timeHorizon = some "1-3 years (pre-retirement accumulation)" ∧
      story.opportunity = some "Pre-retirement window: accumulate before supply ends") ∨
    (phase ≠ some "retired" ∧ phase ≠ some "pre_retirement") ∧ story.timeHorizon = some "3-5 years" ∧
      story.opportunity = none := by
  have hempty : scores.present.isEmpty = false := by simpa using h
  unfold holdingNarrative
  rw [hempty]
  simp only [Bool.false_eq_true, if_false]
  split
  · rename_i hphase
    exact .inr (.inl ⟨hphase, rfl, rfl⟩)
  · rename_i hphase
    exact .inl ⟨hphase, rfl, rfl⟩
  · rename_i hbefore hafter
    exact .inr (.inr ⟨⟨hafter, hbefore⟩, rfl, rfl⟩)

/-- Whether a horizon and the opportunities tell that a set is retired, or that it is to retire. -/
structure TellsPhase (horizon : Option String) (opportunities : List String) (retired coming : Prop) : Prop where
  appreciation : horizon = some "2-5 years (appreciation phase)" ↔ retired
  fixedSupply : "Appreciation phase: retired set with fixed supply" ∈ opportunities ↔ retired
  accumulation : horizon = some "1-3 years (pre-retirement accumulation)" ↔ coming
  window : "Pre-retirement window: accumulate before supply ends" ∈ opportunities ↔ coming
  neither : horizon = some "3-5 years" ↔ ¬ retired ∧ ¬ coming

lemma investmentFocus_tellsPhase (h : scores.present ≠ []) :
    let verdict := investmentFocus.interpret scores
    let phase := scores.availability.bind (·.dataText? "retirement_phase")
    TellsPhase verdict.timeHorizon verdict.opportunities (phase = some "retired") (phase = some "pre_retirement") := by
  intro verdict phase
  let base := investmentFocus.baseVerdict scores
  let story := holdingNarrative scores base.overall.value
  have hhorizon : verdict.timeHorizon = story.timeHorizon := rfl
  have hmem (text : String)
      (hother : text ∉ ["Strong market demand", "Scarcity value", "High quality product"]) :
      text ∈ verdict.opportunities ↔ story.opportunity = some text := by
    have happend : verdict.opportunities = base.opportunities ++ story.opportunity.toList := rfl
    rw [happend, List.mem_append, Option.mem_toList]
    exact or_iff_right fun hbase => hother (Verdict.mem_opportunities hbase)
  have hretired := hmem "Appreciation phase: retired set with fixed supply" (by decide)
  have hcoming := hmem "Pre-retirement window: accumulate before supply ends" (by decide)
  rcases holdingNarrative_cases h base.overall.value with
    ⟨hphase, htime, htold⟩ | ⟨hphase, htime, htold⟩ | ⟨⟨hretired', hcoming'⟩, htime, htold⟩
  · constructor <;> simp [phase, hhorizon, hretired, hcoming, hphase, story, htime, htold]
  · constructor <;> simp [phase, hhorizon, hretired, hcoming, hphase, story, htime, htold]
  · constructor <;> simp [phase, hhorizon, hretired, hcoming, hretired', hcoming', story, htime, htold]

end Strategy

/-- Withholding a price adds no warning of an overheated market. -/
lemma Recommendation.warns_combine_iff {e : Evidence α} {strategy : Strategy α} {valuation : Valuation α} :
    (∃ risk ∈ (combine e strategy scores valuation).risks, BeginsWith risk "Overheated market") ↔
      ∃ risk ∈ (strategy.interpret scores).risks, BeginsWith risk "Overheated market" := by
  cases valuation with
  | priced price => rfl
  | rejected reason =>
    rw [(combine_of_rejected e strategy scores rfl).1]
    constructor
    · rintro ⟨risk, hmem, hbegins⟩
      rcases List.mem_append.mp hmem with hverdict | hreason
      · exact ⟨risk, hverdict, hbegins⟩
      · rw [List.mem_singleton.mp hreason] at hbegins
        exact absurd hbegins reason.not_beginsWith
    · rintro ⟨risk, hmem, hbegins⟩
      exact ⟨risk, List.mem_append_left _ hmem, hbegins⟩

end Consumers

/-- What the analyses find in valid evidence arrives. Under every strategy a price contains the factor of the
availability score, the strategy that resells warns of a relative strength above 80, and the strategy that holds tells
the phase of retirement that the evidence implies. The evidence is never refused, and gets an answer when all integers
fit and the limits of the margin are in order. -/
theorem recommend_heeds_analyses {e : Evidence Float} (h : e.validate = .ok ()) (expectedBrand : String)
    (policy : PricePolicy Float) :
    let answer (strategy : Strategy Float) := recommend (Analyzer.standard expectedBrand) policy strategy e
    let a := e.availability
    let year := e.asOf.year
    (∀ strategy, ∃ outcome, answer strategy = .ok outcome ∧
      (e.Fits → policy.leastMargin ≤ policy.greatestMargin → outcome ≠ .aborted)) ∧
    (∀ strategy r buy, answer strategy = .ok (.value r) → r.buyPrice = some buy →
      ∃ d, buy.derivation = some d ∧
        d.factors.scarcity = r.dimensions.availability.elim 1.0 fun s => Availability.scarcityFactor s.value) ∧
    (∀ r, answer Strategy.quickFlip = .ok (.value r) →
      ((∃ risk ∈ r.risks, BeginsWith risk "Overheated market") ↔
        (e.demand.transactions.bind (·.relativeStrength)).any ((80.0 : Float) < ·))) ∧
    ∀ r, answer Strategy.investmentFocus = .ok (.value r) → r.dimensions.present ≠ [] →
      Strategy.TellsPhase r.timeHorizon r.opportunities
        (a.yearRetired.any (· ≤ year) ∨ a.yearRetired = none ∧ a.daysUntilRetirement.any (· < 0))
        (a.yearRetired.any (year < ·) ∨ a.yearRetired = none ∧ (a.daysUntilRetirement.any (0 ≤ ·) ∨
          a.daysUntilRetirement = none ∧ a.retiringSoon = some true)) := by
  intro answer a year
  refine ⟨fun strategy => ⟨_, recommend_of_validate h expectedBrand policy strategy, ?_⟩, ?_, ?_, ?_⟩
  · intro hfits horder haborted
    obtain ⟨r, hr⟩ := exists_recommend h hfits expectedBrand horder strategy
    rw [recommend_of_validate h, haborted] at hr
    cases hr
  · intro strategy r buy hanswer hbuy
    obtain ⟨scores, hscores, valuation, hvaluation, rfl⟩ := (recommend_eq_value_iff h).mp hanswer
    obtain rfl := Valuation.price?_eq_some_iff.mp hbuy
    obtain ⟨d, hd, hscarcity⟩ := Valuation.scarcity_of_priced hvaluation
    refine ⟨d, hd, ?_⟩
    rw [hscarcity]
    change (scores.availability.bind (·.multiplier)).getD 1.0 = scores.availability.elim 1.0 _
    obtain ⟨-, havailability, -⟩ := Recommendation.standardScores_eq_value_iff.mp hscores
    cases hscore : scores.availability with
    | none => rfl
    | some s =>
      rw [hscore] at havailability
      rw [Option.bind_some, Availability.multiplier_of_score? havailability]
      rfl
  · intro r hanswer
    obtain ⟨scores, hscores, valuation, -, rfl⟩ := (recommend_eq_value_iff h).mp hanswer
    obtain ⟨hdemand, -, -⟩ := Recommendation.standardScores_eq_value_iff.mp hscores
    rw [Recommendation.warns_combine_iff, Strategy.quickFlip_warns_iff, ← hdemand,
      Demand.bind_strength fun strength => Evidence.isFinite_strength h]
  · intro r hanswer hpresent
    obtain ⟨scores, hscores, valuation, -, rfl⟩ := (recommend_eq_value_iff h).mp hanswer
    obtain ⟨-, havailability, -⟩ := Recommendation.standardScores_eq_value_iff.mp hscores
    have hcarries := Recommendation.combine_carries e Strategy.investmentFocus scores valuation
    rw [hcarries.timeHorizon, hcarries.opportunities, ← phase_eq_retired_iff, ← phase_eq_preRetirement_iff,
      ← Availability.dataText?_phase_iff havailability (by decide),
      ← Availability.dataText?_phase_iff havailability (by decide)]
    exact Strategy.investmentFocus_tellsPhase hpresent

/-- A castle whose expected date has passed, in a market that has risen fast. -/
def heatedCastle : Evidence Float where
  productId := "p-1"
  name := "Castle"
  catalogNumber := some "10305-1"
  asOf := ⟨2025, 9, 8, by decide⟩
  pricing := { retailPrice := some ⟨9999⟩ }
  demand := { transactions := some { totalTransactions := 12, relativeStrength := some 86.5 } }
  availability := { daysUntilRetirement := some (-3), retiringSoon := some true }
  quality := {}

theorem heatedCastle_heeded :
    let answer (strategy : Strategy Float) := recommend (Analyzer.standard "LEGO") .standard strategy heatedCastle
    heatedCastle.validate = .ok () ∧
    (∃ r, answer Strategy.quickFlip = .ok (.value r) ∧ ∃ risk ∈ r.risks, BeginsWith risk "Overheated market") ∧
    ∃ r, answer Strategy.investmentFocus = .ok (.value r) ∧ r.timeHorizon = some "2-5 years (appreciation phase)" ∧
      "Appreciation phase: retired set with fixed supply" ∈ r.opportunities := by
  intro answer
  have hvalid : heatedCastle.validate = .ok () := by decide +kernel
  have hanswer (strategy : Strategy Float) : ∃ r, answer strategy = .ok (.value r) :=
    exists_recommend hvalid ⟨by decide, nofun, nofun⟩ "LEGO" PricePolicy.standard_ordered_float strategy
  obtain ⟨-, -, hwarns, htells⟩ := recommend_heeds_analyses hvalid "LEGO" .standard
  obtain ⟨flip, hflip⟩ := hanswer Strategy.quickFlip
  obtain ⟨hold, hhold⟩ := hanswer Strategy.investmentFocus
  refine ⟨hvalid, ⟨flip, hflip, (hwarns flip hflip).mpr (by decide +kernel)⟩, hold, hhold, ?_⟩
  have hpresent : hold.dimensions.present ≠ [] := by
    obtain ⟨scores, hscores, valuation, -, rfl⟩ := (recommend_eq_value_iff hvalid).mp hhold
    obtain ⟨-, havailability, -⟩ := Recommendation.standardScores_eq_value_iff.mp hscores
    obtain ⟨s, hs⟩ : ∃ s, scores.availability = some s := by
      rw [← Option.ne_none_iff_exists']
      intro hnone
      rw [hnone, Availability.score?_eq_none_iff] at havailability
      exact absurd havailability (by simp [heatedCastle])
    exact List.ne_nil_of_mem (List.mem_filterMap.mpr ⟨.availability, by decide, congrArg (Option.map _) hs⟩)
  have htells := htells hold hhold hpresent
  have hpassed : heatedCastle.availability.yearRetired = none ∧
      heatedCastle.availability.daysUntilRetirement.any (· < 0) := ⟨rfl, by decide⟩
  exact ⟨htells.appreciation.mpr (.inr hpassed), htells.fixedSupply.mpr (.inr hpassed)⟩

end Appraisal
