import Appraisal.Proofs.Aborted
import Appraisal.Proofs.Prices
import Mathlib.Tactic.GCongr
import Mathlib.Tactic.Positivity

/-!
# Why a price is withheld

Under the standard policy no factor of a price is small, and the margin takes at most half. So an anchor of
two cents or more carries a price, and only a lack of sales speaks against it. Where nothing does, the years of the
set still have to fit into 32 bits: there is no answer otherwise.
-/

namespace Appraisal

lemma toInt_max (a b : Int32) : (max a b).toInt = max a.toInt b.toInt := by
  have hmax : max a b = if a ≤ b then b else a := rfl
  rw [hmax]
  split
  · rename_i h
    rw [max_eq_right (Int32.le_iff_toInt_le.mp h)]
  · rename_i h
    rw [max_eq_left (le_of_lt (by simpa [Int32.le_iff_toInt_le] using h))]

variable [Exponential]

namespace Factor

lemma one_le_retirement (hexp : ∀ t : ℚ, 0 ≤ t → 0 < Exponential.exp (-t)) (standing : RetirementStanding) :
    (1 : ℚ) ≤ retirement .standard standing := by
  unfold retirement
  split
  · norm_num
  · norm_num [PricePolicy.standard]
  · rename_i years hstatus hyears
    have hage : 0 ≤ (max years 0).toInt := by
      rw [toInt_max]
      exact le_max_right _ _
    have hdecay := hexp ((max years 0).toInt / 4.0) (by positivity)
    rw [← neg_div] at hdecay
    calc (1 : ℚ) ≤ 1.10 + (1.30 - 1.10) * 0 := by norm_num
      _ ≤ 1.10 + (1.30 - 1.10) * Exponential.exp (-((max years 0).toInt : ℚ) / 4.0) := by
        gcongr
  · norm_num [PricePolicy.standard]

lemma le_demand (score : Option ℚ) : (0.85 : ℚ) ≤ demand .standard score := by
  unfold demand
  split
  · rename_i score
    obtain ⟨hlow, -⟩ := Exact.clamp_mem (show (0.0 : ℚ) ≤ 100.0 by norm_num) score
    simp only [PricePolicy.standard]
    norm_num at hlow ⊢
    linarith
  · norm_num

lemma le_liquidity (transactions : Option UInt32) : (0.80 : ℚ) ≤ liquidity transactions := by
  unfold liquidity
  split
  · norm_num
  · split_ifs <;> norm_num

lemma le_volatility (v : Option ℚ) : (0.85 : ℚ) ≤ volatility v := by
  unfold volatility
  split
  · split_ifs <;> norm_num
  · norm_num

lemma one_le_theme (name : Option String) : (1 : ℚ) ≤ theme .standard name := by
  unfold theme
  split_ifs <;> norm_num [PricePolicy.standard]

lemma le_partsValue (p : PricePolicy ℚ) (retail : Option Cents) (partsCount : Option UInt32) :
    (0.95 : ℚ) ≤ partsValue p retail partsCount := by
  unfold partsValue
  split
  · dsimp only
    split_ifs <;> norm_num
  · norm_num

end Factor

lemma PricePolicy.standard_ordered :
    (PricePolicy.standard : PricePolicy ℚ).leastMargin ≤ (PricePolicy.standard : PricePolicy ℚ).greatestMargin := by
  norm_num [PricePolicy.standard]

lemma exists_marginOfSafety (base : ℚ) (scores : Scores ℚ) :
    ∃ margin, marginOfSafety .standard base scores = .value margin ∧ margin ≤ 0.50 :=
  ⟨_, Valuation.marginOfSafety_eq_value_iff.mpr ⟨PricePolicy.standard_ordered, rfl⟩,
    (Exact.clamp_mem PricePolicy.standard_ordered _).2⟩

namespace Valuation
variable {e : Evidence ℚ} {scores : Scores ℚ} {s : RetirementStanding}

/-- Half a cent or more rounds to a positive amount. -/
lemma exists_positiveCents? {x : ℚ} (h : 1 / 2 ≤ x) : ∃ c, positiveCents? x = some c := by
  have hpositive : (0 : Int64) < Int64.ofIntClamp (Exact.nearest x) :=
    (Exact.ofIntClamp_pos_iff _).mpr ((Exact.nearest_pos_iff x).mpr h)
  refine ⟨⟨Int64.ofIntClamp (Exact.nearest x)⟩, ?_⟩
  unfold positiveCents?
  rw [Exact.round?_eq, Option.filter_some, if_pos]
  simpa [Cents.isPositive] using hpositive

section Standard
variable (hexp : ∀ t : ℚ, 0 ≤ t → 0 < Exponential.exp (-t))
  (hscarcity : ∀ m, scores.availability.bind (·.multiplier) = some m → 0.95 ≤ m)
include hexp hscarcity

/-- All factors together leave more than half of the anchor. -/
lemma le_intrinsic {anchor : Anchor} (hanchor : 0 ≤ anchor.price.value.toInt) :
    0.52 * (anchor.price.value.toInt : ℚ) ≤ intrinsic anchor (factors .standard s e scores) := by
  have hprice : (0 : ℚ) ≤ anchor.price.value.toInt := by exact_mod_cast hanchor
  have hretirement := Factor.one_le_retirement hexp s
  have hdemand := Factor.le_demand (scores.demand.map (·.value))
  have hscarcity : (0.95 : ℚ) ≤ (scores.availability.bind (·.multiplier)).getD 1.0 := by
    cases hm : scores.availability.bind (·.multiplier) with
    | none => norm_num
    | some m => exact hscarcity m hm
  have hliquidity := Factor.le_liquidity e.pricing.transactionCount
  have hvolatility := Factor.le_volatility e.pricing.priceVolatility
  have htheme := Factor.one_le_theme e.quality.theme
  have hparts := Factor.le_partsValue .standard e.pricing.retailPrice e.quality.partsCount
  -- The worst factors multiply to a little over 0.52, so that half of the value of two cents is a cent still.
  calc 0.52 * (anchor.price.value.toInt : ℚ)
      ≤ anchor.price.value.toInt * 1 * 0.85 * 0.95 * 0.80 * 0.85 * 1 * 0.95 := by
        norm_num
        linarith
    _ ≤ anchor.price.value.toInt * Factor.retirement .standard s *
          Factor.demand .standard (scores.demand.map (·.value)) *
          (scores.availability.bind (·.multiplier)).getD 1.0 *
          Factor.liquidity e.pricing.transactionCount * Factor.volatility e.pricing.priceVolatility *
          Factor.theme .standard e.quality.theme *
          Factor.partsValue .standard e.pricing.retailPrice e.quality.partsCount := by
        gcongr
    _ = intrinsic anchor (factors .standard s e scores) := rfl

variable [NumberText ℚ]

/-- On an anchor of two cents or more neither the value nor the price rounds to nothing. -/
lemma exists_priceOn_eq_priced (hs : standing .standard e = .value s) (anchor : Anchor)
    (hanchor : 2 ≤ anchor.price.value.toInt) (base : ℚ) :
    ∃ buy, priceOn .standard e scores base anchor = .value (.priced buy) := by
  have hprice : (2 : ℚ) ≤ anchor.price.value.toInt := by exact_mod_cast hanchor
  have hvalue : 1.04 ≤ intrinsic anchor (factors .standard s e scores) := by
    calc (1.04 : ℚ) ≤ 0.52 * anchor.price.value.toInt := by
          norm_num
          linarith
      _ ≤ intrinsic anchor (factors .standard s e scores) := le_intrinsic hexp hscarcity (by omega)
  obtain ⟨margin, hmargin, hmost⟩ := exists_marginOfSafety base scores
  have hkept : (0.50 : ℚ) ≤ 1.0 - margin := by
    norm_num at hmost ⊢
    linarith
  obtain ⟨value, hvalue?⟩ := exists_positiveCents? (le_trans (by norm_num) hvalue)
  obtain ⟨price, hprice?⟩ : ∃ price, positiveCents?
      (intrinsic anchor (factors .standard s e scores) * (1.0 - margin)) = some price := by
    apply exists_positiveCents?
    calc (1 / 2 : ℚ) ≤ 1.04 * 0.50 := by norm_num
      _ ≤ intrinsic anchor (factors .standard s e scores) * (1.0 - margin) := by
          gcongr
  obtain ⟨buy, hbuy, -⟩ := exists_priceOn hs hvalue? hmargin hprice?
  exact ⟨buy, hbuy⟩

end Standard

/-- Whether no sale backs the anchor of a price: there is none on record, and the anchor is a market price,
or sellers ask more than half as much again as the retail price. -/
def IsUnverified (p : PricingEvidence ℚ) : Prop :=
  p.transactionCount = some 0 ∧
    (p.retailPrice = none ∨ ∃ retail asking, p.retailPrice = some retail ∧ p.askingPrice = some asking ∧
      1.5 * (retail.value.toInt : ℚ) < asking.value.toInt)

/-- What is said of an unverified anchor. -/
def IsUnverifiedReason (p : PricingEvidence ℚ) (reason : Rejection ℚ) : Prop :=
  p.retailPrice = none ∧ reason = .unverifiedMarket ∨
    ∃ retail asking, p.retailPrice = some retail ∧ p.askingPrice = some asking ∧
      reason = .unverifiedPremium ((asking.value.toInt : ℚ) / retail.value.toInt) asking retail

lemma unverified?_retail (p : PricingEvidence ℚ) {retail : Cents} (hretail : retail.isPositive) :
    unverified? .standard p ⟨retail, .retailPrice⟩ = p.askingPrice.bind fun asking =>
      if 1.5 * (retail.value.toInt : ℚ) < asking.value.toInt then
        some (.unverifiedPremium ((asking.value.toInt : ℚ) / retail.value.toInt) asking retail)
      else none := by
  have hpos : (0 : ℚ) < retail.value.toInt := by exact_mod_cast (Cents.isPositive_iff retail).mp hretail
  unfold unverified?
  cases p.askingPrice with
  | none => rfl
  | some asking =>
    have hratio : asking.ratio? retail = some ((asking.value.toInt : ℚ) / retail.value.toInt) := by
      unfold Cents.ratio?
      rw [if_pos hretail]
      rfl
    have hiff : (PricePolicy.standard : PricePolicy ℚ).credibleMultiple <
        (asking.value.toInt : ℚ) / retail.value.toInt ↔ 1.5 * (retail.value.toInt : ℚ) < asking.value.toInt :=
      lt_div_iff₀ hpos
    simp only [hratio, hiff, Option.getD_some, Option.bind_some, Option.bind_eq_bind]

omit [Exponential] in
lemma anchor?_eq (p : PricingEvidence ℚ) :
    anchor? p = (p.retailPrice <|> marketPrice? p).map fun price =>
      ⟨price, if p.retailPrice.isSome then .retailPrice else .secondaryMarket⟩ := by
  unfold anchor?
  cases p.retailPrice with
  | some retail => rfl
  | none => cases marketPrice? p <;> rfl

/-- The objections to an anchor are those to an unverified one. -/
lemma objection?_spec {p : PricingEvidence ℚ} {anchor : Anchor} (h : anchor? p = some anchor)
    (hretail : ∀ retail, p.retailPrice = some retail → retail.isPositive) :
    (∀ reason, objection? .standard p anchor = some reason → IsUnverifiedReason p reason) ∧
      ((∃ reason, objection? .standard p anchor = some reason) ↔ IsUnverified p) := by
  rw [anchor?_eq] at h
  obtain ⟨price, hprice, rfl⟩ := Option.map_eq_some_iff.mp h
  unfold objection? IsUnverified IsUnverifiedReason
  by_cases hcount : p.transactionCount = some 0
  · cases hsource : p.retailPrice with
    | none => simp [hcount, unverified?]
    | some retail =>
      obtain rfl : retail = price := by
        rw [hsource] at hprice
        exact Option.some.inj hprice
      simp only [hcount, Option.isSome_some, if_true, unverified?_retail p (hretail retail hsource)]
      cases p.askingPrice with
      | none => simp
      | some asking =>
        by_cases hasked : 1.5 * (retail.value.toInt : ℚ) < asking.value.toInt <;> simp [hasked]
  · simp [hcount]

end Valuation

variable [NumberText ℚ]

/-- Under the standard policy a price is withheld when there is no anchor for it, or when no sale backs the
anchor. On any other anchor of two cents or more there is a price exactly when the years of the set fit, and the
appraisal is aborted when they do not. -/
theorem appraise_rejects_iff (hexp : ∀ t : ℚ, 0 ≤ t → 0 < Exponential.exp (-t)) (e : Evidence ℚ)
    (scores : Scores ℚ) (base : ℚ)
    (hretail : ∀ retail, e.pricing.retailPrice = some retail → retail.isPositive)
    (hscarcity : ∀ m, scores.availability.bind (·.multiplier) = some m → 0.95 ≤ m) :
    let anchor := e.pricing.retailPrice <|>
      (e.pricing.paidPrice <|> e.pricing.askingPrice).filter Cents.isPositive
    let answer := appraise .standard e scores base
    (anchor = none → answer = .value (.rejected .noAnchor)) ∧
    ∀ price, anchor = some price → 2 ≤ price.value.toInt →
      ((∃ reason, answer = .value (.rejected reason)) ↔ Valuation.IsUnverified e.pricing) ∧
      (∀ reason, answer = .value (.rejected reason) → Valuation.IsUnverifiedReason e.pricing reason) ∧
      (¬ Valuation.IsUnverified e.pricing →
        ((∃ buy, answer = .value (.priced buy)) ↔ e.availability.YearsFit e.asOf.year) ∧
        (answer = .aborted ↔ ¬ e.availability.YearsFit e.asOf.year)) := by
  intro anchor answer
  have hanchor? := Valuation.anchor?_eq e.pricing
  constructor
  · intro hnone
    have hmissing : Valuation.anchor? e.pricing = none := by
      rw [hanchor?]
      exact Option.map_eq_none_iff.mpr hnone
    simp only [answer, appraise, hmissing]
    rfl
  · intro price hprice htwo
    obtain ⟨source, hfound⟩ : ∃ source, Valuation.anchor? e.pricing = some ⟨price, source⟩ := by
      rw [hanchor?]
      exact ⟨_, Option.map_eq_some_iff.mpr ⟨price, hprice, rfl⟩⟩
    obtain ⟨hreason, hunverified⟩ := Valuation.objection?_spec hfound hretail
    rw [← hunverified]
    cases hobjection : Valuation.objection? .standard e.pricing ⟨price, source⟩ with
    | some reason =>
      have hanswer : answer = .value (.rejected reason) := by
        simp only [answer, appraise, hfound, hobjection]
        rfl
      simpa [hanswer] using hreason reason hobjection
    | none =>
      have hanswer : answer = Valuation.priceOn .standard e scores base ⟨price, source⟩ := by
        simp only [answer, appraise, hfound, hobjection]
      have hfit : Valuation.standing (.standard : PricePolicy ℚ) e = .aborted ↔
          ¬ e.availability.YearsFit e.asOf.year :=
        retirementStanding_eq_aborted_iff
      cases hs : Valuation.standing (.standard : PricePolicy ℚ) e with
      | aborted =>
        have hnot : ¬ e.availability.YearsFit e.asOf.year := hfit.mp hs
        rw [hanswer, Valuation.priceOn, hs]
        simp [hnot]
      | value s =>
        have hyears : e.availability.YearsFit e.asOf.year := by
          by_contra hnot
          have haborted := hfit.mpr hnot
          rw [hs] at haborted
          cases haborted
        obtain ⟨buy, hbuy⟩ := Valuation.exists_priceOn_eq_priced hexp hscarcity hs ⟨price, source⟩ htwo base
        rw [hanswer, hbuy]
        simp [hyears]

omit [Exponential] [NumberText ℚ]

/-- A castle that retires in the year of the appraisal, and of which no copy was sold. -/
def unsoldCastle (asking : Cents) : Evidence ℚ where
  productId := "p-1"
  name := "Castle"
  catalogNumber := some "10305-1"
  asOf := ⟨2026, 9, 1, by decide⟩
  pricing := {
    retailPrice := some ⟨9999⟩
    market := some {
      currentNew := { averagePrice := some asking }
      currentUsed := {}
      sixMonthNew := {}
      sixMonthUsed := {} }
    transactionCount := some 0 }
  demand := {}
  availability := { yearRetired := some 2026, retirementYear := some 2026 }
  quality := {}

theorem unsoldCastle_appraised :
    letI := gentleExponential
    letI := fractionText
    (∀ t : ℚ, 0 ≤ t → 0 < Exponential.exp (-t)) ∧
    (∀ asking retail, (unsoldCastle asking).pricing.retailPrice = some retail → retail.isPositive) ∧
    (∀ m : ℚ, (Scores.empty : Scores ℚ).availability.bind (·.multiplier) = some m → 0.95 ≤ m) ∧
    (∃ reason, appraise .standard (unsoldCastle ⟨20000⟩) .empty 0.25 = .value (.rejected reason)) ∧
    ∃ buy, appraise .standard (unsoldCastle ⟨12000⟩) .empty 0.25 = .value (.priced buy) := by
  let _ := gentleExponential
  let _ := fractionText
  have hexp : ∀ t : ℚ, 0 ≤ t → 0 < Exponential.exp (-t) := by
    intro t ht
    change 0 < if -t ≤ 0 then 1 / (1 - -t) else 1 + -t
    rw [if_pos (by linarith), sub_neg_eq_add]
    positivity
  have hretail : ∀ asking retail, (unsoldCastle asking).pricing.retailPrice = some retail →
      retail.isPositive := by
    intro asking retail h
    obtain rfl := Option.some.inj h
    decide
  have hscarcity : ∀ m : ℚ, (Scores.empty : Scores ℚ).availability.bind (·.multiplier) = some m →
      0.95 ≤ m := by
    intro m h
    cases h
  have hdear := (appraise_rejects_iff hexp (unsoldCastle ⟨20000⟩) .empty 0.25 (hretail _) hscarcity).2
    ⟨9999⟩ rfl (by decide)
  have hfair := (appraise_rejects_iff hexp (unsoldCastle ⟨12000⟩) .empty 0.25 (hretail _) hscarcity).2
    ⟨9999⟩ rfl (by decide)
  have hyears : (unsoldCastle ⟨12000⟩).availability.YearsFit (unsoldCastle ⟨12000⟩).asOf.year := by
    rintro year ⟨⟩
    decide
  refine ⟨hexp, hretail, hscarcity, hdear.1.mpr ⟨rfl, .inr ⟨⟨9999⟩, ⟨20000⟩, rfl, rfl, ?_⟩⟩,
    (hfair.2.2 ?_).1.mpr hyears⟩
  · change 1.5 * ((9999 : ℤ) : ℚ) < ((20000 : ℤ) : ℚ)
    norm_num
  · rintro ⟨-, hmissing | ⟨retail, asking, hretail, hasking, hdear⟩⟩
    · cases hmissing
    · obtain rfl := Option.some.inj hretail
      obtain rfl := Option.some.inj hasking
      change 1.5 * ((9999 : ℤ) : ℚ) < ((12000 : ℤ) : ℚ) at hdear
      norm_num at hdear

/-- A castle with a retail price of 99.99, against which nothing speaks, by its year of retirement. -/
def settledCastle (year : Int32) : Evidence ℚ :=
  { unsoldCastle ⟨9999⟩ with
    pricing := { retailPrice := some ⟨9999⟩ }
    availability := { yearRetired := some year, retirementYear := some year } }

/-- When it retired too long ago, there is neither a price nor a reason why there is none. -/
theorem unfitting_year_unpriced :
    letI := gentleExponential
    letI := fractionText
    let castle := settledCastle Int32.minValue
    castle.pricing.retailPrice = some ⟨9999⟩ ∧ ¬ Valuation.IsUnverified castle.pricing ∧
    ∀ scores base, appraise .standard castle scores base = .aborted := by
  let _ := gentleExponential
  let _ := fractionText
  intro castle
  refine ⟨rfl, fun hunverified => ?_, fun scores base => rfl⟩
  cases hunverified.1

end Appraisal
