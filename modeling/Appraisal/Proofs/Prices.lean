import Appraisal.Proofs.ExactNumbers
import Appraisal.Proofs.Checked
import Appraisal.Valuation.Basic

/-!
# Prices and their derivations

A price can be worked out again from the figures that are listed with it. It is a cent at least, and the margin
never lifts it above the intrinsic value, whatever the policy makes of the factors.
-/

namespace Appraisal
namespace Valuation

lemma price?_eq_some_iff {α : Type} {answer : Valuation α} {buy : BuyPrice α} :
    answer.price? = some buy ↔ answer = .priced buy := by
  cases answer <;> simp [price?]

lemma price?_eq_none_iff {α : Type} {answer : Valuation α} :
    answer.price? = none ↔ ∃ reason, answer = .rejected reason := by
  cases answer <;> simp [price?]

lemma marginOfSafety_eq_value_iff {α : Type} [Arithmetic α] {policy : PricePolicy α} {base margin : α}
    {scores : Scores α} :
    marginOfSafety policy base scores = .value margin ↔ policy.leastMargin ≤ policy.greatestMargin ∧
      Arithmetic.clamp policy.leastMargin policy.greatestMargin
        ((MarginStep.steps scores).foldl MarginStep.apply base) = margin := by
  unfold marginOfSafety
  split <;> simp_all

/-- The amount of a price. -/
def amount? {α : Type} (answer : Valuation α) : Option Cents := answer.price?.map (·.price)

lemma exists_priced_of_amount {α : Type} {answer : Checked (Valuation α)} {amount : Cents}
    (h : answer.map amount? = .value (some amount)) : ∃ buy, answer = .value (.priced buy) ∧ buy.price = amount := by
  obtain ⟨found, rfl, hamount⟩ := Checked.map_eq_value_iff.mp h
  obtain ⟨buy, hbuy, rfl⟩ := Option.map_eq_some_iff.mp hamount
  rw [price?_eq_some_iff] at hbuy
  exact ⟨buy, by rw [hbuy], rfl⟩

/-- On an anchor the value or the price may round to nothing. Otherwise there is a price, with the figures it comes
from. -/
lemma priceOn_cases {α : Type} [Arithmetic α] [NumberText α] {policy : PricePolicy α} {e : Evidence α}
    {scores : Scores α} {base : α} {anchor : Anchor} {answer : Valuation α}
    (h : priceOn policy e scores base anchor = .value answer) :
    ∃ s, standing policy e = .value s ∧
      ((positiveCents? (intrinsic anchor (factors policy s e scores)) = none ∧
          answer = .rejected (.degenerateValue anchor.price)) ∨
        ∃ value margin, positiveCents? (intrinsic anchor (factors policy s e scores)) = some value ∧
          marginOfSafety policy base scores = .value margin ∧
          ((positiveCents? (intrinsic anchor (factors policy s e scores) * (1.0 - margin)) = none ∧
              answer = .rejected (.degeneratePrice value)) ∨
            ∃ buy d, answer = .priced buy ∧
              positiveCents? (intrinsic anchor (factors policy s e scores) * (1.0 - margin)) = some buy.price ∧
              buy.derivation = some d ∧ d.anchor = anchor ∧ d.factors = factors policy s e scores ∧
              d.intrinsicValue = value ∧ d.margin = margin ∧
              buy.confidence = confidence scores anchor.source e.pricing.transactionCount.isSome)) := by
  obtain ⟨s, hs, h⟩ := Checked.bind_eq_value_iff.mp h
  refine ⟨s, hs, ?_⟩
  dsimp only at h
  split at h
  · rename_i hvalue
    exact .inl ⟨hvalue, (Checked.value.inj h).symm⟩
  · rename_i value hvalue
    obtain ⟨margin, hmargin, h⟩ := Checked.bind_eq_value_iff.mp h
    refine .inr ⟨value, margin, hvalue, hmargin, ?_⟩
    split at h
    · rename_i hprice
      exact .inl ⟨hprice, (Checked.value.inj h).symm⟩
    · rename_i price hprice
      exact .inr ⟨_, _, (Checked.value.inj h).symm, hprice, rfl, rfl, rfl, rfl, rfl, rfl⟩

lemma exists_priceOn {α : Type} [Arithmetic α] [NumberText α] {policy : PricePolicy α} {e : Evidence α}
    {scores : Scores α} {base margin : α} {anchor : Anchor} {s : RetirementStanding} {value price : Cents}
    (hs : standing policy e = .value s)
    (hvalue : positiveCents? (intrinsic anchor (factors policy s e scores)) = some value)
    (hmargin : marginOfSafety policy base scores = .value margin)
    (hprice : positiveCents? (intrinsic anchor (factors policy s e scores) * (1.0 - margin)) = some price) :
    ∃ buy, priceOn policy e scores base anchor = .value (.priced buy) ∧ buy.price = price := by
  rw [priceOn, hs, Checked.value_bind]
  simp only [hvalue]
  rw [hmargin, Checked.value_bind]
  simp only [hprice]
  exact ⟨_, rfl, rfl⟩

/-- What a priced answer consists of. Nothing spoke against its anchor, the set has a standing, and both amounts are
positive. -/
lemma exists_derivation {α : Type} [Arithmetic α] [NumberText α] {policy : PricePolicy α} {e : Evidence α}
    {scores : Scores α} {base : α} {buy : BuyPrice α}
    (h : appraise policy e scores base = .value (.priced buy)) :
    ∃ d s, buy.derivation = some d ∧
      anchor? e.pricing = some d.anchor ∧
      objection? policy e.pricing d.anchor = none ∧
      standing policy e = .value s ∧
      d.factors = factors policy s e scores ∧
      marginOfSafety policy base scores = .value d.margin ∧
      positiveCents? (intrinsic d.anchor d.factors) = some d.intrinsicValue ∧
      positiveCents? (intrinsic d.anchor d.factors * (1.0 - d.margin)) = some buy.price ∧
      buy.confidence = confidence scores d.anchor.source e.pricing.transactionCount.isSome := by
  unfold appraise at h
  cases hanchor : anchor? e.pricing with
  | none =>
    rw [hanchor] at h
    cases h
  | some anchor =>
    cases hobjection : objection? policy e.pricing anchor with
    | some reason =>
      simp only [hanchor, hobjection] at h
      cases h
    | none =>
      simp only [hanchor, hobjection] at h
      obtain ⟨s, hs, hcases⟩ := priceOn_cases h
      rcases hcases with ⟨-, hnone⟩ | ⟨value, margin, hvalue, hmargin, hcases⟩
      · cases hnone
      · rcases hcases with ⟨-, hnone⟩ | ⟨buy, d, hbuy, hprice, hd, rfl, hfactors, rfl, rfl, hconfidence⟩
        · cases hnone
        · cases hbuy
          rw [← hfactors] at hvalue hprice
          exact ⟨d, s, hd, rfl, hobjection, hs, hfactors, hmargin, hvalue, hprice, hconfidence⟩

variable [Exponential]

lemma positiveCents?_eq_some_iff {x : ℚ} {c : Cents} :
    positiveCents? x = some c ↔
      c.value.toInt = Exact.saturate (Exact.nearest x) ∧ 1 ≤ c.value.toInt := by
  unfold positiveCents?
  rw [Exact.round?_eq, Option.filter_eq_some_iff, Option.some.injEq, Cents.isPositive_iff]
  refine and_congr ?_ Iff.rfl
  rw [← Exact.toInt_ofIntClamp, Int64.toInt_inj]
  constructor
  · rintro rfl
    rfl
  · intro hvalue
    rw [← hvalue]

/-- A positive amount comes from at least half a cent. -/
lemma half_le_of_positiveCents? {x : ℚ} {c : Cents} (h : positiveCents? x = some c) : 1 / 2 ≤ x := by
  obtain ⟨hrounded, hpositive⟩ := positiveCents?_eq_some_iff.mp h
  rw [← Exact.nearest_pos_iff]
  rw [hrounded, Exact.saturate] at hpositive
  omega

/-- Rounding keeps the order of amounts, also where they saturate. -/
lemma positiveCents?_mono {x y : ℚ} {c d : Cents} (hle : x ≤ y) (hx : positiveCents? x = some c)
    (hy : positiveCents? y = some d) : c.value.toInt ≤ d.value.toInt := by
  rw [(positiveCents?_eq_some_iff.mp hx).1, (positiveCents?_eq_some_iff.mp hy).1]
  exact Exact.saturate_mono (Exact.nearest_mono hle)

lemma confidence_mem (scores : Scores ℚ) (source : AnchorSource) (hasTransactions : Bool) :
    0 ≤ confidence scores source hasTransactions ∧ confidence scores source hasTransactions ≤ 1 := by
  have hclamp := Exact.clamp_mem (show (0.0 : ℚ) ≤ 1.0 by norm_num)
  unfold confidence
  exact ⟨le_trans (by norm_num) (hclamp _).1, (hclamp _).2.trans (by norm_num)⟩

end Valuation

variable [Exponential] [NumberText ℚ]

/-- A price follows from the figures that are listed with it. The intrinsic value and the price are rounded from
the same product of the anchor and the seven factors, the price after the margin is taken off. As long as the
policy keeps the margin between nothing and all, the price is a cent at least and the intrinsic value at most. -/
theorem price_follows_from_derivation (policy : PricePolicy ℚ) (hleast : 0 ≤ policy.leastMargin)
    (horder : policy.leastMargin ≤ policy.greatestMargin) (e : Evidence ℚ) (scores : Scores ℚ) (base : ℚ)
    {buy : BuyPrice ℚ} (h : appraise policy e scores base = .value (.priced buy)) :
    ∃ d, buy.derivation = some d ∧
      let value : ℚ := d.anchor.price.value.toInt * d.factors.retirement * d.factors.demand *
        d.factors.scarcity * d.factors.liquidity * d.factors.volatility * d.factors.theme *
        d.factors.partsValue
      d.intrinsicValue.value.toInt = Exact.saturate (Exact.nearest value) ∧
      buy.price.value.toInt = Exact.saturate (Exact.nearest (value * (1 - d.margin))) ∧
      1 ≤ buy.price.value.toInt ∧ buy.price.value.toInt ≤ d.intrinsicValue.value.toInt ∧
      (policy.leastMargin ≤ d.margin ∧ d.margin ≤ policy.greatestMargin) ∧
      (0 ≤ buy.confidence ∧ buy.confidence ≤ 1) := by
  obtain ⟨d, -, hd, -, -, -, -, hmargin, hvalue, hprice, hconfidence⟩ := Valuation.exists_derivation h
  have hmem : policy.leastMargin ≤ d.margin ∧ d.margin ≤ policy.greatestMargin := by
    rw [← (Valuation.marginOfSafety_eq_value_iff.mp hmargin).2]
    exact Exact.clamp_mem horder _
  have hone : (1.0 : ℚ) - d.margin = 1 - d.margin := by norm_num
  rw [hone] at hprice
  have hpositive := Valuation.half_le_of_positiveCents? hvalue
  have hdiscounted : Valuation.intrinsic d.anchor d.factors * (1 - d.margin) ≤
      Valuation.intrinsic d.anchor d.factors :=
    mul_le_of_le_one_right (by linarith) (by linarith)
  refine ⟨d, hd, (Valuation.positiveCents?_eq_some_iff.mp hvalue).1,
    (Valuation.positiveCents?_eq_some_iff.mp hprice).1, (Valuation.positiveCents?_eq_some_iff.mp hprice).2,
    Valuation.positiveCents?_mono hdiscounted hprice hvalue, hmem, ?_⟩
  rw [hconfidence]
  exact Valuation.confidence_mem _ _ _

omit [Exponential] [NumberText ℚ]

/-- A castle that retires in the year of the appraisal. -/
def freshlyRetired (retail : Cents) : Evidence ℚ where
  productId := "p-1"
  name := "Castle"
  catalogNumber := some "10305-1"
  asOf := ⟨2026, 11, 1, by decide⟩
  pricing := { retailPrice := some retail }
  demand := {}
  availability := { yearRetired := some 2026 }
  quality := {}

/-- After almost half is taken off one cent times 1.3, there is still a cent to pay. The largest amount gives the
largest price. -/
theorem freshlyRetired_priced :
    letI := gentleExponential
    letI := fractionText
    let policy : PricePolicy ℚ := { PricePolicy.standard with leastMargin := 0, greatestMargin := 1 }
    let largest : Cents := ⟨9223372036854775807⟩
    0 ≤ policy.leastMargin ∧ policy.leastMargin ≤ policy.greatestMargin ∧
    (∃ buy d, appraise policy (freshlyRetired ⟨1⟩) .empty 0.45 = .value (.priced buy) ∧ buy.derivation = some d ∧
      buy.price = ⟨1⟩ ∧ 1 ≤ d.intrinsicValue.value.toInt) ∧
    ∃ buy d, appraise policy (freshlyRetired largest) .empty (-1) = .value (.priced buy) ∧ buy.derivation = some d ∧
      buy.price = largest ∧ largest.value.toInt ≤ d.intrinsicValue.value.toInt := by
  let _ := gentleExponential
  let _ := fractionText
  intro policy largest
  have hleast : 0 ≤ policy.leastMargin := by decide
  have horder : policy.leastMargin ≤ policy.greatestMargin := by decide
  have hone : (appraise policy (freshlyRetired ⟨1⟩) .empty 0.45).map Valuation.amount? = .value (some ⟨1⟩) := by
    decide +kernel
  have hlargest :
      (appraise policy (freshlyRetired largest) .empty (-1)).map Valuation.amount? = .value (some largest) := by
    decide +kernel
  obtain ⟨cheap, hcheap, hcent⟩ := Valuation.exists_priced_of_amount hone
  obtain ⟨dear, hdear, hmost⟩ := Valuation.exists_priced_of_amount hlargest
  obtain ⟨d, hd, -, -, hpositive, hle, -, -⟩ :=
    price_follows_from_derivation policy hleast horder _ _ _ hcheap
  obtain ⟨d', hd', -, -, -, hle', -, -⟩ := price_follows_from_derivation policy hleast horder _ _ _ hdear
  exact ⟨hleast, horder, ⟨cheap, d, hcheap, hd, hcent, hpositive.trans hle⟩,
    dear, d', hdear, hd', hmost, hmost ▸ hle'⟩

end Appraisal
