import Appraisal.Proofs.Prices
import Appraisal.Proofs.Rejections

/-!
# How prices move

A price does not fall when demand scores higher, when more copies were sold, when prices are calmer or when the set
retired later, and none of these takes away a price that there was. Each lifts one factor and leaves the others
alone; a higher demand may also take a step off the margin. Years that fit still fit when the set retired later.
-/

namespace Appraisal

/-- A change of one thing that speaks for a price as high as before or higher. -/
inductive Favors : Evidence ℚ → Scores ℚ → Evidence ℚ → Scores ℚ → Prop
  | demand {e : Evidence ℚ} {scores : Scores ℚ} {score : Score ℚ} {value : ℚ}
      (known : scores.demand = some score) (raised : score.value ≤ value) :
      Favors e scores e { scores with demand := some { score with value } }
  | sales {e : Evidence ℚ} {scores : Scores ℚ} {n n' : UInt32}
      (known : e.pricing.transactionCount = some n) (more : n ≤ n') :
      Favors e scores { e with pricing := { e.pricing with transactionCount := some n' } } scores
  | calm {e : Evidence ℚ} {scores : Scores ℚ} {volatility volatility' : ℚ}
      (known : e.pricing.priceVolatility = some volatility) (calmer : volatility' ≤ volatility) :
      Favors e scores { e with pricing := { e.pricing with priceVolatility := some volatility' } } scores
  | recent {e : Evidence ℚ} {scores : Scores ℚ} {year year' : Int32}
      (known : e.availability.yearRetired = some year) (later : year ≤ year') (past : year' ≤ e.asOf.year) :
      Favors e scores { e with availability := { e.availability with yearRetired := some year' } } scores

/-- Whether no factor is smaller than before; those that no favor changes are the same. -/
structure Factors.NoLower (f f' : Factors ℚ) : Prop where
  retirement : f.retirement ≤ f'.retirement
  demand : f.demand ≤ f'.demand
  scarcity : f'.scarcity = f.scarcity
  liquidity : f.liquidity ≤ f'.liquidity
  volatility : f.volatility ≤ f'.volatility
  theme : f'.theme = f.theme
  partsValue : f'.partsValue = f.partsValue

/-- The factors that are computed are not negative. That of scarcity comes with the scores, and may be. -/
structure Factors.NonnegButScarcity (f : Factors ℚ) : Prop where
  retirement : 0 ≤ f.retirement
  demand : 0 ≤ f.demand
  liquidity : 0 ≤ f.liquidity
  volatility : 0 ≤ f.volatility
  theme : 0 ≤ f.theme
  partsValue : 0 ≤ f.partsValue

lemma Factors.NoLower.refl (f : Factors ℚ) : f.NoLower f := ⟨le_rfl, le_rfl, rfl, le_rfl, le_rfl, rfl, rfl⟩

variable [Exponential]

namespace Factor

lemma demand_mono {score score' : ℚ} (h : score ≤ score') :
    (demand .standard (some score) : ℚ) ≤ demand .standard (some score') := by
  have hclamp := Exact.clamp_mono (show (0.0 : ℚ) ≤ 100.0 by norm_num) h
  simp only [demand, PricePolicy.standard]
  gcongr

lemma liquidity_mono {n n' : UInt32} (h : n ≤ n') : (liquidity (some n) : ℚ) ≤ liquidity (some n') := by
  rw [UInt32.le_iff_toNat_le] at h
  unfold liquidity
  simp only [UInt32.le_iff_toNat_le, ← UInt32.toNat_inj, UInt32.reduceToNat]
  split_ifs <;> first
    -- A level that was reached before is still reached.
    | omega
    | norm_num

lemma volatility_anti {v v' : ℚ} (h : v' ≤ v) : volatility (some v) ≤ volatility (some v') := by
  unfold volatility
  dsimp only
  split_ifs <;> first
    | norm_num
      done
    | linarith

lemma retirement_anti (hmono : Monotone Exponential.exp) {years years' : Int32} (h : years' ≤ years) :
    (retirement .standard ⟨.retired, some years⟩ : ℚ) ≤ retirement .standard ⟨.retired, some years'⟩ := by
  have hyears : (max years' 0).toInt ≤ (max years 0).toInt := by
    rw [toInt_max, toInt_max]
    exact max_le_max_right _ (Int32.le_iff_toInt_le.mp h)
  have hage : ((max years' 0).toInt : ℚ) ≤ (max years 0).toInt := by exact_mod_cast hyears
  have hdecay : Exponential.exp (-((max years 0).toInt : ℚ) / 4.0) ≤
      Exponential.exp (-((max years' 0).toInt : ℚ) / 4.0) := by
    apply hmono
    gcongr
  change 1.10 + (1.30 - 1.10) * Exponential.exp (-((max years 0).toInt : ℚ) / 4.0) ≤
    1.10 + (1.30 - 1.10) * Exponential.exp (-((max years' 0).toInt : ℚ) / 4.0)
  gcongr

end Factor

section Margins
variable {scores : Scores ℚ} {score : Score ℚ} {value : ℚ}

lemma MarginStep.foldl_ofDemand?_anti {value value' : ℚ} (h : value ≤ value') (margin : ℚ) :
    (ofDemand? value').toList.foldl apply margin ≤ (ofDemand? value).toList.foldl apply margin := by
  unfold ofDemand?
  split_ifs <;> simp [apply] <;> linarith

lemma MarginStep.steps_eq (scores : Scores ℚ) :
    steps scores = ([ofConfidence? scores.meanConfidence?,
      scores.availability.bind fun s => ofAvailability? s.value].filterMap id) ++
        (scores.demand.bind fun s => ofDemand? s.value).toList := by
  change ([_, _] ++ [scores.demand.bind fun s => ofDemand? s.value]).filterMap id = _
  rw [List.filterMap_append]
  cases scores.demand.bind fun s => ofDemand? s.value <;> rfl

lemma Scores.meanConfidence?_raised (known : scores.demand = some score) :
    Scores.meanConfidence? ({ scores with demand := some { score with value } } : Scores ℚ) =
      scores.meanConfidence? := by
  obtain ⟨demand, availability, quality⟩ := scores
  cases known
  cases availability <;> cases quality <;> rfl

lemma marginOfSafety_anti (known : scores.demand = some score) (raised : score.value ≤ value) {base margin : ℚ}
    (h : marginOfSafety .standard base scores = .value margin) :
    ∃ margin', marginOfSafety .standard base { scores with demand := some { score with value } } = .value margin' ∧
      margin' ≤ margin := by
  obtain ⟨horder, rfl⟩ := Valuation.marginOfSafety_eq_value_iff.mp h
  refine ⟨_, Valuation.marginOfSafety_eq_value_iff.mpr ⟨horder, rfl⟩, Exact.clamp_mono horder ?_⟩
  rw [MarginStep.steps_eq, MarginStep.steps_eq, List.foldl_append, List.foldl_append,
    Scores.meanConfidence?_raised known, known]
  exact MarginStep.foldl_ofDemand?_anti raised _

end Margins

namespace Valuation
variable {policy : PricePolicy ℚ} {e e' : Evidence ℚ} {scores scores' : Scores ℚ} {base : ℚ} {anchor : Anchor}

omit [Exponential] in
lemma anchor?_pos {p : PricingEvidence ℚ} (h : anchor? p = some anchor)
    (hretail : ∀ retail, p.retailPrice = some retail → retail.isPositive) : 0 < anchor.price.value.toInt := by
  rw [anchor?_eq] at h
  obtain ⟨price, hprice, rfl⟩ := Option.map_eq_some_iff.mp h
  rw [← Cents.isPositive_iff]
  cases hknown : p.retailPrice with
  | some retail =>
    rw [hknown] at hprice
    cases hprice
    exact hretail _ hknown
  | none =>
    rw [hknown] at hprice
    exact (Option.filter_eq_some_iff.mp hprice).2

lemma factors_nonnegButScarcity (hexp : ∀ t : ℚ, 0 ≤ t → 0 < Exponential.exp (-t)) (s : RetirementStanding)
    (e : Evidence ℚ) (scores : Scores ℚ) : (factors .standard s e scores).NonnegButScarcity where
  retirement := zero_le_one.trans (Factor.one_le_retirement hexp s)
  demand := (show (0 : ℚ) ≤ 0.85 by norm_num).trans (Factor.le_demand (scores.demand.map Score.value))
  liquidity := (show (0 : ℚ) ≤ 0.80 by norm_num).trans (Factor.le_liquidity e.pricing.transactionCount)
  volatility := (show (0 : ℚ) ≤ 0.85 by norm_num).trans (Factor.le_volatility e.pricing.priceVolatility)
  theme := zero_le_one.trans (Factor.one_le_theme e.quality.theme)
  partsValue := (show (0 : ℚ) ≤ 0.95 by norm_num).trans
    (Factor.le_partsValue .standard e.pricing.retailPrice e.quality.partsCount)

section Intrinsic
variable {f f' : Factors ℚ}

lemma intrinsic_eq (anchor : Anchor) (f : Factors ℚ) :
    intrinsic anchor f = (anchor.price.value.toInt : ℚ) * f.retirement * f.demand * f.scarcity * f.liquidity *
      f.volatility * f.theme * f.partsValue := rfl

lemma scarcity_nonneg (hanchor : 0 < anchor.price.value.toInt) (hf : f.NonnegButScarcity)
    (hpositive : 0 < intrinsic anchor f) : 0 ≤ f.scarcity := by
  obtain ⟨hretirement, hdemand, hliquidity, hvolatility, htheme, hparts⟩ := hf
  have hprice : (0 : ℚ) ≤ anchor.price.value.toInt := by exact_mod_cast hanchor.le
  by_contra hnegative
  have hrest : 0 ≤ (anchor.price.value.toInt : ℚ) * f.retirement * f.demand * f.liquidity * f.volatility *
      f.theme * f.partsValue := by positivity
  have hsplit : intrinsic anchor f = (anchor.price.value.toInt : ℚ) * f.retirement * f.demand * f.liquidity *
      f.volatility * f.theme * f.partsValue * f.scarcity := by
    rw [intrinsic_eq]
    ring
  rw [hsplit] at hpositive
  exact absurd hpositive (mul_nonpos_of_nonneg_of_nonpos hrest (not_le.mp hnegative).le).not_gt

lemma intrinsic_mono (hanchor : 0 < anchor.price.value.toInt) (hf : f.NonnegButScarcity)
    (hpositive : 0 < intrinsic anchor f) (h : f.NoLower f') : intrinsic anchor f ≤ intrinsic anchor f' := by
  have hscarcity := scarcity_nonneg hanchor hf hpositive
  obtain ⟨hretirement, hdemand, hliquidity, hvolatility, htheme, hparts⟩ := hf
  have hprice : (0 : ℚ) ≤ anchor.price.value.toInt := by exact_mod_cast hanchor.le
  have hretirement' := h.retirement
  have hdemand' := h.demand
  have hliquidity' := h.liquidity
  have hvolatility' := h.volatility
  -- The factors that are kept must be known to stay above nothing after the lift as well.
  have := hretirement.trans hretirement'
  have := hdemand.trans hdemand'
  have := hliquidity.trans hliquidity'
  rw [intrinsic_eq, intrinsic_eq, h.scarcity, h.theme, h.partsValue]
  gcongr

end Intrinsic

/-- What a favor does to a price: the anchor stays, nothing new speaks against it, a set with a standing still has one
and no factor shrinks, and the margin does not grow. -/
structure Lifts (e : Evidence ℚ) (scores : Scores ℚ) (e' : Evidence ℚ) (scores' : Scores ℚ) (base : ℚ) : Prop where
  anchor : anchor? e'.pricing = anchor? e.pricing
  objection : ∀ anchor, objection? .standard e.pricing anchor = none → objection? .standard e'.pricing anchor = none
  factors : ∀ s, standing .standard e = .value s → ∃ s', standing .standard e' = .value s' ∧
    (factors .standard s e scores).NoLower (factors .standard s' e' scores')
  margin : ∀ margin, marginOfSafety .standard base scores = .value margin →
    ∃ margin', marginOfSafety .standard base scores' = .value margin' ∧ margin' ≤ margin

lemma Lifts.price_mono [NumberText ℚ] (hexp : ∀ t : ℚ, 0 ≤ t → 0 < Exponential.exp (-t))
    (h : Lifts e scores e' scores' base)
    (hretail : ∀ retail, e.pricing.retailPrice = some retail → retail.isPositive) {buy : BuyPrice ℚ}
    (hbuy : appraise .standard e scores base = .value (.priced buy)) :
    ∃ buy', appraise .standard e' scores' base = .value (.priced buy') ∧ buy.price ≤ buy'.price := by
  obtain ⟨d, s, -, hanchor, hobjection, hs, hfactors, hmargin, hvalue, hprice, -⟩ := exists_derivation hbuy
  obtain ⟨s', hs', hnoLower⟩ := h.factors s hs
  obtain ⟨margin', hmargin', hless⟩ := h.margin d.margin hmargin
  rw [hfactors] at hvalue hprice
  have hhalf := half_le_of_positiveCents? hvalue
  have hlifted : intrinsic d.anchor (Valuation.factors .standard s e scores) ≤
      intrinsic d.anchor (Valuation.factors .standard s' e' scores') :=
    intrinsic_mono (anchor?_pos hanchor hretail) (factors_nonnegButScarcity hexp s e scores)
      (lt_of_lt_of_le (by norm_num) hhalf) hnoLower
  have hkept : (0 : ℚ) ≤ 1.0 - d.margin := by
    obtain ⟨most, hmost, hle⟩ := exists_marginOfSafety base scores
    obtain rfl : d.margin = most := Checked.value.inj (hmargin.symm.trans hmost)
    norm_num at hle ⊢
    linarith
  have hkept' : (1.0 : ℚ) - d.margin ≤ 1.0 - margin' := sub_le_sub_left hless _
  have hmore : intrinsic d.anchor (Valuation.factors .standard s e scores) * (1.0 - d.margin) ≤
      intrinsic d.anchor (Valuation.factors .standard s' e' scores') * (1.0 - margin') :=
    mul_le_mul hlifted hkept' hkept (le_trans (by linarith) hlifted)
  obtain ⟨value', hvalue'⟩ := exists_positiveCents? (hhalf.trans hlifted)
  obtain ⟨price', hprice'⟩ := exists_positiveCents? ((half_le_of_positiveCents? hprice).trans hmore)
  obtain ⟨buy', hbuy', rfl⟩ := exists_priceOn hs' hvalue' hmargin' hprice'
  refine ⟨buy', ?_, Int64.le_iff_toInt_le.mpr (positiveCents?_mono hmore hprice hprice')⟩
  unfold appraise
  simp only [h.anchor, hanchor, h.objection _ hobjection, hbuy']

lemma objection?_more {p : PricingEvidence ℚ} {n n' : UInt32} (known : p.transactionCount = some n) (more : n ≤ n')
    (h : objection? policy p anchor = none) :
    objection? policy { p with transactionCount := some n' } anchor = none := by
  unfold objection? at h ⊢
  -- Sales are only an objection where there are none. If there are none still, nothing has changed.
  by_cases hnone : n' = 0
  · have hnone' : n = 0 := UInt32.le_antisymm (hnone ▸ more) (UInt32.zero_le)
    rw [if_pos (by rw [known, hnone'])] at h
    rw [if_pos (by rw [hnone])]
    exact h
  · exact if_neg (by simpa using hnone)

lemma lifts_of_favors (hmono : Monotone Exponential.exp) (h : Favors e scores e' scores') (base : ℚ) :
    Lifts e scores e' scores' base := by
  cases h with
  | demand known raised =>
    refine ⟨rfl, fun _ hnone => hnone, fun s hs => ⟨s, hs, { Factors.NoLower.refl _ with demand := ?_ }⟩,
      fun _ => marginOfSafety_anti known raised⟩
    change Factor.demand .standard (scores.demand.map (·.value)) ≤ _
    rw [known]
    exact Factor.demand_mono raised
  | sales known more =>
    refine ⟨rfl, fun _ => objection?_more known more,
      fun s hs => ⟨s, hs, { Factors.NoLower.refl _ with liquidity := ?_ }⟩, fun margin hm => ⟨margin, hm, le_rfl⟩⟩
    change Factor.liquidity e.pricing.transactionCount ≤ _
    rw [known]
    exact Factor.liquidity_mono more
  | calm known calmer =>
    refine ⟨rfl, fun _ hnone => hnone,
      fun s hs => ⟨s, hs, { Factors.NoLower.refl _ with volatility := ?_ }⟩, fun margin hm => ⟨margin, hm, le_rfl⟩⟩
    change Factor.volatility e.pricing.priceVolatility ≤ _
    rw [known]
    exact Factor.volatility_anti calmer
  | @recent year year' known later past =>
    refine ⟨rfl, fun _ hnone => hnone, fun s hs => ?_, fun margin hm => ⟨margin, hm, le_rfl⟩⟩
    unfold standing at hs
    rw [retirementStanding_of_settled known (Int32.le_trans later past)] at hs
    obtain ⟨years, hyears, rfl⟩ := Checked.map_eq_value_iff.mp hs
    have hexact := Checked.sub_eq_value_iff.mp hyears
    have hlater := Int32.le_iff_toInt_le.mp later
    have hpast := Int32.le_iff_toInt_le.mp past
    -- The years that are left lie between none and those that did fit.
    have hfits : Checked.FitsInt32 (e.asOf.year.toInt - year'.toInt) := by
      have hlt := years.toInt_lt
      constructor <;> omega
    obtain ⟨years', hyears', hexact'⟩ := Checked.exists_sub hfits
    refine ⟨⟨.retired, some years'⟩, ?_, { Factors.NoLower.refl _ with retirement := ?_ }⟩
    · exact (retirementStanding_of_settled rfl past).trans (by rw [hyears']; rfl)
    · apply Factor.retirement_anti hmono
      rw [Int32.le_iff_toInt_le]
      omega

end Valuation

variable [NumberText ℚ]

/-- A favor keeps a price and does not lower it, as long as the exponential grows and is positive. -/
theorem favored_price_no_lower (hmono : Monotone Exponential.exp) (hpositive : ∀ t, 0 < Exponential.exp t)
    {e e' : Evidence ℚ} {scores scores' : Scores ℚ} (h : Favors e scores e' scores')
    (hretail : ∀ retail, e.pricing.retailPrice = some retail → retail.isPositive) (base : ℚ) {buy : BuyPrice ℚ}
    (hbuy : appraise .standard e scores base = .value (.priced buy)) :
    ∃ buy', appraise .standard e' scores' base = .value (.priced buy') ∧ buy.price ≤ buy'.price :=
  (Valuation.lifts_of_favors hmono h base).price_mono (fun _ _ => hpositive _) hretail hbuy

omit [Exponential] [NumberText ℚ]

lemma gentleExponential_pos (t : ℚ) : 0 < gentleExponential.exp t := by
  change 0 < if t ≤ 0 then 1 / (1 - t) else 1 + t
  split_ifs with ht
  · apply one_div_pos.mpr
    linarith
  · linarith

lemma gentleExponential_mono : Monotone gentleExponential.exp := by
  intro t u htu
  change (if t ≤ 0 then 1 / (1 - t) else 1 + t) ≤ if u ≤ 0 then 1 / (1 - u) else 1 + u
  split_ifs with ht hu hu
  · exact one_div_le_one_div_of_le (by linarith) (by linarith)
  · have hone : 1 / (1 - t) ≤ 1 := (div_le_one (by linarith)).mpr (by linarith)
    linarith
  · exact absurd (htu.trans hu) ht
  · linarith

/-- A castle that the catalog has retired, and that some have bought since. -/
def soldCastle (year : Int32) (sales : UInt32) (volatility : ℚ) : Evidence ℚ :=
  { freshlyRetired ⟨9999⟩ with
    pricing := { retailPrice := some ⟨9999⟩, transactionCount := some sales, priceVolatility := some volatility }
    availability := { yearRetired := some year } }

def demandOnly (value : ℚ) : Scores ℚ :=
  { Scores.empty with demand := some { value, confidence := 1, reasoning := "" } }

theorem soldCastle_favored :
    letI := gentleExponential
    letI := fractionText
    Monotone gentleExponential.exp ∧ (∀ t, 0 < gentleExponential.exp t) ∧
    Favors (soldCastle 2010 2 0.4) (demandOnly 20) (soldCastle 2010 2 0.4) (demandOnly 80) ∧
    Favors (soldCastle 2010 2 0.4) (demandOnly 20) (soldCastle 2010 60 0.4) (demandOnly 20) ∧
    Favors (soldCastle 2010 2 0.4) (demandOnly 20) (soldCastle 2010 2 0.05) (demandOnly 20) ∧
    Favors (soldCastle 2010 2 0.4) (demandOnly 20) (soldCastle 2024 2 0.4) (demandOnly 20) ∧
    (∀ retail, (soldCastle 2010 2 0.4).pricing.retailPrice = some retail → retail.isPositive) ∧
    ∃ buy, appraise .standard (soldCastle 2010 2 0.4) (demandOnly 20) 0.25 = .value (.priced buy) ∧
      (∃ wanted, appraise .standard (soldCastle 2010 2 0.4) (demandOnly 80) 0.25 = .value (.priced wanted) ∧
        buy.price ≤ wanted.price) ∧
      (∃ sold, appraise .standard (soldCastle 2010 60 0.4) (demandOnly 20) 0.25 = .value (.priced sold) ∧
        buy.price ≤ sold.price) ∧
      (∃ calm, appraise .standard (soldCastle 2010 2 0.05) (demandOnly 20) 0.25 = .value (.priced calm) ∧
        buy.price ≤ calm.price) ∧
      ∃ recent, appraise .standard (soldCastle 2024 2 0.4) (demandOnly 20) 0.25 = .value (.priced recent) ∧
        buy.price ≤ recent.price := by
  let _ := gentleExponential
  let _ := fractionText
  have hdemand : Favors (soldCastle 2010 2 0.4) (demandOnly 20) (soldCastle 2010 2 0.4) (demandOnly 80) :=
    @Favors.demand _ (demandOnly 20) ⟨20, 1, "", .empty, none⟩ 80 rfl (by norm_num)
  have hsales : Favors (soldCastle 2010 2 0.4) (demandOnly 20) (soldCastle 2010 60 0.4) (demandOnly 20) :=
    .sales rfl (by decide)
  have hcalm : Favors (soldCastle 2010 2 0.4) (demandOnly 20) (soldCastle 2010 2 0.05) (demandOnly 20) :=
    .calm rfl (by norm_num)
  have hrecent : Favors (soldCastle 2010 2 0.4) (demandOnly 20) (soldCastle 2024 2 0.4) (demandOnly 20) :=
    .recent rfl (by decide) (by decide)
  have hretail : ∀ retail, (soldCastle 2010 2 0.4).pricing.retailPrice = some retail → retail.isPositive := by
    rintro _ ⟨⟩
    rfl
  have hprice : (appraise .standard (soldCastle 2010 2 0.4) (demandOnly 20) 0.25).map (·.price?.isSome) =
      .value true := by
    decide +kernel
  obtain ⟨answer, hanswer, hsome⟩ := Checked.map_eq_value_iff.mp hprice
  obtain ⟨buy, hbuy⟩ := Option.isSome_iff_exists.mp hsome
  rw [Valuation.price?_eq_some_iff.mp hbuy] at hanswer
  have hmono := gentleExponential_mono
  have hpositive := gentleExponential_pos
  exact ⟨hmono, hpositive, hdemand, hsales, hcalm, hrecent, hretail, buy, hanswer,
    favored_price_no_lower hmono hpositive hdemand hretail 0.25 hanswer,
    favored_price_no_lower hmono hpositive hsales hretail 0.25 hanswer,
    favored_price_no_lower hmono hpositive hcalm hretail 0.25 hanswer,
    favored_price_no_lower hmono hpositive hrecent hretail 0.25 hanswer⟩

end Appraisal
