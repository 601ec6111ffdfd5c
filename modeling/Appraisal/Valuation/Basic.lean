import Appraisal.NumberText
import Appraisal.Valuation.Factors
import Appraisal.Valuation.Margin

/-!
# Valuation

A price is anchored on the retail price, or else on the secondary market. Factors turn the anchor
into an intrinsic value, and the margin of safety turns that into the most to pay. Where the evidence
does not carry a price, there is a reason instead.
-/

namespace Appraisal

inductive AnchorSource where
  | retailPrice
  | secondaryMarket
  deriving DecidableEq

namespace AnchorSource

protected def name : AnchorSource → String
  | retailPrice => "retail_price"
  | secondaryMarket => "secondary_market"

instance : Named AnchorSource where
  all := [retailPrice, secondaryMarket]
  name := AnchorSource.name

def label : AnchorSource → String
  | retailPrice => "retail"
  | secondaryMarket => "market"

end AnchorSource

structure Anchor where
  price : Cents
  source : AnchorSource
  deriving DecidableEq

structure Factors (α : Type) where
  retirement : α
  demand : α
  scarcity : α
  liquidity : α
  volatility : α
  theme : α
  partsValue : α

structure Derivation (α : Type) where
  anchor : Anchor
  status : RetirementStatus
  factors : Factors α
  intrinsicValue : Cents
  margin : α
  adjustments : List String

structure BuyPrice (α : Type) where
  price : Cents
  reasoning : String
  confidence : α
  derivation : Option (Derivation α)

inductive Rejection (α : Type) where
  | noAnchor
  /-- Nothing was ever sold at the market price. -/
  | unverifiedMarket
  /-- Nothing was ever sold, and sellers ask this multiple of retail. -/
  | unverifiedPremium (ratio : α) (asking retail : Cents)
  | degenerateValue (anchor : Cents)
  | degeneratePrice (intrinsicValue : Cents)

/-- A price, or the reason why there is none. -/
inductive Valuation (α : Type) where
  | priced (price : BuyPrice α)
  | rejected (reason : Rejection α)

namespace Valuation

variable {α : Type}

def price? : Valuation α → Option (BuyPrice α)
  | priced price => some price
  | rejected _ => none

def rejection? : Valuation α → Option (Rejection α)
  | priced _ => none
  | rejected reason => some reason

end Valuation

namespace Rejection
open NumberText

variable {α : Type} [Arithmetic α] [NumberText α]

def message : Rejection α → String
  | noAnchor => "No retail or secondary-market price available to anchor valuation"
  | unverifiedMarket => "Zero verified sales; secondary-market asking price is unverified"
  | unverifiedPremium ratio asking retail =>
    s!"Zero verified sales while sellers ask {whole ((ratio - 1.0) * 100.0)}% above retail " ++
      s!"({asking} vs {retail})"
  | degenerateValue anchor => s!"Degenerate valuation from anchor {anchor}"
  | degeneratePrice intrinsicValue =>
    s!"Degenerate buy price from intrinsic value {intrinsicValue}"

end Rejection

namespace Valuation
open NumberText

variable {α : Type} [Arithmetic α]

/-- The market price, if it is positive: what was paid, or when that is not known what is asked. -/
def marketPrice? (p : PricingEvidence α) : Option Cents :=
  (p.paidPrice <|> p.askingPrice).filter Cents.isPositive

def anchor? (p : PricingEvidence α) : Option Anchor :=
  match p.retailPrice, marketPrice? p with
  | some retail, _ => some ⟨retail, .retailPrice⟩
  | none, some market => some ⟨market, .secondaryMarket⟩
  | none, none => none

/-- What speaks against a price when not one sale is recorded. -/
def unverified? (policy : PricePolicy α) (p : PricingEvidence α) (anchor : Anchor) :
    Option (Rejection α) :=
  match anchor.source with
  | .secondaryMarket => some .unverifiedMarket
  | .retailPrice => do
    let asking ← p.askingPrice
    let ratio := (asking.ratio? anchor.price).getD (0.0 : α)
    if policy.credibleMultiple < ratio then
      some (.unverifiedPremium ratio asking anchor.price)
    else none

/-- What speaks against a price before it is computed. -/
def objection? (policy : PricePolicy α) (p : PricingEvidence α) (anchor : Anchor) :
    Option (Rejection α) :=
  if p.transactionCount = some 0 then unverified? policy p anchor else none

def standing (policy : PricePolicy α) (e : Evidence α) : Checked RetirementStanding :=
  retirementStanding e.availability e.asOf.year policy.retirementAge

def factors (policy : PricePolicy α) (standing : RetirementStanding) (e : Evidence α)
    (scores : Scores α) : Factors α where
  retirement := Factor.retirement policy standing
  demand := Factor.demand policy (scores.demand.map (·.value))
  scarcity := (scores.availability.bind (·.multiplier)).getD 1.0
  liquidity := Factor.liquidity e.pricing.transactionCount
  volatility := Factor.volatility e.pricing.priceVolatility
  theme := Factor.theme policy e.quality.theme
  partsValue := Factor.partsValue policy e.pricing.retailPrice e.quality.partsCount

def intrinsic (anchor : Anchor) (f : Factors α) : α :=
  anchor.price.toNumber * f.retirement * f.demand * f.scarcity * f.liquidity * f.volatility *
    f.theme * f.partsValue

/-- The nearest amount, if it is positive. -/
def positiveCents? (x : α) : Option Cents := (Cents.round? x).filter Cents.isPositive

/-- Prices are trusted like the scores behind them; less on the market price, and less when sales
are not known. -/
def confidence (scores : Scores α) (source : AnchorSource) (hasTransactions : Bool) : α :=
  let base := scores.meanConfidence?.getD 0.3
  let forAnchor : α :=
    match source with
    | .retailPrice => 1.0
    | .secondaryMarket => 0.8
  let forLiquidity : α := if hasTransactions then 1.0 else 0.8
  Arithmetic.clamp 0.0 1.0 (base * forAnchor * forLiquidity)

variable [NumberText α]

def factorRemarks (p : PricingEvidence α) (f : Factors α) : List String :=
  [ if p.transactionCount.isNone then some "No transaction statistics: liquidity unverified"
    else if f.liquidity < 1.0 then some s!"Thin liquidity ×{hundredths f.liquidity}"
    else none,
    if f.volatility < 1.0 then some s!"Price volatility ×{hundredths f.volatility}" else none,
    if (1.0 : α) < f.theme then some s!"Premium theme ×{hundredths f.theme}" else none,
    if f.partsValue != 1.0 then some s!"Parts per dollar ×{hundredths f.partsValue}"
    else none ].filterMap id

/-- Where the listing of the platform stands with respect to the price. -/
def listingRemark (α : Type) [Arithmetic α] [NumberText α] (listed price : Cents) : String :=
  if listed ≤ price then s!"Listed at {listed}, at or below target buy price"
  else
    let above : α := ((listed.ratio? price).map fun r : α => (r - 1.0) * 100.0).getD 0.0
    s!"Listed at {listed}, {whole above}% above target buy price"

def factorsText (status : RetirementStatus) (f : Factors α) : String :=
  s!"retirement {hundredths f.retirement} ({status.name}) × demand {hundredths f.demand} × " ++
  s!"scarcity {hundredths f.scarcity} × liquidity {hundredths f.liquidity} × " ++
  s!"volatility {hundredths f.volatility} × theme {hundredths f.theme} × " ++
  s!"parts {hundredths f.partsValue}"

def reasoning (d : Derivation α) (price : Cents) : String :=
  s!"Intrinsic value {d.intrinsicValue} = {d.anchor.source.label} {d.anchor.price} × " ++
    factorsText d.status d.factors ++
    s!"; {whole (d.margin * 100.0)}% margin of safety → buy at or below {price}"

def adjustments (e : Evidence α) (f : Factors α) (scores : Scores α) (price : Cents) :
    List String :=
  factorRemarks e.pricing f ++ (MarginStep.steps scores).map MarginStep.text ++
    (e.pricing.listingPrice.map fun listed => listingRemark α listed price).toList

/-- The price on an anchor that nothing speaks against. -/
def priceOn (policy : PricePolicy α) (e : Evidence α) (scores : Scores α) (baseMargin : α)
    (anchor : Anchor) : Checked (Valuation α) := do
  let standing ← standing policy e
  let f := factors policy standing e scores
  let value := intrinsic anchor f
  match positiveCents? value with
  | none => return .rejected (.degenerateValue anchor.price)
  | some intrinsicValue =>
    let margin ← marginOfSafety policy baseMargin scores
    match positiveCents? (value * (1.0 - margin)) with
    | none => return .rejected (.degeneratePrice intrinsicValue)
    | some price =>
      let derivation : Derivation α :=
        { anchor
          status := standing.status
          factors := f
          intrinsicValue
          margin
          adjustments := adjustments e f scores price }
      return .priced
        { price
          reasoning := reasoning derivation price
          confidence := confidence scores anchor.source e.pricing.transactionCount.isSome
          derivation := some derivation }

end Valuation

variable {α : Type} [Arithmetic α] [NumberText α]

/-- Prices a product, or says why not. -/
def appraise (policy : PricePolicy α) (e : Evidence α) (scores : Scores α) (baseMargin : α) :
    Checked (Valuation α) :=
  match Valuation.anchor? e.pricing with
  | none => return .rejected .noAnchor
  | some anchor =>
    match Valuation.objection? policy e.pricing anchor with
    | some reason => return .rejected reason
    | none => Valuation.priceOn policy e scores baseMargin anchor

end Appraisal
