import Appraisal.Evidence.Basic
import Appraisal.NumberText
import Appraisal.Scoring.Curve
import Appraisal.Scoring.Scorecard

/-!
# Demand

What buyers pay counts for more than what sellers ask: sales and their momentum dominate, asking
prices are a smaller signal, and talk and retail sales are minor ones.
-/

namespace Appraisal.Demand
open NumberText

variable {α : Type} [Arithmetic α]

def velocityWeight : α := 0.40

def momentumWeight : α := 0.25

def listingWeight : α := 0.15

def communityWeight : α := 0.12

def retailWeight : α := 0.08

def byPace : Curve α :=
  ⟨[(0.0, 0.0), (0.05, 15.0), (0.1, 25.0), (0.25, 40.0), (0.5, 55.0), (1.0, 70.0), (2.0, 85.0),
    (4.0, 100.0)]⟩

def byRecentSales : Curve α :=
  ⟨[(0.0, 0.0), (2.0, 30.0), (5.0, 50.0), (10.0, 70.0), (20.0, 90.0), (30.0, 100.0)]⟩

/-- By the asking price as a multiple of what was paid. -/
def byPriceTrend : Curve α :=
  ⟨[(0.6, 10.0), (0.8, 30.0), (1.0, 50.0), (1.2, 70.0), (1.5, 90.0), (2.0, 100.0)]⟩

/-- By the market price as a multiple of the retail price. -/
def byPremium : Curve α :=
  ⟨[(0.5, 10.0), (0.8, 30.0), (1.0, 45.0), (1.3, 65.0), (1.6, 80.0), (2.0, 95.0), (3.0, 100.0)]⟩

/-- By the number of lots for sale; fewer are better. -/
def byLots : Curve α :=
  ⟨[(0.0, 95.0), (5.0, 80.0), (20.0, 55.0), (50.0, 30.0), (100.0, 10.0)]⟩

def byPosts : Curve α :=
  ⟨[(0.0, 0.0), (3.0, 30.0), (10.0, 55.0), (25.0, 75.0), (50.0, 90.0), (100.0, 100.0)]⟩

def byPostScore : Curve α :=
  ⟨[(0.0, 0.0), (5.0, 30.0), (20.0, 60.0), (50.0, 85.0), (100.0, 100.0)]⟩

def byUnitsSold : Curve α :=
  ⟨[(0.0, 0.0), (10.0, 20.0), (50.0, 40.0), (200.0, 60.0), (1000.0, 80.0), (5000.0, 100.0)]⟩

def formula : String :=
  "0.40×velocity + 0.25×momentum + 0.15×listing_price + 0.12×community + 0.08×retail_sales"

def priceTrendScore : Trend → α
  | .increasing => 80.0
  | .stable => 55.0
  | .decreasing => 25.0

def volumeScore : Trend → α
  | .increasing => 85.0
  | .stable => 55.0
  | .decreasing => 25.0

/-- The score of a relative strength, and what it is called. From 50 to 70 is healthiest; above 80
a market is overheated. -/
def strengthScore (strength : α) : α × String :=
  if (80.0 : α) < strength then (35.0, "overbought, overheated risk")
  else if (70.0 : α) < strength then (70.0, "strong but stretched")
  else if (50.0 : α) ≤ strength then (90.0, "healthy momentum")
  else if (30.0 : α) ≤ strength then (60.0, "neutral to soft")
  else if (20.0 : α) ≤ strength then (45.0, "weak")
  else (30.0, "deeply oversold")

def count (n : UInt32) : α := Arithmetic.ofNat n.toNat

def guideDays : α := 180.0

/-- Sales a day: as recorded, or from the longest recent window, or from all sales. -/
def salesPerDay (t : ConditionSales α) : α :=
  (t.salesVelocity <|> t.recent90.map (count · / (90.0 : α)) <|>
    t.recent30.map (count · / (30.0 : α))).getD (count t.totalTransactions / guideDays)

/-- The score of the pace of sales; the last 30 days count extra. -/
def velocityScore (t : ConditionSales α) : α :=
  let velocity := byPace.eval (salesPerDay t)
  match t.recent30 with
  | some recent => (0.7 : α) * velocity + (0.3 : α) * byRecentSales.eval (count recent)
  | none => velocity

/-- Whether the pace of the last 30 days is above or below that of the last 90. -/
def paceChange? (t : ConditionSales α) : Option String :=
  match t.recent30, t.recent90 with
  | some last30, some last90 =>
    let recent : α := count last30 * 3.0
    let usual : α := count last90
    if 0 < last90 ∧ usual * 1.2 < recent then
      some "Sales accelerating (30-day pace above 90-day average)"
    else if 0 < last90 ∧ recent < usual * 0.8 then
      some "Sales slowing (30-day pace below 90-day average)"
    else none
  | _, _ => none

variable [NumberText α]

def velocityText (t : ConditionSales α) : String :=
  let perDay := hundredths (salesPerDay t)
  let velocity := tenths (byPace.eval (salesPerDay t))
  match t.recent30 with
  | some recent =>
    let score := tenths (byRecentSales.eval (count recent : α))
    s!"0.7×velocity({perDay}/day → {velocity}) + 0.3×recent30({recent} → {score})"
  | none => s!"velocity {perDay}/day → {velocity}"

def velocityReason (t : ConditionSales α) : String :=
  let perDay := hundredths (salesPerDay t)
  if t.totalTransactions = 0 then "No verified sales"
  else
    match t.recent30 with
    | some recent => s!"{perDay} sales/day ({recent} in last 30 days)"
    | none => s!"{perDay} sales/day"

def velocityEntries (t : ConditionSales α) : Scorecard α :=
  let perDay := salesPerDay t
  let reason := velocityReason t
  [.reason reason] ++ Scorecard.given (paceChange? t) (fun text => [.reason text]) ++
  [ .dataPoint "sales_per_day" (.number perDay),
    .dataPoint "total_transactions" (.nat t.totalTransactions.toNat),
    .component {
      name := "velocity"
      weight := velocityWeight
      score := velocityScore t
      raw := .number perDay
      calculation := velocityText t
      reasoning := reason } ]

/-- The pace of sales by the price guide alone. -/
def guideVelocityEntries (timesSold : UInt32) : Scorecard α :=
  let perDay : α := count timesSold / guideDays
  let score := byPace.eval perDay
  let reason := s!"{timesSold} sold in six months (price guide only)"
  [ .reason reason,
    .dataPoint "sales_per_day" (.number perDay),
    .component {
      name := "velocity"
      weight := velocityWeight
      score
      raw := .nat timesSold.toNat
      calculation := s!"legacy times_sold {timesSold} / 180 days = {hundredths perDay}/day → " ++
        tenths score
      reasoning := reason } ]

/-- The mean of what is known about the direction of prices and volumes. -/
def momentumScore? (t : ConditionSales α) : Option α :=
  Arithmetic.meanPresent? [
    t.priceTrend.map priceTrendScore,
    t.relativeStrength.map fun strength => (strengthScore strength).1,
    t.volumeTrend.map volumeScore ]

def priceTrendText (t : ConditionSales α) (trend : Trend) : String :=
  match t.priceChangePercent with
  | some percent => s!"price {trend.name} ({signed 1 percent}%)"
  | none => s!"price {trend.name}"

def strengthText (strength : α) : String :=
  s!"RSI {whole strength} (" ++ (strengthScore strength).2 ++ ")"

def momentumParts (t : ConditionSales α) : List String :=
  [ t.priceTrend.map (priceTrendText t),
    t.relativeStrength.map strengthText,
    t.volumeTrend.map fun trend => s!"volume {trend.name}" ].filterMap id

def trendJson (trend : Option Trend) : Json α := .ofOption (fun t => .string t.name) trend

def momentumEntries (t : ConditionSales α) : Scorecard α :=
  Scorecard.given (momentumScore? t) fun score =>
    let reason := "Momentum: " ++ ", ".intercalate (momentumParts t)
    Scorecard.given t.relativeStrength (fun strength => [.dataPoint "rsi" (.number strength)]) ++
    [ .reason reason,
      .component {
        name := "momentum"
        weight := momentumWeight
        score
        raw := .object [
          ("price_trend", trendJson t.priceTrend),
          ("rsi", .ofOption .number t.relativeStrength),
          ("volume_trend", trendJson t.volumeTrend)]
        calculation := s!"mean(trend, rsi, volume) over present = {tenths score}"
        reasoning := reason } ]

omit [NumberText α] in
/-- The asking price as a multiple of what was paid. -/
def priceTrendRatio? (e : DemandEvidence α) : Option α := do
  let current ← e.askingPrice
  let historical ← e.paidPrice
  current.ratio? historical

omit [NumberText α] in
/-- The market price as a multiple of the retail price. -/
def retailPremium? (e : DemandEvidence α) : Option α := do
  let market ← e.askingPrice <|> e.paidPrice
  let retail ← e.retailPrice
  market.ratio? retail

omit [NumberText α] in
/-- The mean of what is known about the lots for sale. -/
def listingScore? (e : DemandEvidence α) : Option α :=
  Arithmetic.meanPresent? [
    (priceTrendRatio? e).map byPriceTrend.eval,
    (retailPremium? e).map byPremium.eval,
    e.currentLots.map fun lots => byLots.eval (count lots) ]

def listingParts (e : DemandEvidence α) : List String :=
  [ (priceTrendRatio? e).map fun ratio =>
      s!"asking {signed 0 ((ratio - 1.0) * 100.0)}% vs six-month average",
    (retailPremium? e).map fun ratio => s!"{hundredths ratio}× retail",
    e.currentLots.map fun lots => s!"{lots} lots listed" ].filterMap id

def centsJson (c : Option Cents) : Json α := .ofOption (fun c => .int c.value.toInt) c

def listingEntries (e : DemandEvidence α) : Scorecard α :=
  Scorecard.given (listingScore? e) fun score =>
    let reason := "Listings: " ++ ", ".intercalate (listingParts e)
    Scorecard.given (priceTrendRatio? e)
      (fun ratio => [.dataPoint "price_trend_ratio" (.number ratio)]) ++
    Scorecard.given (retailPremium? e) (fun ratio => [.dataPoint "retail_premium" (.number ratio)]) ++
    [ .reason reason,
      .component {
        name := "listing_price"
        weight := listingWeight
        score
        raw := .object [
          ("current", centsJson e.askingPrice),
          ("historical", centsJson e.paidPrice),
          ("lots", .ofOption (fun n => .nat n.toNat) e.currentLots)]
        calculation :=
          s!"mean(price_trend, retail_premium, lot_scarcity) over present = {tenths score}"
        reasoning := reason } ]

omit [NumberText α] in
/-- The mean of the scores of the number of posts and of their average score. -/
def communityScore (c : Community α) : α :=
  let posts := byPosts.eval (count c.postCount)
  (Arithmetic.meanPresent? [some posts, c.averageScore.map byPostScore.eval]).getD posts

def communityEntries (c : Community α) : Scorecard α :=
  let posts := tenths (byPosts.eval (count c.postCount : α))
  let score := communityScore c
  [ .component {
      name := "community"
      weight := communityWeight
      score
      raw := .object [
        ("average_score", .ofOption .number c.averageScore),
        ("posts", .nat c.postCount.toNat)]
      calculation := s!"mean(posts {c.postCount} → {posts}, avg score) = {tenths score}"
      reasoning := s!"{c.postCount} community posts, {c.totalComments} comments" } ]

def retailEntries (units : UInt64) : Scorecard α :=
  let score : α := byUnitsSold.eval (Arithmetic.ofNat units.toNat)
  [ .component {
      name := "retail_sales"
      weight := retailWeight
      score
      raw := .nat units.toNat
      calculation := s!"units_sold {units} → {tenths score}"
      reasoning := s!"{units} units sold at retail" } ]

omit [Arithmetic α] [NumberText α] in
/-- The inputs of the analysis, and which of them are there. -/
def slotEntries (e : DemandEvidence α) : Scorecard α :=
  let sales := e.transactions
  [ .slot "transaction_statistics" sales.isSome,
    .slot "price_trend" (sales.bind (·.priceTrend)).isSome,
    .slot "rsi" (sales.bind (·.relativeStrength)).isSome,
    .slot "volume_trend" (sales.bind (·.volumeTrend)).isSome,
    .slot "market_prices" (e.askingPrice.isSome || e.paidPrice.isSome),
    .slot "current_lots" e.currentLots.isSome,
    .slot "community_sentiment" e.community.isSome,
    .slot "retail_units_sold" e.unitsSold.isSome ]

/-- Sales and their momentum; the price guide stands in only when there are no statistics. -/
def salesEntries (e : DemandEvidence α) : Scorecard α :=
  match e.transactions with
  | some t => velocityEntries t ++ momentumEntries t
  | none => Scorecard.given e.guideTimesSold guideVelocityEntries

def card (e : DemandEvidence α) : Scorecard α :=
  slotEntries e ++ salesEntries e ++ listingEntries e ++
    Scorecard.given e.community communityEntries ++ Scorecard.given e.unitsSold retailEntries ++
    [.dataPoint "uses_transaction_statistics" (.bool e.transactions.isSome)]

def score? (e : DemandEvidence α) : Option (Score α) := (card e).toScore? formula

end Appraisal.Demand
