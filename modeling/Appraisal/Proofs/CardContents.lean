import Appraisal.Analysis.Demand
import Appraisal.Proofs.Aborted
import Appraisal.Proofs.Scorecards

/-!
# What the analyses write

Every analysis declares the same inputs on every card, and finds each of its components at most once. What a component
takes differs from the inputs: the guide's count of sales is no input, but has a pace, and a price is an
input, but says nothing before it is compared with another one. A text that cannot be written leaves no card.
-/

namespace Appraisal
open Scorecard
variable {α : Type} [Arithmetic α] [NumberText α]

namespace Availability

/-- Whether anything is known about the retirement. -/
def isTimed (e : AvailabilityEvidence) : Bool :=
  e.yearRetired.isSome || e.daysUntilRetirement.isSome || e.retiringSoon.isSome

/-- The inputs of the analysis, and whether they are there. -/
def inputs (e : AvailabilityEvidence) : List (String × Bool) :=
  [ ("retirement_timing", isTimed e),
    ("stock", e.stock.isSome),
    ("listing_status", e.listingStatus.isSome) ]

/-- The components with their weights, and whether they are found. -/
def parts (α : Type) [Arithmetic α] (e : AvailabilityEvidence) : List ((String × α) × Bool) :=
  [ (("retirement_urgency", retirementWeight), isTimed e),
    (("stock_scarcity", stockWeight), e.stock.isSome),
    (("listing_status", listingStatusWeight), e.listingStatus.isSome) ]

omit [NumberText α] in
lemma isSome_score? (e : AvailabilityEvidence) (currentYear : Int32) :
    ((timing e currentYear).score? : Option α).isSome = isTimed e := by
  unfold timing isTimed
  cases e.yearRetired with
  | some year =>
    by_cases hle : year ≤ currentYear
    · simp [hle, Timing.score?]
    · cases e.daysUntilRetirement.filter (0 ≤ ·) <;> simp [hle, Timing.score?]
  | none =>
    cases e.daysUntilRetirement with
    | some days => rfl
    | none => rcases e.retiringSoon with _ | _ | _ <;> rfl

lemma timingEntries_writes (t : Timing) (reasoning : String) :
    Writes (t.entries reasoning : Scorecard α) []
      [(("retirement_urgency", retirementWeight), (t.score? : Option α).isSome)] := by
  have hdays : Writes (given t.days? fun days => [.dataPoint "days_until_retirement" (.int days.toInt)]
      : Scorecard α) [] [] := Writes.remarks fun days => writes_nil.dataPoint
  have hreason : Writes (if t.isNotable then [.reason reasoning] else [] : Scorecard α) [] [] :=
    writes_nil.reason.ite writes_nil
  unfold Timing.entries
  refine ((hdays.append hreason).append (Writes.given ?_)).append writes_nil.dataPoint
  intro score
  exact writes_nil.component

lemma stockEntries_writes (stock : UInt64) :
    Writes (stockEntries stock : Scorecard α) [] [(("stock_scarcity", stockWeight), true)] := by
  unfold stockEntries
  exact (writes_nil.reason.ite writes_nil).append writes_nil.component.dataPoint

lemma statusEntries_writes (status : ListingStatus) :
    Writes (statusEntries status : Scorecard α) [] [(("listing_status", listingStatusWeight), true)] := by
  unfold statusEntries
  exact (writes_nil.ite writes_nil.reason).append writes_nil.component

lemma card_writes (e : AvailabilityEvidence) (currentYear : Int32) (timingReason : String) :
    Writes (card e currentYear timingReason : Scorecard α) (inputs e) (parts α e) := by
  have hslots : Writes (slotEntries e : Scorecard α) (inputs e) [] := writes_nil.slot.slot.slot
  have htiming : Writes ((timing e currentYear).entries timingReason) []
      [(("retirement_urgency", (retirementWeight : α)), isTimed e)] := by
    rw [← isSome_score? (α := α) e currentYear]
    exact timingEntries_writes (timing e currentYear) timingReason
  unfold card
  exact ((hslots.append htiming).append (Writes.given stockEntries_writes)).append
    (Writes.given statusEntries_writes)

/-- An analysis that is not aborted is that of a card, with the factor for the price. -/
lemma score?_eq_value_iff {e : AvailabilityEvidence} {currentYear : Int32} {found : Option (Score α)} :
    score? e currentYear = .value found ↔ ∃ reason, (timing e currentYear).reasoning = .value reason ∧
      ((card e currentYear reason).toScore? formula).map withScarcity = found := by
  simp [score?, Checked.bind_eq_value_iff]

end Availability

namespace Quality

omit [Arithmetic α] [NumberText α] in
/-- The inputs of the analysis, and whether they are there. -/
def inputs (e : QualityEvidence α) : List (String × Bool) :=
  [ ("rating", e.rating.isSome),
    ("review_count", e.reviewCount.isSome),
    ("brand", e.brand.isSome),
    ("theme", e.theme.isSome),
    ("parts_count", e.partsCount.isSome) ]

omit [NumberText α] in
/-- The components with their weights, and whether they are found. -/
def parts (e : QualityEvidence α) : List ((String × α) × Bool) :=
  [ (("rating", ratingWeight), e.rating.isSome),
    (("brand", brandWeight), e.brand.isSome),
    (("metadata", metadataWeight), e.theme.isSome || e.partsCount.isSome) ]

lemma ratingEntries_writes (e : QualityEvidence α) (pattern : Option ReviewPattern) (rating : α) :
    Writes (ratingEntries e pattern rating) [] [(("rating", ratingWeight), true)] := by
  unfold ratingEntries
  exact writes_nil.component.dataPoint.reason

lemma brandEntries_writes (expected brand : String) :
    Writes (brandEntries expected brand : Scorecard α) [] [(("brand", brandWeight), true)] := by
  unfold brandEntries
  exact writes_nil.component.reason

omit [NumberText α] in
lemma metadataEntries_writes (e : QualityEvidence α) :
    Writes (metadataEntries e) [] [(("metadata", metadataWeight), e.theme.isSome || e.partsCount.isSome)] := by
  unfold metadataEntries
  cases e.theme.isSome || e.partsCount.isSome with
  | true => exact writes_nil.component.reason
  | false => exact ⟨rfl, rfl⟩

lemma card_writes (expected : String) (e : QualityEvidence α) (pattern : Option ReviewPattern) :
    Writes (card expected e pattern) (inputs e) (parts e) := by
  have hslots : Writes (slotEntries e) (inputs e) [] := writes_nil.slot.slot.slot.slot.slot
  unfold card
  exact ((hslots.append (Writes.given (ratingEntries_writes e pattern))).append
    (Writes.given (brandEntries_writes expected))).append (metadataEntries_writes e)

lemma score?_eq_value_iff {expected : String} {e : QualityEvidence α} {found : Option (Score α)} :
    score? expected e = .value found ↔ ∃ pattern, reviews e = .value pattern ∧
      (card expected e pattern).toScore? formula = found := by
  simp [score?, Checked.bind_eq_value_iff]

end Quality

namespace Demand

omit [Arithmetic α] [NumberText α] in
/-- The inputs of the analysis, and whether they are there. -/
def inputs (e : DemandEvidence α) : List (String × Bool) :=
  [ ("transaction_statistics", e.transactions.isSome),
    ("price_trend", (e.transactions.bind (·.priceTrend)).isSome),
    ("rsi", (e.transactions.bind (·.relativeStrength)).isSome),
    ("volume_trend", (e.transactions.bind (·.volumeTrend)).isSome),
    ("market_prices", e.askingPrice.isSome || e.paidPrice.isSome),
    ("current_lots", e.currentLots.isSome),
    ("community_sentiment", e.community.isSome),
    ("retail_units_sold", e.unitsSold.isSome) ]

omit [NumberText α] in
/-- The components with their weights, and whether they are found. -/
def parts (e : DemandEvidence α) : List ((String × α) × Bool) :=
  [ (("velocity", velocityWeight), e.transactions.isSome || e.guideTimesSold.isSome),
    (("momentum", momentumWeight), (e.transactions.bind momentumScore?).isSome),
    (("listing_price", listingWeight), (listingScore? e).isSome),
    (("community", communityWeight), e.community.isSome),
    (("retail_sales", retailWeight), e.unitsSold.isSome) ]

lemma velocityEntries_writes (t : ConditionSales α) :
    Writes (velocityEntries t) [] [(("velocity", velocityWeight), true)] := by
  have hchange : Writes (given (paceChange? t) fun text => [.reason text] : Scorecard α) [] [] :=
    Writes.remarks fun text => writes_nil.reason
  unfold velocityEntries
  exact (writes_nil.reason.append hchange).append writes_nil.component.dataPoint.dataPoint

lemma guideVelocityEntries_writes (timesSold : UInt32) :
    Writes (guideVelocityEntries timesSold : Scorecard α) [] [(("velocity", velocityWeight), true)] := by
  unfold guideVelocityEntries
  exact writes_nil.component.dataPoint.reason

lemma momentumEntries_writes (t : ConditionSales α) :
    Writes (momentumEntries t) [] [(("momentum", momentumWeight), (momentumScore? t).isSome)] := by
  have hstrength : Writes (given t.relativeStrength fun strength => [.dataPoint "rsi" (.number strength)]
      : Scorecard α) [] [] := Writes.remarks fun strength => writes_nil.dataPoint
  unfold momentumEntries
  exact Writes.given fun score => hstrength.append writes_nil.component.reason

lemma salesEntries_writes (e : DemandEvidence α) :
    Writes (salesEntries e) []
      [ (("velocity", velocityWeight), e.transactions.isSome || e.guideTimesSold.isSome),
        (("momentum", momentumWeight), (e.transactions.bind momentumScore?).isSome) ] := by
  unfold salesEntries
  cases e.transactions with
  | some t => exact (velocityEntries_writes t).append (momentumEntries_writes t)
  | none => exact (Writes.given guideVelocityEntries_writes).unused

lemma listingEntries_writes (e : DemandEvidence α) :
    Writes (listingEntries e) [] [(("listing_price", listingWeight), (listingScore? e).isSome)] := by
  have htrend : Writes (given (priceTrendRatio? e) fun ratio => [.dataPoint "price_trend_ratio" (.number ratio)]
      : Scorecard α) [] [] := Writes.remarks fun ratio => writes_nil.dataPoint
  have hpremium : Writes (given (retailPremium? e) fun ratio => [.dataPoint "retail_premium" (.number ratio)]
      : Scorecard α) [] [] := Writes.remarks fun ratio => writes_nil.dataPoint
  unfold listingEntries
  exact Writes.given fun score => (htrend.append hpremium).append writes_nil.component.reason

lemma communityEntries_writes (c : Community α) :
    Writes (communityEntries c) [] [(("community", communityWeight), true)] := by
  unfold communityEntries
  exact writes_nil.component

lemma retailEntries_writes (units : UInt64) :
    Writes (retailEntries units : Scorecard α) [] [(("retail_sales", retailWeight), true)] := by
  unfold retailEntries
  exact writes_nil.component

lemma card_writes (e : DemandEvidence α) : Writes (card e) (inputs e) (parts e) := by
  have hslots : Writes (slotEntries e) (inputs e) [] := writes_nil.slot.slot.slot.slot.slot.slot.slot.slot
  unfold card
  exact ((((hslots.append (salesEntries_writes e)).append (listingEntries_writes e)).append
    (Writes.given communityEntries_writes)).append (Writes.given retailEntries_writes)).append writes_nil.dataPoint

end Demand
end Appraisal
