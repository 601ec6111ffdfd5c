import Appraisal.Evidence.Basic
import Appraisal.NumberText
import Appraisal.Scoring.Curve
import Appraisal.Scoring.Scorecard

/-!
# Availability

How hard a product is to get: how near its retirement is, how much stock is left, and whether it is
still listed. The score is higher the harder that is. It also contributes a factor to the price.
-/

namespace Appraisal.Availability
open NumberText

variable {α : Type} [Arithmetic α]

def retirementWeight : α := 0.55

def stockWeight : α := 0.35

def listingStatusWeight : α := 0.10

/-- By the days that are left until retirement. -/
def byDaysLeft : Curve α :=
  ⟨[(0.0, 100.0), (30.0, 95.0), (90.0, 80.0), (180.0, 60.0), (365.0, 30.0), (730.0, 10.0)]⟩

def byStock : Curve α :=
  ⟨[(0.0, 100.0), (1.0, 95.0), (5.0, 80.0), (20.0, 55.0), (100.0, 25.0), (500.0, 5.0)]⟩

def retiredScore : α := 90.0

def undatedScore : α := 80.0

def notRetiringScore : α := 15.0

def formula : String := "0.55×retirement_urgency + 0.35×stock_scarcity + 0.10×listing_status"

def leastScarcity : α := 0.95

def greatestScarcity : α := 1.10

/-- The factor for the price: the scarcer the product is by its score, the smaller. -/
def scarcityFactor (score : α) : α :=
  Arithmetic.clamp leastScarcity greatestScarcity
    (0.95 + (100.0 - Arithmetic.clamp 0.0 100.0 score) / 100.0 * 0.15)

def statusScore : ListingStatus → α
  | .delisted => 95.0
  | .soldOut => 80.0
  | .active => 30.0

/-- The score of the days until retirement. A day that has passed counts as retired. -/
def urgencyScore (days : Int64) : α :=
  if days < 0 then retiredScore else byDaysLeft.eval (Arithmetic.ofInt days.toInt)

def urgencyReason (days : Int64) : Checked String := do
  if days < 0 then return s!"Expected retirement date passed {← Checked.neg days} days ago"
  else if days < 30 then return s!"Retiring in {days} days (CRITICAL WINDOW)"
  else if days < 90 then return s!"Retiring in {days} days (act soon)"
  else if days ≤ 365 then return s!"Retiring in {days} days"
  else return s!"Retirement over a year away ({days} days)"

/-- Where a product stands with respect to its retirement, as far as the evidence tells. -/
inductive Timing where
  /-- The catalog says that it retired in this or an earlier year. -/
  | retiredIn (year : Int32)
  /-- The catalog names a later year, and the expected date has not passed. -/
  | scheduledWithDate (year : Int32) (days : Int64)
  | scheduled (year : Int32)
  /-- There is an expected date, but no year. -/
  | dated (days : Int64)
  | flagged
  | notRetiring
  | unknown
  deriving DecidableEq

/-- The year that the catalog settles comes first, then the expected date, then the flag. A date
that has passed does not count against a scheduled year. -/
def timing (e : AvailabilityEvidence) (currentYear : Int32) : Timing :=
  match e.yearRetired with
  | some year =>
    if year ≤ currentYear then .retiredIn year
    else
      match e.daysUntilRetirement.filter (0 ≤ ·) with
      | some days => .scheduledWithDate year days
      | none => .scheduled year
  | none =>
    match e.daysUntilRetirement, e.retiringSoon with
    | some days, _ => .dated days
    | none, some true => .flagged
    | none, some false => .notRetiring
    | none, none => .unknown

namespace Timing

def phase : Timing → String
  | retiredIn _ => "retired"
  | scheduledWithDate _ _ | scheduled _ | flagged => "pre_retirement"
  | dated days => if days < 0 then "retired" else "pre_retirement"
  | notRetiring => "active"
  | unknown => "unknown"

/-- The days to show, unless they do not matter. -/
def days? : Timing → Option Int64
  | scheduledWithDate _ days | dated days => some days
  | _ => none

def score? : Timing → Option α
  | retiredIn _ => some retiredScore
  | scheduledWithDate _ days | dated days => some (urgencyScore days)
  | scheduled _ | flagged => some undatedScore
  | notRetiring => some notRetiringScore
  | unknown => none

def reasoning : Timing → Checked String
  | retiredIn year => return s!"Retired in {year} (supply fixed)"
  | scheduledWithDate _ days | dated days => urgencyReason days
  | scheduled year => return s!"Scheduled to retire in {year}"
  | flagged => return "Flagged as retiring soon (no date)"
  | notRetiring => return "No retirement announced"
  | unknown => return ""

/-- Whether the reasoning is worth telling. -/
def isNotable : Timing → Bool
  | notRetiring | unknown => false
  | _ => true

def raw : Timing → Json α
  | retiredIn year | scheduled year => .int year.toInt
  | scheduledWithDate _ days | dated days => .int days.toInt
  | flagged => .bool true
  | notRetiring => .bool false
  | unknown => .null

variable [NumberText α]

def calculation (t : Timing) (score : α) : String :=
  match t with
  | retiredIn year => s!"retired {year} → {plain score}"
  | scheduledWithDate year _ | scheduled year => s!"retiring {year} → {tenths score}"
  | dated days => s!"days_until_retirement {days} → {tenths score}"
  | flagged => s!"retiring_soon flag → {plain score}"
  | notRetiring => s!"no retirement announced → {plain score}"
  | unknown => ""

def entries (t : Timing) (reasoning : String) : Scorecard α :=
  Scorecard.given t.days? (fun days => [.dataPoint "days_until_retirement" (.int days.toInt)]) ++
  (if t.isNotable then [.reason reasoning] else []) ++
  Scorecard.given t.score? (fun score => [
    .component {
      name := "retirement_urgency"
      weight := retirementWeight
      score
      raw := t.raw
      calculation := t.calculation score
      reasoning }]) ++
  [.dataPoint "retirement_phase" (.string t.phase)]

end Timing

variable [NumberText α]

def stockReason (stock : UInt64) : String :=
  if stock = 0 then "Out of stock at retail"
  else if stock ≤ 5 then s!"Only {stock} units left"
  else s!"{stock} units in stock"

def stockEntries (stock : UInt64) : Scorecard α :=
  let score : α := byStock.eval (Arithmetic.ofNat stock.toNat)
  let reason := stockReason stock
  (if stock ≤ 5 then [.reason reason] else []) ++
  [ .dataPoint "stock" (.nat stock.toNat),
    .component {
      name := "stock_scarcity"
      weight := stockWeight
      score
      raw := .nat stock.toNat
      calculation := s!"stock {stock} → {tenths score}"
      reasoning := reason } ]

def statusEntries (status : ListingStatus) : Scorecard α :=
  let score : α := statusScore status
  let reason := s!"Listing {status.name}"
  (if status = .active then [] else [.reason reason]) ++
  [ .component {
      name := "listing_status"
      weight := listingStatusWeight
      score
      raw := .string status.name
      calculation := s!"{status.name} → {plain score}"
      reasoning := reason } ]

omit [Arithmetic α] [NumberText α] in
/-- The inputs of the analysis, and which of them are there. -/
def slotEntries (e : AvailabilityEvidence) : Scorecard α :=
  [ .slot "retirement_timing"
      (e.yearRetired.isSome || e.daysUntilRetirement.isSome || e.retiringSoon.isSome),
    .slot "stock" e.stock.isSome,
    .slot "listing_status" e.listingStatus.isSome ]

def card (e : AvailabilityEvidence) (currentYear : Int32) (timingReason : String) : Scorecard α :=
  slotEntries e ++ (timing e currentYear).entries timingReason ++ Scorecard.given e.stock stockEntries ++
    Scorecard.given e.listingStatus statusEntries

omit [NumberText α] in
def withScarcity (score : Score α) : Score α :=
  let multiplier := scarcityFactor score.value
  { score with
    dataPoints := score.dataPoints.insert "scarcity_multiplier" (.number multiplier)
    breakdown := score.breakdown.map fun b => { b with
      multiplier := some multiplier
      multiplierRange := some (leastScarcity, greatestScarcity)
      multiplierFormula := some "0.95 + (100 - score) / 100 × 0.15" } }

def score? (e : AvailabilityEvidence) (currentYear : Int32) : Checked (Option (Score α)) := do
  let reason ← (timing e currentYear).reasoning
  return ((card e currentYear reason).toScore? formula).map withScarcity

end Appraisal.Availability
