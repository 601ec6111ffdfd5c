import Appraisal.Arithmetic

/-!
# Pricing policy

The figures behind a price.
-/

namespace Appraisal

/-- What a price depends on besides the evidence. -/
structure PricePolicy (α : Type) where
  /-- A set that was released longer ago counts as retired when nothing else is known. -/
  retirementAge : Int32
  retiringSoonFactor : α
  /-- The premium in the year of retirement … -/
  freshlyRetiredFactor : α
  /-- … which falls towards this one … -/
  longRetiredFactor : α
  /-- … by a factor of e in so many years. -/
  fadingYears : α
  /-- For a set that only its age makes retired. -/
  presumedRetiredFactor : α
  /-- How far demand moves the price up or down. -/
  demandSpread : α
  /-- The highest credible asking price without sales, as a multiple of retail. -/
  credibleMultiple : α
  themeFactor : α
  /-- Up to so many cents a part, a set is good value. -/
  cheapPartCents : α
  /-- Above so many cents a part, a set is poor value. -/
  dearPartCents : α
  leastMargin : α
  greatestMargin : α

/-- The figures that are used unless a session sets others. -/
def PricePolicy.standard {α : Type} [Arithmetic α] : PricePolicy α where
  retirementAge := 3
  retiringSoonFactor := 1.08
  freshlyRetiredFactor := 1.30
  longRetiredFactor := 1.10
  fadingYears := 4.0
  presumedRetiredFactor := 1.15
  demandSpread := 0.15
  credibleMultiple := 1.5
  themeFactor := 1.05
  cheapPartCents := 8.0
  dearPartCents := 15.0
  leastMargin := 0.10
  greatestMargin := 0.50

end Appraisal
