import Appraisal.Evidence.Basic
import Appraisal.NumberText
import Appraisal.Scoring.Scorecard
import Appraisal.Text.Lowercase
import Appraisal.Text.Blank

/-!
# Quality

Star rating, authenticity of the brand, and what the catalog knows about the set.
-/

namespace Appraisal.Quality
open NumberText

variable {α : Type} [Arithmetic α]

def ratingWeight : α := 0.50

def brandWeight : α := 0.30

def metadataWeight : α := 0.20

/-- What a believable distribution of stars adds to the rating. -/
def believableBonus : α := 5.0

def formula : String := "0.50×rating + 0.30×brand + 0.20×metadata"

/-- Themes for which collectors pay more. -/
def collectorThemes : List String :=
  ["star wars", "technic", "creator expert", "icons", "ideas", "harry potter", "architecture",
    "marvel", "ultimate collector series", "modular buildings"]

def namelessBrands : List String :=
  ["generic", "no brand", "unbranded", "oem", "other", "unknown"]

/-- The text without blanks around it and in lowercase. -/
def folded (s : String) : List Char := Text.lower (Text.trim s.toList)

def isCollectorTheme (theme : String) : Bool :=
  collectorThemes.any fun premium => Text.occursIn premium.toList (folded theme)

/-- The factor for the rating: few reviews prove little. -/
def reviewFactor : Option UInt32 → α
  | none => 0.9
  | some n =>
    if n < 5 then 0.7
    else if n < 20 then 0.85
    else if n < 50 then 0.95
    else 1.0

/-- More than one level of stars is used, and not nearly all reviews give five. The share of five
stars is a quotient in `α`. -/
def isBelievable (α : Type) [Arithmetic α] (stars : StarCounts) : Checked Bool := do
  let total ← stars.total
  if total = 0 then return false
  else
    let fiveShare : α := Arithmetic.ofNat stars.five.toNat / Arithmetic.ofNat total.toNat
    return 2 ≤ stars.toList.countP (0 < ·) && fiveShare < 0.95

/-- What the distribution of stars says about the reviews. -/
inductive ReviewPattern where
  | believable
  /-- There are enough reviews to doubt that their distribution is natural. -/
  | suspicious
  | scarce
  deriving DecidableEq

def reviewPattern (α : Type) [Arithmetic α] (stars : StarCounts) : Checked ReviewPattern := do
  if ← isBelievable α stars then return .believable
  else if 10 ≤ (← stars.total) then return .suspicious
  else return .scarce

/-- The pattern of the reviews behind a rating. -/
def reviews (e : QualityEvidence α) : Checked (Option ReviewPattern) :=
  match e.rating, e.ratingDistribution with
  | some _, some stars => (reviewPattern α stars).map some
  | _, _ => return none

/-- How a brand compares with the one that is expected. -/
inductive BrandMatch where
  | official
  /-- The expected brand is a part of the name. -/
  | reference
  | generic
  | thirdParty
  deriving DecidableEq

def matchBrand (brand expected : String) : BrandMatch :=
  let found := folded brand
  let sought := folded expected
  if found = sought then .official
  else if !sought.isEmpty && Text.occursIn sought found then .reference
  else if found.isEmpty || namelessBrands.contains (String.ofList found) then .generic
  else .thirdParty

def BrandMatch.score : BrandMatch → α
  | official => 100.0
  | reference => 75.0
  | generic => 10.0
  | thirdParty => 35.0

def BrandMatch.reason (brand expected : String) : BrandMatch → String
  | official => s!"Official {expected} product"
  | reference => s!"Brand '{brand}' references {expected}"
  | generic => "Generic or unknown brand"
  | thirdParty => s!"Third-party brand '{brand}'"

def ratingPercent (rating : α) : α := rating / 5.0 * 100.0

/-- The rating, less for few reviews and more for a believable distribution. -/
def ratingScore (e : QualityEvidence α) (pattern : Option ReviewPattern) (rating : α) : α :=
  let score := ratingPercent rating * reviewFactor e.reviewCount
  if pattern = some .believable then score + believableBonus else score

/-- The catalog completes a set with a theme, a parts count, and a theme that sells. -/
def metadataScore (e : QualityEvidence α) : α :=
  let forTheme : α :=
    match e.theme with
    | some theme => if isCollectorTheme theme then 0.0 + 50.0 + 20.0 else 0.0 + 50.0
    | none => 0.0
  if e.partsCount.isSome then forTheme + 30.0 else forTheme

variable [NumberText α]

def ratingText (e : QualityEvidence α) (pattern : Option ReviewPattern) (rating : α) : String :=
  let percent := tenths (ratingPercent rating)
  let factor : α := reviewFactor e.reviewCount
  s!"{tenths rating}/5 → {percent} × reviews {hundredths factor}" ++
    if pattern = some .believable then
      s!" + {plain (believableBonus : α)} realistic distribution"
    else ""

def ratingReason (e : QualityEvidence α) (pattern : Option ReviewPattern) (rating : α) : String :=
  s!"Rated {tenths rating}/5" ++
    (match e.reviewCount with
    | some n => s!" from {n} reviews"
    | none => "") ++
    if pattern = some .suspicious then
      " (uniform rating distribution, possible review manipulation)"
    else ""

def ratingEntries (e : QualityEvidence α) (pattern : Option ReviewPattern) (rating : α) : Scorecard α :=
  let reason := ratingReason e pattern rating
  [ .reason reason,
    .dataPoint "rating" (.number rating),
    .component {
      name := "rating"
      weight := ratingWeight
      score := ratingScore e pattern rating
      raw := .number rating
      calculation := ratingText e pattern rating
      reasoning := reason } ]

def brandEntries (expected brand : String) : Scorecard α :=
  let found := matchBrand brand expected
  let score : α := found.score
  let reason := found.reason brand expected
  [ .reason reason,
    .component {
      name := "brand"
      weight := brandWeight
      score
      raw := .string brand
      calculation := s!"brand '{brand}' vs '{expected}' → {plain score}"
      reasoning := reason } ]

omit [Arithmetic α] [NumberText α] in
def metadataParts (e : QualityEvidence α) : List String :=
  [ e.theme.map fun theme =>
      if isCollectorTheme theme then s!"premium theme {theme}" else s!"theme {theme}",
    e.partsCount.map fun count => s!"{count} pieces" ].filterMap id

def metadataEntries (e : QualityEvidence α) : Scorecard α :=
  if e.theme.isSome || e.partsCount.isSome then
    let reason := "Catalog: " ++ ", ".intercalate (metadataParts e)
    [ .reason reason,
      .component {
        name := "metadata"
        weight := metadataWeight
        score := metadataScore e
        raw := .object [
          ("parts_count", .ofOption (fun n => .nat n.toNat) e.partsCount),
          ("theme", .ofOption .string e.theme)]
        calculation := "theme 50 + parts_count 30 + premium theme 20"
        reasoning := reason } ]
  else []

omit [Arithmetic α] [NumberText α] in
/-- The inputs of the analysis, and which of them are there. -/
def slotEntries (e : QualityEvidence α) : Scorecard α :=
  [ .slot "rating" e.rating.isSome,
    .slot "review_count" e.reviewCount.isSome,
    .slot "brand" e.brand.isSome,
    .slot "theme" e.theme.isSome,
    .slot "parts_count" e.partsCount.isSome ]

def card (expectedBrand : String) (e : QualityEvidence α) (pattern : Option ReviewPattern) : Scorecard α :=
  slotEntries e ++ Scorecard.given e.rating (ratingEntries e pattern) ++
    Scorecard.given e.brand (brandEntries expectedBrand) ++ metadataEntries e

def score? (expectedBrand : String) (e : QualityEvidence α) : Checked (Option (Score α)) := do
  return (card expectedBrand e (← reviews e)).toScore? formula

end Appraisal.Quality
