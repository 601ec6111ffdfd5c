import Appraisal.Document.Values
import Appraisal.Scoring.Score

/-!
# Documents of scores

How scores stand in documents. Parts that a score does not have are left out.
-/

namespace Appraisal
open Json Json.Decode

variable {α : Type}

namespace Keyed

def toJson {β : Type} (encode : β → Json α) (m : Keyed β) : Json α :=
  .object (m.entries.map fun (key, value) => (key, encode value))

def ofJson? {β : Type} (decode : Json α → Option β) : Json α → Option (Keyed β)
  | .object members => do
    let entries ← members.mapM fun (key, value) => do return (key, ← decode value)
    return .ofList entries
  | _ => none

end Keyed

variable [Arithmetic α]

namespace Component

def toJson (c : Component α) : Json α := .object [
  ("name", .string c.name),
  ("weight", .number c.weight),
  ("score", .number c.score),
  ("raw_value", c.raw),
  ("calculation", .string c.calculation),
  ("reasoning", .string c.reasoning)]

def ofJson? : Json α → Option (Component α) := decodeStructure do
  return {
    name := ← required "name" string?
    weight := ← required "weight" number?
    score := ← required "score" number?
    raw := ← defaulted "raw_value" .null some
    calculation := ← required "calculation" string?
    reasoning := ← required "reasoning" string? }

end Component

namespace Breakdown

def rangeToJson (range : α × α) : Json α := .array [.number range.1, .number range.2]

def rangeOfJson? (j : Json α) : Option (α × α) := do
  match ← j.list? number? with
  | [low, high] => return (low, high)
  | _ => failure

def toJson (b : Breakdown α) : Json α := .object (
  [ ("components", .list Component.toJson b.components),
    ("formula", .string b.formula),
    ("total", .number b.total) ] ++
  member? "multiplier" .number b.multiplier ++
  member? "multiplier_range" rangeToJson b.multiplierRange ++
  member? "multiplier_formula" .string b.multiplierFormula ++
  [("missing_data", .strings b.missingData)])

def ofJson? : Json α → Option (Breakdown α) := decodeStructure do
  return {
    components := ← required "components" (list? Component.ofJson?)
    formula := ← required "formula" string?
    total := ← required "total" number?
    multiplier := ← optional "multiplier" number?
    multiplierRange := ← optional "multiplier_range" rangeOfJson?
    multiplierFormula := ← optional "multiplier_formula" string?
    missingData := ← defaulted "missing_data" [] (list? string?) }

end Breakdown

namespace Score

def toJson (s : Score α) : Json α := .object (
  [ ("value", .number s.value),
    ("confidence", .number s.confidence),
    ("reasoning", .string s.reasoning),
    ("data_points", s.dataPoints.toJson id) ] ++
  member? "breakdown" Breakdown.toJson s.breakdown)

def ofJson? : Json α → Option (Score α) := decodeStructure do
  return {
    value := ← required "value" number?
    confidence := ← required "confidence" number?
    reasoning := ← required "reasoning" string?
    dataPoints := ← defaulted "data_points" .empty (Keyed.ofJson? some)
    breakdown := ← optional "breakdown" Breakdown.ofJson? }

end Score

namespace Scores

def toJson (s : Scores α) : Json α := .object [
  ("demand", .ofOption Score.toJson s.demand),
  ("availability", .ofOption Score.toJson s.availability),
  ("quality", .ofOption Score.toJson s.quality)]

def ofJson? : Json α → Option (Scores α) := decodeStructure do
  return {
    demand := ← optionalNamed "demand" Score.ofJson?
    availability := ← optionalNamed "availability" Score.ofJson?
    quality := ← optionalNamed "quality" Score.ofJson? }

end Scores
end Appraisal
