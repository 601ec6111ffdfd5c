import Appraisal.Scoring.Score

/-!
# Scorecards

An analysis writes down what it looked at and what it found, entry by entry. The score follows from
the entries: the weighted sum of the components, and the share of the inputs that were there as
confidence. A component that was not written is not made up for by the others.
-/

namespace Appraisal

/-- One line of a scorecard. -/
inductive Entry (α : Type) where
  /-- An input that the analysis looks at, and whether it is there. -/
  | slot (name : String) (present : Bool)
  /-- A part of the score; its own score may still lie outside of 0 to 100. -/
  | component (part : Component α)
  /-- A reason worth telling. -/
  | reason (text : String)
  | dataPoint (key : String) (value : Json α)

/-- The entries of one analysis, in order. -/
abbrev Scorecard (α : Type) := List (Entry α)

namespace Scorecard
variable {α : Type} [Arithmetic α]

/-- The entries that a value gives rise to, if it is there. -/
def given {β : Type} (x : Option β) (entries : β → Scorecard α) : Scorecard α := x.elim [] entries

def slots (card : Scorecard α) : List (String × Bool) :=
  card.filterMap fun
    | .slot name present => some (name, present)
    | _ => none

/-- The names of the inputs that are not there. -/
def missing (card : Scorecard α) : List String :=
  card.slots.filterMap fun (name, present) => if present then none else some name

/-- A component with its score moved into 0 to 100. -/
def bounded (part : Component α) : Component α :=
  { part with score := Arithmetic.clamp 0.0 100.0 part.score }

def components (card : Scorecard α) : List (Component α) :=
  card.filterMap fun
    | .component part => some (bounded part)
    | _ => none

def reasons (card : Scorecard α) : List String :=
  card.filterMap fun
    | .reason text => some text
    | _ => none

/-- The data points; of two with one key the later one counts. -/
def dataPoints (card : Scorecard α) : Keyed (Json α) :=
  .ofList <| card.filterMap fun
    | .dataPoint key value => some (key, value)
    | _ => none

/-- The share of the inputs that are there. -/
def confidence (card : Scorecard α) : α :=
  let slots := card.slots
  if slots.isEmpty then 0.0
  else Arithmetic.ofNat (slots.countP (·.2)) / Arithmetic.ofNat slots.length

def total (card : Scorecard α) : α :=
  Arithmetic.sum (card.components.map fun part => part.weight * part.score)

/-- The reasons, or when there are none, what the components have to say. -/
def reasoning (card : Scorecard α) : String :=
  let reasons := card.reasons
  "; ".intercalate (if reasons.isEmpty then card.components.map (·.reasoning) else reasons)

/-- The score of a card. Without a component there is none. -/
def toScore? (card : Scorecard α) (formula : String) : Option (Score α) :=
  if card.components.isEmpty then none
  else
    some { Score.of card.total card.confidence card.reasoning with
      dataPoints := card.dataPoints
      breakdown := some {
        components := card.components
        formula
        total := Arithmetic.round card.total
        missingData := card.missing } }

end Scorecard
end Appraisal
