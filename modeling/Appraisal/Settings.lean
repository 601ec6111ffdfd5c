import Appraisal.Calendar.Reader
import Appraisal.Recommendation.Engine

/-!
# Settings

What a session is set up with, read from the environment of the program.
-/

namespace Appraisal

structure Settings where
  database : String := "./brickscout.db"
  /-- For requests that name no strategy. -/
  defaultStrategy : String := "Investment Focus"
  /-- The brand that counts as authentic. -/
  expectedBrand : String := "LEGO"
  /-- After so many years a set counts as retired when nothing else is known. -/
  retirementAge : Int32 := 3
  /-- The day on which everything is judged, unless that is today. -/
  asOf : Option Date := none
  deriving DecidableEq

namespace Settings

def readInt? (cs : List Char) : Option Int :=
  let digits? (cs : List Char) : Option Nat :=
    if cs.isEmpty || !cs.all Char.isDigit then none else some (Calendar.Reader.numberOf cs)
  match cs with
  | '-' :: rest => (digits? rest).map fun n => -(n : Int)
  | '+' :: rest => (digits? rest).map fun n => (n : Int)
  | _ => (digits? cs).map fun n => (n : Int)

def readInt32? (s : String) : Option Int32 := do
  let n ← readInt? (Text.trim s.toList)
  if Int32.minValue.toInt ≤ n ∧ n ≤ Int32.maxValue.toInt then some (Int32.ofInt n) else none

def readDate? (s : String) : Option Date :=
  Date.readStrict? (String.ofList (Text.trim s.toList))

/-- The keys under which an environment holds settings. -/
def keys : List String :=
  ["BRICKSCOUT_DB", "BRICKSCOUT_STRATEGY", "BRICKSCOUT_BRAND", "BRICKSCOUT_RETIREMENT_AGE",
    "BRICKSCOUT_AS_OF"]

/-- The settings of an environment. A value that cannot be read, or is blank, is passed over. -/
def ofEnvironment (lookup : String → Option String) : Settings :=
  let text (key usual : String) : String :=
    ((lookup key).filter fun v => !Text.isBlankText v).getD usual
  let usual : Settings := {}
  { database := text "BRICKSCOUT_DB" usual.database
    defaultStrategy := text "BRICKSCOUT_STRATEGY" usual.defaultStrategy
    expectedBrand := text "BRICKSCOUT_BRAND" usual.expectedBrand
    retirementAge := (lookup "BRICKSCOUT_RETIREMENT_AGE" >>= readInt32?).getD usual.retirementAge
    asOf := lookup "BRICKSCOUT_AS_OF" >>= readDate? }

/-- Settings need a known strategy, a positive age and a brand. -/
def validate (α : Type) [Arithmetic α] [NumberText α] (s : Settings) : Except Failure Unit := do
  discard ((Registry.builtIn : Registry α).get s.defaultStrategy)
  if s.retirementAge ≤ 0 then throw (.invalid "retirement age must be greater than 0")
  if Text.isBlankText s.expectedBrand then throw (.invalid "expected brand must not be empty")

end Settings

/-- The engine of a session that reads from `sources` on the day `today`. Its queue, if it has one,
takes every report. -/
def Engine.ofSettings {α : Type} [Arithmetic α] [NumberText α] (s : Settings) (today : Date)
    (sources : Sources α) (hasQueue : Bool) : Engine α where
  gatherer := { sources, queue := if hasQueue then some fun _ => .ok () else none, asOf := s.asOf.getD today }
  analyzers := Analyzer.standard s.expectedBrand
  policy := { PricePolicy.standard with retirementAge := s.retirementAge }
  registry := .builtIn
  defaultStrategy := s.defaultStrategy

end Appraisal
