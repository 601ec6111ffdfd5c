import Appraisal.Verdict.Basic

/-!
# Strategies

A strategy weighs the dimensions, sets the thresholds for its verdicts, and may make something else of the verdict
that these figures give. The usual way is to tell a story on top of it, which changes none of its numbers.
-/

namespace Appraisal

/-- What a story adds to a verdict. -/
structure Narrative (α : Type) where
  estimatedReturn : Option α := none
  timeHorizon : Option String := none
  risk : Option String := none
  opportunity : Option String := none

/-- The verdict with a story on top. -/
def Narrative.tell {α : Type} (story : Narrative α) (base : Verdict α) : Verdict α :=
  { base with
    estimatedReturn := story.estimatedReturn
    timeHorizon := story.timeHorizon
    risks := base.risks ++ story.risk.toList
    opportunities := base.opportunities ++ story.opportunity.toList }

/-- A way to choose what to buy. -/
structure Strategy (α : Type) where
  name : String
  description : String
  weights : Weights α
  actions : ActionLevels α
  urgencies : UrgencyLevels α
  /-- The discount below the intrinsic value that a purchase needs. -/
  margin : α
  /-- What becomes of the verdict that the figures give for some scores. -/
  narrative : Scores α → Verdict α → Verdict α

namespace Strategy
variable {α : Type} [Arithmetic α] [NumberText α]

/-- The verdict that the figures give. -/
def baseVerdict (s : Strategy α) (scores : Scores α) : Verdict α :=
  Verdict.read s.weights s.actions s.urgencies scores

def interpret (s : Strategy α) (scores : Scores α) : Verdict α :=
  s.narrative scores (s.baseVerdict scores)

omit [Arithmetic α] [NumberText α] in
/-- Leaves the verdict as it is. -/
def silent (_scores : Scores α) (base : Verdict α) : Verdict α := base

omit [Arithmetic α] [NumberText α] in
/-- Tells a story about the scores and their overall value. -/
def telling (story : Scores α → α → Narrative α) (scores : Scores α) (base : Verdict α) : Verdict α :=
  (story scores base.overall.value).tell base

end Strategy
end Appraisal
