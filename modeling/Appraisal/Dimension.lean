import Appraisal.Named

/-!
# Dimensions

The axes on which a product is scored, each independent of the others.
-/

namespace Appraisal

inductive Dimension where
  | demand
  | availability
  | quality
  deriving DecidableEq

namespace Dimension

protected def name : Dimension → String
  | demand => "demand"
  | availability => "availability"
  | quality => "quality"

/-- The name at the start of a sentence. -/
def label : Dimension → String
  | demand => "Demand"
  | availability => "Availability"
  | quality => "Quality"

instance : Named Dimension where
  all := [demand, availability, quality]
  name := Dimension.name

def parse : String → Except String Dimension := Named.parse "dimension" []

/-- The place in the usual order. -/
def rank : Dimension → Nat
  | demand => 0
  | availability => 1
  | quality => 2

end Dimension

/-- One value for each dimension. -/
structure PerDimension (β : Type) where
  demand : β
  availability : β
  quality : β
  deriving DecidableEq

namespace PerDimension
variable {β : Type}

def get (p : PerDimension β) : Dimension → β
  | .demand => p.demand
  | .availability => p.availability
  | .quality => p.quality

def set (p : PerDimension β) (d : Dimension) (x : β) : PerDimension β :=
  match d with
  | .demand => { p with demand := x }
  | .availability => { p with availability := x }
  | .quality => { p with quality := x }

theorem get_none (d : Dimension) : (⟨none, none, none⟩ : PerDimension (Option β)).get d = none := by
  cases d <;> rfl

theorem get_set (p : PerDimension β) (d other : Dimension) (x : β) :
    (p.set d x).get other = if other = d then x else p.get other := by
  cases d <;> cases other <;> rfl

/-- Of several values for one dimension the last one stays. -/
theorem get_foldl_set {γ : Type} (dimension : γ → Dimension) (value : γ → β) (entries : List γ)
    (start : PerDimension β) (d : Dimension) :
    (entries.foldl (fun p entry => p.set (dimension entry) (value entry)) start).get d =
      ((entries.reverse.find? fun entry => dimension entry = d).map value).getD (start.get d) := by
  induction entries generalizing start with
  | nil => rfl
  | cons entry rest ih =>
    rw [List.foldl_cons, ih, get_set, List.reverse_cons, List.find?_append]
    cases rest.reverse.find? fun entry => dimension entry = d with
    | some last => rfl
    | none =>
      by_cases h : dimension entry = d
      · simp [h]
      · simp [h, Ne.symm h]

/-- The values that are there, with their dimensions, in the usual order. -/
def present (p : PerDimension (Option β)) : List (Dimension × β) :=
  Named.all.filterMap fun d => (p.get d).map fun x => (d, x)

/-- The dimensions without a value, in the usual order. -/
def missing (p : PerDimension (Option β)) : List Dimension :=
  Named.all.filter fun d => (p.get d).isNone

end PerDimension
end Appraisal
