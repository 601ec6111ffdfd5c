import Appraisal.Failure
import Appraisal.Strategy.BuiltIn
import Appraisal.Text.Blank

/-!
# Registry of strategies

Strategies are found by name. Letter case does not matter, nor how the words of a name are
separated.
-/

namespace Appraisal

structure Registry (α : Type) where
  strategies : List (Strategy α)

namespace Registry
variable {α : Type}

/-- What stands between words. -/
def separator (c : Char) : Char := if c = '-' ∨ c = '_' then ' ' else c

/-- The words by which a name is recognized. -/
def nameWords (name : String) : List (List Char) :=
  Text.words ((Text.lower (Text.trim name.toList)).map separator)

def sameName (a b : String) : Bool := nameWords a == nameWords b

def empty : Registry α := ⟨[]⟩

/-- Adds a strategy at the end; one with the same name gives way. -/
def register (r : Registry α) (s : Strategy α) : Registry α :=
  ⟨r.strategies.filter (fun other => !sameName other.name s.name) ++ [s]⟩

def names (r : Registry α) : List String := r.strategies.map (·.name)

def get (r : Registry α) (name : String) : Except Failure (Strategy α) :=
  match r.strategies.find? fun s => sameName s.name name with
  | some s => .ok s
  | none => .error (.unknownStrategy name r.names)

def builtIn [Arithmetic α] [NumberText α] : Registry α :=
  ((empty.register Strategy.investmentFocus).register Strategy.bargainHunter).register
    Strategy.quickFlip

theorem mem_register {r : Registry α} {s t : Strategy α} (h : t ∈ (r.register s).strategies) :
    t ∈ r.strategies ∨ t = s := by
  rcases List.mem_append.mp h with hmem | hmem
  · exact .inl (List.mem_filter.mp hmem).1
  · exact .inr (List.mem_singleton.mp hmem)

theorem quickFlip_mem_builtIn [Arithmetic α] [NumberText α] :
    Strategy.quickFlip ∈ (builtIn : Registry α).strategies :=
  List.mem_append_right _ (List.mem_singleton_self _)

theorem mem_builtIn [Arithmetic α] [NumberText α] {s : Strategy α} (h : s ∈ (builtIn : Registry α).strategies) :
    s = Strategy.investmentFocus ∨ s = Strategy.bargainHunter ∨ s = Strategy.quickFlip := by
  rcases mem_register h with h | rfl
  · rcases mem_register h with h | rfl
    · rcases mem_register h with h | rfl
      · cases h
      · exact .inl rfl
    · exact .inr (.inl rfl)
  · exact .inr (.inr rfl)

end Registry
end Appraisal
