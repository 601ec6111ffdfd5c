import Appraisal.Proofs.NormalNames
import Mathlib.Data.List.Induction

/-!
# Runs of a registry

Strategies are registered and looked up in any order. The registry keeps the last registration of each normal name,
in the order in which these were made, and a lookup finds what was registered last under the normal form of the name
it is given.
-/

namespace Appraisal
namespace Registry
variable {α : Type}

inductive Step (α : Type) where
  | register (s : Strategy α)
  | get (name : String)

/-- The registry after a step, with the answer when the step asks for one. -/
def perform (r : Registry α) : Step α → Registry α × Option (Except Failure (Strategy α))
  | .register s => (r.register s, none)
  | .get name => (r, some (r.get name))

def after (r : Registry α) (steps : List (Step α)) : Registry α := steps.foldl (fun r step => (r.perform step).1) r

/-- The answers to the lookups of a run, in order. -/
def answers (r : Registry α) : List (Step α) → List (Except Failure (Strategy α))
  | [] => []
  | step :: rest => (r.perform step).2.toList ++ answers (r.perform step).1 rest

/-- What is registered in a run, in order. -/
def registrations (steps : List (Step α)) : List (Strategy α) :=
  steps.filterMap fun
    | .register s => some s
    | .get _ => none

/-- The registrations that no later one under the same normal name replaces. -/
def latest : List (Strategy α) → List (Strategy α)
  | [] => []
  | s :: later =>
    if ∃ t ∈ later, normalized t.name = normalized s.name then latest later else s :: latest later

/-- The last registration under the normal form of a name, or a failure with the name as it is given. -/
def answerFrom (history : List (Strategy α)) (name : String) : Except Failure (Strategy α) :=
  match history.reverse.find? (normalized ·.name = normalized name) with
  | some s => .ok s
  | none => .error (.unknownStrategy name ((latest history).map (·.name)))

/-- The lookups of a run, each answered from what is registered before it. -/
def answersFrom (history : List (Strategy α)) : List (Step α) → List (Except Failure (Strategy α))
  | [] => []
  | .register s :: rest => answersFrom (history ++ [s]) rest
  | .get name :: rest => answerFrom history name :: answersFrom history rest

/-- The registry holds the last registration under each normal name of a history, and finds it by any such name. -/
structure KeepsLatest (r : Registry α) (history : List (Strategy α)) : Prop where
  distinct : (r.names.map normalized).Nodup
  inOrder : r.strategies = latest history
  finds : ∀ name, r.get name = answerFrom history name
  alike : ∀ a b, nameParts a = nameParts b →
    (∃ s, r.get a = .ok s ∧ r.get b = .ok s) ∨
      r.get a = .error (.unknownStrategy a r.names) ∧ r.get b = .error (.unknownStrategy b r.names)

variable {r : Registry α} {s : Strategy α} {history : List (Strategy α)}

lemma mem_of_mem_latest (h : s ∈ latest history) : s ∈ history := by
  induction history with
  | nil => exact h
  | cons t later ih =>
    rw [latest] at h
    split at h
    · exact List.mem_cons_of_mem t (ih h)
    · rcases List.mem_cons.mp h with rfl | h
      · exact List.mem_cons_self
      · exact List.mem_cons_of_mem t (ih h)

lemma nodup_names_latest (history : List (Strategy α)) :
    ((latest history).map fun s => normalized s.name).Nodup := by
  induction history with
  | nil => exact List.nodup_nil
  | cons s later ih =>
    rw [latest]
    split
    · exact ih
    · next hnone =>
      rw [List.map_cons, List.nodup_cons]
      refine ⟨?_, ih⟩
      intro hmem
      obtain ⟨t, ht, hsame⟩ := List.mem_map.mp hmem
      exact hnone ⟨t, mem_of_mem_latest ht, hsame⟩

/-- One more registration drops what was kept under its name and goes last. -/
lemma latest_append_singleton (history : List (Strategy α)) (s : Strategy α) :
    latest (history ++ [s]) = (latest history).filter (fun t => normalized t.name ≠ normalized s.name) ++ [s] := by
  induction history with
  | nil => simp [latest]
  | cons t later ih =>
    rw [List.cons_append, latest, latest]
    by_cases hs : normalized t.name = normalized s.name
    · have hreplaced : ∃ u ∈ later ++ [s], normalized u.name = normalized t.name :=
        ⟨s, List.mem_append_right later List.mem_cons_self, hs.symm⟩
      rw [if_pos hreplaced, ih]
      split <;> simp [hs]
    · have hiff : (∃ u ∈ later ++ [s], normalized u.name = normalized t.name) ↔
          ∃ u ∈ later, normalized u.name = normalized t.name := by
        simp [or_and_right, exists_or, Ne.symm hs]
      simp only [hiff, ih]
      split <;> simp [hs]

/-- A search from the end of a history and one through what is kept of it find the same. -/
lemma find?_latest (history : List (Strategy α)) (name : String) :
    (latest history).find? (normalized ·.name = normalized name) =
      history.reverse.find? (normalized ·.name = normalized name) := by
  induction history using List.reverseRecOn with
  | nil => rfl
  | append_singleton earlier s ih =>
    rw [latest_append_singleton, List.find?_append, List.reverse_append, List.reverse_singleton, List.singleton_append]
    by_cases hname : normalized s.name = normalized name
    · have hgone : ((latest earlier).filter fun t => normalized t.name ≠ normalized s.name).find?
          (normalized ·.name = normalized name) = none := by
        rw [List.find?_eq_none]
        intro t ht
        simpa [hname] using (List.mem_filter.mp ht).2
      rw [hgone]
      simp [hname]
    · -- Registered under another name, `s` replaces nothing that is looked for.
      have hkept (t : Strategy α) : normalized t.name ≠ normalized s.name ∧ normalized t.name = normalized name ↔
          normalized t.name = normalized name := by
        rw [and_iff_right_iff_imp]
        intro hsame hs
        exact hname (hs.symm.trans hsame)
      rw [List.find?_filter]
      simp [hkept, hname, ih]

lemma get_eq (r : Registry α) (name : String) : r.get name =
    match r.strategies.find? (normalized ·.name = normalized name) with
    | some s => .ok s
    | none => .error (.unknownStrategy name r.names) := by
  cases hfound : r.strategies.find? (normalized ·.name = normalized name) <;> simp [get, sameName_eq_decide, hfound]

lemma get_alike (r : Registry α) {a b : String} (h : nameParts a = nameParts b) :
    (∃ s, r.get a = .ok s ∧ r.get b = .ok s) ∨
      r.get a = .error (.unknownStrategy a r.names) ∧ r.get b = .error (.unknownStrategy b r.names) := by
  have hsame : normalized a = normalized b := by
    rw [normalized_inj, nameWords_eq_nameParts, nameWords_eq_nameParts, h]
  rw [get_eq, get_eq, hsame]
  cases r.strategies.find? (normalized ·.name = normalized b) with
  | some s => exact .inl ⟨s, rfl, rfl⟩
  | none => exact .inr ⟨rfl, rfl⟩

lemma keepsLatest_of_strategies (h : r.strategies = latest history) : r.KeepsLatest history where
  distinct := by
    rw [names, h, List.map_map]
    exact nodup_names_latest history
  inOrder := h
  finds := by
    intro name
    rw [get_eq, answerFrom, names, h, find?_latest]
  alike := fun _ _ => r.get_alike

lemma KeepsLatest.register (h : r.KeepsLatest history) (s : Strategy α) :
    (r.register s).KeepsLatest (history ++ [s]) := by
  apply keepsLatest_of_strategies
  rw [latest_append_singleton, ← h.inOrder, Registry.register]
  simp [sameName_eq_decide]

/-- The registry of a run is that of its history at every step, and so are the answers. -/
lemma KeepsLatest.run (h : r.KeepsLatest history) (steps : List (Step α)) :
    (r.after steps).KeepsLatest (history ++ registrations steps) ∧ r.answers steps = answersFrom history steps := by
  induction steps generalizing r history with
  | nil =>
    rw [registrations, List.filterMap_nil, List.append_nil]
    exact ⟨h, rfl⟩
  | cons step rest ih =>
    cases step with
    | register s =>
      obtain ⟨hafter, hanswers⟩ := ih (h.register s)
      rw [List.append_assoc] at hafter
      exact ⟨hafter, hanswers⟩
    | get name =>
      obtain ⟨hafter, hanswers⟩ := ih h
      refine ⟨hafter, ?_⟩
      rw [answersFrom, ← h.finds, ← hanswers]
      rfl

lemma after_eq_foldl_register (r : Registry α) (steps : List (Step α)) :
    r.after steps = (registrations steps).foldl register r := by
  induction steps generalizing r with
  | nil => rfl
  | cons step rest ih => cases step <;> exact ih _

lemma empty_keepsLatest : (empty : Registry α).KeepsLatest [] := keepsLatest_of_strategies rfl

variable [Arithmetic α] [NumberText α]

/-- The strategies that are at hand without a registration. -/
def atHand : List (Strategy α) := [.investmentFocus, .bargainHunter, .quickFlip]

lemma builtIn_keepsLatest : (builtIn : Registry α).KeepsLatest atHand :=
  ((empty_keepsLatest.register .investmentFocus).register .bargainHunter).register .quickFlip

/-- Whatever is registered and looked up, and in whatever order, the registry holds the last registration under each
normal name, in the order in which these were made, and every lookup finds the last registration before it under the
name. The lookups leave no trace. -/
theorem run_keepsLatest (steps : List (Step α)) :
    ((empty : Registry α).after steps).KeepsLatest (registrations steps) ∧
    (empty : Registry α).answers steps = answersFrom [] steps ∧
    ((builtIn : Registry α).after steps).KeepsLatest (atHand ++ registrations steps) ∧
    (builtIn : Registry α).answers steps = answersFrom atHand steps ∧
    ∀ r : Registry α, r.after steps = (registrations steps).foldl register r := by
  obtain ⟨hempty, hanswers⟩ := empty_keepsLatest.run steps
  obtain ⟨hbuiltIn, hfirst⟩ := builtIn_keepsLatest.run steps
  refine ⟨hempty, hanswers, hbuiltIn, hfirst, ?_⟩
  intro r
  exact r.after_eq_foldl_register steps

end Registry
end Appraisal
