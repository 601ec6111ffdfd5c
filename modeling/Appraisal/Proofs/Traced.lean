import Appraisal.Gathering.Sources
import Mathlib.Tactic.Common

/-!
# Traced computations

How a traced computation ends and what it asked, step by step. A step that fails is the last one;
the steps after it ask nothing.
-/

namespace Appraisal.Traced
variable {β γ : Type}

@[simp]
lemma result_pure (a : β) : (pure a : Traced β).result = .ok a := rfl

@[simp]
lemma result_request (call : Call) (result : Except Failure β) :
    (request call result).result = result := rfl

@[simp]
lemma result_fail (e : Failure) : (fail e : Traced β).result = .error e := rfl

@[simp]
lemma result_lift (result : Except Failure β) : (lift result).result = result := rfl

@[simp]
lemma result_bind (x : Traced β) (f : β → Traced γ) :
    (x >>= f).result = x.result.bind fun a => (f a).result := by
  cases h : x.result with
  | error e => simp [Bind.bind, h, Except.bind]
  | ok a => simp [Bind.bind, h, Except.bind]

@[simp]
lemma calls_pure (a : β) : (pure a : Traced β).calls = [] := rfl

@[simp]
lemma calls_request (call : Call) (result : Except Failure β) :
    (request call result).calls = [call] := rfl

@[simp]
lemma calls_fail (e : Failure) : (fail e : Traced β).calls = [] := rfl

@[simp]
lemma calls_lift (result : Except Failure β) : (lift result).calls = [] := rfl

lemma calls_bind_of_ok {x : Traced β} {a : β} (h : x.result = .ok a) (f : β → Traced γ) :
    (x >>= f).calls = x.calls ++ (f a).calls := by
  simp [Bind.bind, h]

lemma calls_bind_of_error {x : Traced β} {e : Failure} (h : x.result = .error e) (f : β → Traced γ) :
    (x >>= f).calls = x.calls := by
  simp [Bind.bind, h]

end Appraisal.Traced
