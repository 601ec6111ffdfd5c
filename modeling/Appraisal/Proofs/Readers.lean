import Mathlib.Data.List.TakeWhile
import Mathlib.Tactic.Common

/-!
# Readers

What the steps of a reader do to an input of which enough is known.
-/

namespace Appraisal.Readers
variable {σ β γ : Type}

lemma bind_apply {r : StateT σ Option β} {s t : σ} {x : β} (h : r s = some (x, t))
    (f : β → StateT σ Option γ) : (r >>= f) s = f x t := by
  change (r s).bind (fun found => f found.1 found.2) = _
  rw [h]
  rfl

end Appraisal.Readers
