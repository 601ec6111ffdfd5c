/-!
# Checked computations

Integers of a fixed width are added, subtracted and negated exactly or not at all. A result that does not fit aborts
the computation and everything that waits for it: there is no value and no failure to report.
-/

namespace Appraisal

/-- What a computation comes to. -/
inductive Checked (β : Type) where
  | value (b : β)
  | aborted
  deriving DecidableEq

namespace Checked
variable {β γ : Type}

def map (f : β → γ) : Checked β → Checked γ
  | value b => value (f b)
  | aborted => aborted

instance : Monad Checked where
  pure := value
  map := map
  bind
    | value b, f => f b
    | aborted, _ => aborted

def sub (a b : Int32) : Checked Int32 :=
  if (a - b).toInt = a.toInt - b.toInt then value (a - b) else aborted

def neg (a : Int64) : Checked Int64 :=
  if (-a).toInt = -a.toInt then value (-a) else aborted

def add (a b : UInt32) : Checked UInt32 :=
  if (a + b).toNat = a.toNat + b.toNat then value (a + b) else aborted

def sum (xs : List UInt32) : Checked UInt32 := xs.foldlM add 0

@[simp]
theorem pure_eq (b : β) : (pure b : Checked β) = value b := rfl

@[simp]
theorem value_bind (b : β) (f : β → Checked γ) : value b >>= f = f b := rfl

@[simp]
theorem aborted_bind (f : β → Checked γ) : (aborted : Checked β) >>= f = aborted := rfl

@[simp]
theorem map_value (f : β → γ) (b : β) : (value b).map f = value (f b) := rfl

@[simp]
theorem map_aborted (f : β → γ) : (aborted : Checked β).map f = aborted := rfl

theorem bind_pure_eq_map (x : Checked β) (f : β → γ) : (x >>= fun b => pure (f b)) = x.map f := by
  cases x <;> rfl

theorem bind_eq_value_iff {x : Checked β} {f : β → Checked γ} {c : γ} :
    x >>= f = value c ↔ ∃ b, x = value b ∧ f b = value c := by
  cases x <;> simp

theorem bind_eq_aborted_iff {x : Checked β} {f : β → Checked γ} :
    x >>= f = aborted ↔ x = aborted ∨ ∃ b, x = value b ∧ f b = aborted := by
  cases x <;> simp

theorem map_eq_value_iff {x : Checked β} {f : β → γ} {c : γ} :
    x.map f = value c ↔ ∃ b, x = value b ∧ f b = c := by
  cases x <;> simp

theorem map_eq_aborted_iff {x : Checked β} {f : β → γ} : x.map f = aborted ↔ x = aborted := by
  cases x <;> simp

end Checked
end Appraisal
