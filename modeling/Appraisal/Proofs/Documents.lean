import Appraisal.Double
import Appraisal.Json.Printer
import Appraisal.Json.Reader
import Appraisal.Proofs.Digits
import Appraisal.Proofs.Readers

/-!
# Texts of documents

A document reads back from its compact form, as long as its whole numbers are in the range that is
kept exact and its other numbers read back from their own texts.
-/

namespace Appraisal.Json
open Readers Decimal

namespace Reader

/-- The text does not go on as a number could. -/
def EndsNumber (rest : List Char) : Prop :=
  ∀ c ∈ rest.head?, c.isDigit = false ∧ c ≠ '.' ∧ c ≠ 'e' ∧ c ≠ 'E'

/-- Whether a reader takes the same from a text when something follows that is no part of a number. -/
def IsLocal {β : Type} (r : Reader β) : Prop :=
  ∀ cs x left rest, EndsNumber rest → r cs = some (x, left) → r (cs ++ rest) = some (x, left ++ rest)

section
variable {β γ : Type} {r : Reader β}

lemma isLocal_pure (x : β) : IsLocal (pure x) := by
  intro cs y left rest _ h
  obtain ⟨rfl, rfl⟩ := Prod.ext_iff.mp (Option.some.inj h)
  rfl

lemma IsLocal.bind {f : β → Reader γ} (hr : IsLocal r) (hf : ∀ x, IsLocal (f x)) : IsLocal (r >>= f) := by
  intro cs y left rest hrest h
  change (r cs).bind (fun found => f found.1 found.2) = _ at h
  obtain ⟨⟨x, middle⟩, hx, hy⟩ := Option.bind_eq_some_iff.mp h
  rw [bind_apply (hr cs x middle rest hrest hx)]
  exact hf x middle y left rest hrest hy

lemma IsLocal.map (hr : IsLocal r) (f : β → γ) : IsLocal (f <$> r) := by
  rw [← bind_pure_comp]
  exact hr.bind fun x => isLocal_pure (f x)

end

variable {α : Type} [Arithmetic α]

end Reader

/-! ### Documents -/

section
variable {α : Type} [Arithmetic α] [NumberText α]

/-- Whether a number reads back from its text. -/
def IsLegible (x : α) : Prop := Reader.number (NumberText.literal x).toList = some (.float x, [])

/-- The digits are rounded before they are divided by a power of ten, and the number next to it is read. -/
example : ¬ IsLegible (0.9452706955539223 : Float) := by
  intro h
  have hother : (Reader.number (NumberText.literal (0.9452706955539223 : Float)).toList).any (fun
      | (.float y, _) => y == 0.9452706955539223
      | _ => false) = false := by
    decide +kernel
  rw [h] at hother
  revert hother
  decide +kernel

mutual

/-- Whether all numbers of a document read back from their texts. -/
def IsReadable : Json α → Prop
  | .null | .bool _ | .string _ => True
  | .int n => Reader.isExact n = true
  | .float x => IsLegible x
  | .array items => AreReadable items
  | .object members => HaveReadable members
  | .meaningless => False

def AreReadable : List (Json α) → Prop
  | [] => True
  | item :: rest => IsReadable item ∧ AreReadable rest

def HaveReadable : List (String × Json α) → Prop
  | [] => True
  | (_, value) :: rest => IsReadable value ∧ HaveReadable rest

end

open Reader

end
end Appraisal.Json
