import Appraisal.Text.Lowercase

/-!
# Named values

Types whose few values are written by name.
-/

namespace Appraisal

/-- A type with a list of all its values and a name for each of them. -/
class Named (τ : Type) where
  all : List τ
  name : τ → String

namespace Named
variable {τ : Type} [Named τ]

def ofName? (s : String) : Option τ := all.find? fun v => name v == s

/-- The value that a person means by `s`: any letter case will do, and some values have another
name. The message of a failure says what `kind` of value was sought. -/
def parse (kind : String) (aliases : List (String × τ)) (s : String) : Except String τ :=
  let lowered := Text.lowercase s
  match (ofName? lowered : Option τ) <|> aliases.lookup lowered with
  | some v => .ok v
  | none => .error ("Unknown " ++ kind ++ ": " ++ s)

end Named
end Appraisal
