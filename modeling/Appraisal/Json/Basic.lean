import Appraisal.Arithmetic

/-!
# Documents

JSON trees over a number type. Whole numbers that were written without a fraction are kept apart
from the others, because a field that counts something takes only those. A part that is well formed
but stands for nothing is kept too, because it does no harm where nobody asks for it.
-/

namespace Appraisal

/-- A JSON document. Members of an object keep their order. -/
inductive Json (α : Type) where
  | null
  | bool (value : Bool)
  | int (value : Int)
  | float (value : α)
  | string (value : String)
  | array (items : List (Json α))
  | object (members : List (String × Json α))
  /-- A number that is too large, a text with half a character, or an object with such a name. -/
  | meaningless

namespace Json
variable {α β : Type}

mutual

/-- Whether every part stands for something. -/
def isMeaningful : Json α → Bool
  | .null | .bool _ | .int _ | .float _ | .string _ => true
  | .array items => areMeaningful items
  | .object members => haveMeaning members
  | .meaningless => false

def areMeaningful : List (Json α) → Bool
  | [] => true
  | item :: rest => isMeaningful item && areMeaningful rest

def haveMeaning : List (String × Json α) → Bool
  | [] => true
  | (_, value) :: rest => isMeaningful value && haveMeaning rest

end

/-- A number; one that is not finite has no written form. -/
def number [Arithmetic α] (x : α) : Json α :=
  if Arithmetic.isFinite x then .float x else .null

def nat (n : Nat) : Json α := .int n

/-- An absent value is written `null`. -/
def ofOption (encode : β → Json α) : Option β → Json α
  | some x => encode x
  | none => .null

def list (encode : β → Json α) (xs : List β) : Json α := .array (xs.map encode)

def strings : List String → Json α := list .string

/-- A member that is left out when there is no value. -/
def member? (name : String) (encode : β → Json α) : Option β → List (String × Json α)
  | some x => [(name, encode x)]
  | none => []

end Json
end Appraisal
