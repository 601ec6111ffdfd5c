import Appraisal.Json.Basic

/-!
# Decoding documents

A structure is decoded field by field, from an object or from an array that lists the fields in
order. Unknown members of an object do not matter, but a known one must not stand there twice.
-/

namespace Appraisal.Json
variable {α β : Type}

/-- What of a structure is still to be taken. -/
inductive Fields (α : Type) where
  | named (members : List (String × Json α))
  | ordered (values : List (Json α))

/-- Takes fields of a structure, or fails. -/
abbrev Decode (α : Type) := StateT (Fields α) Option

namespace Decode

/-- The value of the next field, if it is there. -/
def take? (name : String) : Decode α (Option (Json α)) := fun
  | .named members =>
    match members.filter (·.1 == name) with
    | [] => some (none, .named members)
    | [(_, value)] => some (some value, .named members)
    | _ => none
  | .ordered (value :: rest) => some (some value, .ordered rest)
  | .ordered [] => some (none, .ordered [])

/-- Whether the fields come in order. -/
def isOrdered : Decode α Bool := fun
  | .named members => some (false, .named members)
  | .ordered values => some (true, .ordered values)

/-- A field that has to be there. -/
def required (name : String) (decode : Json α → Option β) : Decode α β := do
  match ← take? name with
  | some value => decode value
  | none => failure

/-- A field that may be missing. -/
def defaulted (name : String) (missing : β) (decode : Json α → Option β) : Decode α β := do
  match ← take? name with
  | some value => decode value
  | none => return missing

/-- A value that may be `null`. -/
def nullable (decode : Json α → Option β) : Json α → Option (Option β)
  | .null => some none
  | value => (decode value).map some

/-- A field that may be `null` or missing. -/
def optional (name : String) (decode : Json α → Option β) : Decode α (Option β) :=
  defaulted name none (nullable decode)

/-- A field that may be `null`, and missing too unless the fields come in order. -/
def optionalNamed (name : String) (decode : Json α → Option β) : Decode α (Option β) := do
  if ← isOrdered then required name (nullable decode) else optional name decode

end Decode

/-- Decodes a structure; an array must not be longer than the fields are many. -/
def decodeStructure (fields : Decode α β) : Json α → Option β
  | .object members => (fields.run (.named members)).map (·.1)
  | .array values =>
    match fields.run (.ordered values) with
    | some (result, .ordered []) => some result
    | _ => none
  | _ => none

def bool? : Json α → Option Bool
  | .bool b => some b
  | _ => none

def string? : Json α → Option String
  | .string s => some s
  | _ => none

def int? : Json α → Option Int
  | .int n => some n
  | _ => none

/-- A number; whole numbers are numbers too. -/
def number? [Arithmetic α] : Json α → Option α
  | .float x => some x
  | .int n => some (Arithmetic.ofInt n)
  | _ => none

def uint32? (j : Json α) : Option UInt32 := do
  let n ← j.int?
  if 0 ≤ n ∧ n < UInt32.size then some (UInt32.ofNat n.toNat) else none

def uint64? (j : Json α) : Option UInt64 := do
  let n ← j.int?
  if 0 ≤ n ∧ n < UInt64.size then some (UInt64.ofNat n.toNat) else none

def int32? (j : Json α) : Option Int32 := do
  let n ← j.int?
  if Int32.minValue.toInt ≤ n ∧ n ≤ Int32.maxValue.toInt then some (Int32.ofInt n) else none

def int64? (j : Json α) : Option Int64 := do
  let n ← j.int?
  if Int64.minValue.toInt ≤ n ∧ n ≤ Int64.maxValue.toInt then some (Int64.ofInt n) else none

def nat? (j : Json α) : Option Nat := do
  let n ← j.int?
  if 0 ≤ n then some n.toNat else none

def list? (decode : Json α → Option β) : Json α → Option (List β)
  | .array items => items.mapM decode
  | _ => none

/-- One of several named values; it may also be the only name of an object without content. -/
def named? (read : String → Option β) : Json α → Option β
  | .string s => read s
  | .object [(s, .null)] => read s
  | _ => none

end Appraisal.Json
