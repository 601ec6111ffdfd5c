import Appraisal.Calendar.Reader
import Appraisal.Failure
import Appraisal.Json.Printer
import Appraisal.Json.Reader
import Appraisal.Store.Table

/-!
# Cells

What a column can hold, how values are put into cells, and how they are read back. An integer is
signed, and a real is neither undefined nor a negative zero. Dates and moments stand there as text,
and so do documents.
-/

namespace Appraisal

/-- A value in a column. -/
inductive Cell (α : Type) where
  | null
  | integer (value : Int64)
  | real (value : α)
  | text (value : String)

namespace Cell
variable {α β : Type}

def kind : Cell α → String
  | null => "Null"
  | integer _ => "Integer"
  | real _ => "Real"
  | text _ => "Text"

/-! ### Writing -/

/-- An absent value is an empty cell. -/
def ofOption (write : β → Cell α) : Option β → Cell α
  | some x => write x
  | none => null

def ofUInt32 (n : UInt32) : Cell α := integer n.toUInt64.toInt64

def ofInt32 (n : Int32) : Cell α := integer n.toInt64

/-- A count as a signed integer with the same bits. -/
def ofCount (n : UInt64) : Cell α := integer n.toInt64

def ofBool (b : Bool) : Cell α := integer (if b then 1 else 0)

def ofReal [Arithmetic α] (x : α) : Cell α :=
  if Arithmetic.isNaN x then null else real (if x == (0.0 : α) then 0.0 else x)

def ofDate (d : Date) : Cell α := text d.toString

def ofMoment (t : Timestamp) : Cell α := text (t.text "+00:00")

def ofDocument [NumberText α] (j : Json α) : Cell α := text j.compact

/-! ### Reading -/

/-- Why a cell does not hold what is read from it. -/
inductive Mismatch where
  | kind
  | range (value : Int64)
  | content
  deriving DecidableEq

abbrev Reader (α β : Type) := Cell α → Except Mismatch β

/-- An empty cell is an absent value. -/
def nullable (read : Reader α β) : Reader α (Option β)
  | null => .ok none
  | cell => (read cell).map some

def readText : Reader α String
  | text s => .ok s
  | _ => .error .kind

def readInteger : Reader α Int64
  | integer n => .ok n
  | _ => .error .kind

def readReal [Arithmetic α] : Reader α α
  | real x => .ok x
  | integer n => .ok (Arithmetic.ofInt n.toInt)
  | _ => .error .kind

def readUInt32 : Reader α UInt32 := fun cell => do
  let n ← readInteger cell
  if 0 ≤ n.toInt ∧ n.toInt < UInt32.size then return UInt32.ofNat n.toInt.toNat else .error (.range n)

def readInt32 : Reader α Int32 := fun cell => do
  let n ← readInteger cell
  if Int32.minValue.toInt ≤ n.toInt ∧ n.toInt ≤ Int32.maxValue.toInt then return n.toInt32
  else .error (.range n)

def readBool : Reader α Bool := fun cell => return (← readInteger cell) != 0

/-- A negative integer is no count. -/
def count? (n : Int64) : Option UInt64 := if n < 0 then none else some n.toUInt64

/-- Reads a text that stands for a value. -/
def readContent (read? : String → Option β) : Reader α β := fun cell => do
  let s ← readText cell
  match read? s with
  | some x => return x
  | none => .error .content

def readDate : Reader α Date := readContent Date.readStrict?

def readDocument [Arithmetic α] (decode : Json α → Option β) : Reader α β :=
  readContent fun s => Json.readLoosely? s >>= decode

/-- A text that is no moment is passed over. -/
def readMoment : Reader α (Option Timestamp) := fun cell =>
  return (← nullable readText cell) >>= Timestamp.readStrict?

end Cell

abbrev Row (α : Type) := List (Cell α)

namespace Row
variable {α β : Type}

/-- The failure to read the column at `index` of a table. -/
def mismatch (table : Table) (index : Nat) (cell : Cell α) : Cell.Mismatch → Failure
  | .kind => .database (
    "Invalid column type " ++ cell.kind ++ " at index: " ++ Nat.repr index ++ ", name: " ++
      table.columns.getD index "")
  | .range n => .database (
    "Integer " ++ toString n.toInt ++ " out of range at index " ++ Nat.repr index)
  | .content => .database ("Conversion error from type Text at index: " ++ Nat.repr index)

/-- What stands in the column at `index`. -/
def get (row : Row α) (table : Table) (index : Nat) (read : Cell.Reader α β) : Except Failure β :=
  match row[index]? with
  | some cell => (read cell).mapError (mismatch table index cell)
  | none => .error (.database ("Invalid column index: " ++ Nat.repr index))

end Row
end Appraisal
