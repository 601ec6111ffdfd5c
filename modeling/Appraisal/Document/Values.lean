import Appraisal.Calendar.Reader
import Appraisal.Json.Decode
import Appraisal.Money
import Appraisal.Named

/-!
# Documents of values

How amounts, dates and named values stand in documents.
-/

namespace Appraisal
variable {α τ : Type}

def Named.toJson [Named τ] (v : τ) : Json α := .string (Named.name v)

/-- A named value in a document has exactly its name. -/
def Named.ofJson? [Named τ] : Json α → Option τ := Json.named? Named.ofName?

def Cents.toJson (c : Cents) : Json α := .int c.value.toInt

def Cents.ofJson? (j : Json α) : Option Cents := j.int64?.map Cents.mk

def Date.toJson (d : Date) : Json α := .string d.toString

def Date.ofJson? (j : Json α) : Option Date := j.string? >>= Date.read?

def Timestamp.toJson (t : Timestamp) : Json α := .string t.toString

def Timestamp.ofJson? (j : Json α) : Option Timestamp := j.string? >>= Timestamp.read?

namespace Json

def ofUInt32 (n : UInt32) : Json α := .nat n.toNat

def ofUInt64 (n : UInt64) : Json α := .nat n.toNat

def ofInt32 (n : Int32) : Json α := .int n.toInt

def ofInt64 (n : Int64) : Json α := .int n.toInt

end Json
end Appraisal
