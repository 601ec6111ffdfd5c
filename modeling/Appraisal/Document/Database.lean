import Appraisal.Document.Store

/-!
# Documents of databases

How the tables and the refresh queue stand in a document, row by row and cell by cell.
-/

namespace Appraisal
open Json Json.Decode

variable {α : Type}

def RefreshRow.toJson (entry : String × RefreshRow) : Json α := .object [
  ("catalog_number", .string entry.1),
  ("requested_at", .string entry.2.requestedAt),
  ("request_count", .nat entry.2.count)]

def RefreshRow.ofJson? : Json α → Option (String × RefreshRow) := decodeStructure do
  return (← required "catalog_number" string?, {
    requestedAt := ← required "requested_at" string?
    count := ← required "request_count" nat? })

variable [Arithmetic α]

namespace Cell

/-- A real always shows a fraction or an exponent, so it is told from an integer. -/
def toJson : Cell α → Json α
  | .null => .null
  | .integer n => ofInt64 n
  | .real x => .number x
  | .text s => .string s

omit [Arithmetic α] in
def ofJson? : Json α → Option (Cell α)
  | .null => some .null
  | .int n => (int64? (.int n : Json α)).map .integer
  | .float x => some (.real x)
  | .string s => some (.text s)
  | _ => none

end Cell

namespace Row

def toJson (row : Row α) : Json α := .list Cell.toJson row

omit [Arithmetic α] in
def ofJson? : Json α → Option (Row α) := list? Cell.ofJson?

omit [Arithmetic α] in
/-- The key of a row stands in its first column. -/
def key : Row α → String
  | .text s :: _ => s
  | _ => ""

end Row

namespace Database

def toJson (db : Database α) : Json α := .object [
  (Table.products.name, .list Row.toJson db.products.values),
  (Table.guides.name, .list Row.toJson db.guides.values),
  (Table.sales.name, .list Row.toJson db.sales.values),
  (Table.discussions.name, .list Row.toJson db.discussions.values),
  (Table.entries.name, .list Row.toJson db.entries.values),
  ("refresh_requests", .list RefreshRow.toJson db.queue.entries)]

omit [Arithmetic α] in
def ofJson? : Json α → Option (Database α) := decodeStructure do
  return {
    products := .byKey Row.key (← required Table.products.name (list? Row.ofJson?))
    guides := .byKey Row.key (← required Table.guides.name (list? Row.ofJson?))
    sales := .byKey Row.key (← required Table.sales.name (list? Row.ofJson?))
    discussions := .byKey Row.key (← required Table.discussions.name (list? Row.ofJson?))
    entries := .byKey Row.key (← required Table.entries.name (list? Row.ofJson?))
    queue := .ofList (← required "refresh_requests" (list? RefreshRow.ofJson?)) }

end Database
end Appraisal
