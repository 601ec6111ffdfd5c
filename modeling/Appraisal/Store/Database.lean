import Appraisal.Gathering.Sources
import Appraisal.Store.RefreshQueue
import Appraisal.Store.Row
import Appraisal.Store.Table

/-!
# Database

A table for each kind of record, and the refresh queue. A write replaces what was kept under the
same key.
-/

namespace Appraisal

/-- The five tables of records and the queue. -/
structure Database (α : Type) where
  products : Keyed (Row α)
  guides : Keyed (Row α)
  sales : Keyed (Row α)
  discussions : Keyed (Row α)
  entries : Keyed (Row α)
  queue : RefreshQueue

structure Bundle (α : Type) where
  products : List (Product α) := []
  guides : List PriceGuide := []
  sales : List (SalesHistory α) := []
  discussions : List (Discussion α) := []
  entries : List CatalogEntry := []

structure BundleCounts where
  products : Nat
  guides : Nat
  sales : Nat
  discussions : Nat
  entries : Nat
  deriving DecidableEq

namespace Bundle
variable {α : Type}

def counts (b : Bundle α) : BundleCounts where
  products := b.products.length
  guides := b.guides.length
  sales := b.sales.length
  discussions := b.discussions.length
  entries := b.entries.length

end Bundle

inductive Record (α : Type) where
  | product (p : Product α)
  | guide (g : PriceGuide)
  | sales (h : SalesHistory α)
  | discussion (d : Discussion α)
  | entry (e : CatalogEntry)

namespace Record
variable {α : Type}

def table : Record α → Table
  | product _ => .products
  | guide _ => .guides
  | sales _ => .sales
  | discussion _ => .discussions
  | entry _ => .entries

def key : Record α → String
  | product p => p.id
  | guide g => g.catalogNumber
  | sales h => h.catalogNumber
  | discussion d => d.catalogNumber
  | entry e => e.catalogNumber

end Record

namespace Bundle
variable {α : Type}

/-- All records of a bundle, in the order in which they are loaded. -/
def records (b : Bundle α) : List (Record α) :=
  b.products.map .product ++ b.guides.map .guide ++ b.sales.map .sales ++
    b.discussions.map .discussion ++ b.entries.map .entry

end Bundle

namespace Database
variable {α : Type}

def empty : Database α := ⟨.empty, .empty, .empty, .empty, .empty, .empty⟩

variable [Arithmetic α] [NumberText α]

def put (db : Database α) : Record α → Database α
  | .product p => { db with products := Layout.product.put db.products p }
  | .guide g => { db with guides := Layout.guide.put db.guides g }
  | .sales h => { db with sales := Layout.sales.put db.sales h }
  | .discussion d => { db with discussions := Layout.discussion.put db.discussions d }
  | .entry e => { db with entries := Layout.entry.put db.entries e }

def load (db : Database α) (b : Bundle α) : Database α := b.records.foldl put db

def find (db : Database α) (table : Table) (key : String) : Except Failure (Option (Record α)) :=
  match table with
  | .products => (Layout.product.find db.products key).map (·.map .product)
  | .guides => (Layout.guide.find db.guides key).map (·.map .guide)
  | .sales => (Layout.sales.find db.sales key).map (·.map .sales)
  | .discussions => (Layout.discussion.find db.discussions key).map (·.map .discussion)
  | .entries => (Layout.entry.find db.entries key).map (·.map .entry)

/-- The records under some keys of a table, in ascending order of the keys. -/
def query (db : Database α) (table : Table) (keys : List String) :
    Except Failure (Keyed (Record α)) :=
  match table with
  | .products => (Layout.product.findMany db.products keys).map (·.map .product)
  | .guides => (Layout.guide.findMany db.guides keys).map (·.map .guide)
  | .sales => (Layout.sales.findMany db.sales keys).map (·.map .sales)
  | .discussions => (Layout.discussion.findMany db.discussions keys).map (·.map .discussion)
  | .entries => (Layout.entry.findMany db.entries keys).map (·.map .entry)

def sources (db : Database α) : Sources α where
  product := Layout.product.find db.products
  products := Layout.product.findAll db.products
  guide := Layout.guide.find db.guides
  guides := Layout.guide.findMany db.guides
  sales := Layout.sales.find db.sales
  salesOf := Layout.sales.findMany db.sales
  discussion := Layout.discussion.find db.discussions
  discussions := Layout.discussion.findMany db.discussions
  entry := Layout.entry.find db.entries
  entries := Layout.entry.findMany db.entries

omit [Arithmetic α] [NumberText α] in
/-- Takes the requests for a refresh out of a trace into the queue. -/
def takeRefreshes (db : Database α) (now : Moment) (calls : List Call) : Database α :=
  calls.foldl (fun db call =>
    match call with
    | .refresh keys => { db with queue := db.queue.enqueue now keys }
    | _ => db) db

end Database
end Appraisal
