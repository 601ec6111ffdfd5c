import Appraisal.Calendar.Moment
import Appraisal.Failure
import Appraisal.Keyed

/-!
# Refresh queue

Catalog numbers whose price guides have to be looked at again. A number is entered once, with the
text of the moment of the first request, and then counted.
-/

namespace Appraisal

structure RefreshRow where
  requestedAt : String
  count : Nat
  deriving DecidableEq

structure RefreshRequest where
  catalogNumber : String
  requestedAt : String
  count : UInt32
  deriving DecidableEq

abbrev RefreshQueue := Keyed RefreshRow

namespace RefreshQueue

def enter (queue : RefreshQueue) (now : Moment) (key : String) : RefreshQueue :=
  match queue.get? key with
  | some row => queue.insert key { row with count := row.count + 1 }
  | none => queue.insert key ⟨now.text, 1⟩

/-- Enters all numbers of one request. -/
def enqueue (queue : RefreshQueue) (now : Moment) (keys : List String) : RefreshQueue :=
  keys.foldl (enter · now ·) queue

/-- Whether `a` is listed before `b`: the text of its moment comes first, or it has the same text and a
lesser number. -/
def isBefore (a b : String × RefreshRow) : Bool :=
  if a.2.requestedAt = b.2.requestedAt then a.1 ≤ b.1 else a.2.requestedAt < b.2.requestedAt

/-- The request that a row stands for. Only so many requests can be listed. -/
def read (entry : String × RefreshRow) : Except Failure RefreshRequest :=
  if entry.2.count < UInt32.size then
    .ok ⟨entry.1, entry.2.requestedAt, UInt32.ofNat entry.2.count⟩
  else .error (.database ("Integer " ++ Nat.repr entry.2.count ++ " out of range at index 2"))

/-- All requests, the oldest first. -/
def pending (queue : RefreshQueue) : Except Failure (List RefreshRequest) :=
  (queue.entries.mergeSort isBefore).mapM read

end RefreshQueue
end Appraisal
