import Appraisal.Checked
import Appraisal.Money
import Appraisal.Named

/-!
# Products

Listings of a retail platform.
-/

namespace Appraisal

inductive ListingStatus where
  | active
  | soldOut
  | delisted
  deriving DecidableEq

namespace ListingStatus

protected def name : ListingStatus → String
  | active => "active"
  | soldOut => "sold_out"
  | delisted => "delisted"

instance : Named ListingStatus where
  all := [active, soldOut, delisted]
  name := ListingStatus.name

def parse : String → Except String ListingStatus :=
  Named.parse "listing status" [("soldout", soldOut)]

end ListingStatus

/-- How many reviews gave one to five stars. -/
structure StarCounts where
  one : UInt32
  two : UInt32
  three : UInt32
  four : UInt32
  five : UInt32
  deriving DecidableEq

namespace StarCounts

def toList (s : StarCounts) : List UInt32 := [s.one, s.two, s.three, s.four, s.five]

def total (s : StarCounts) : Checked UInt32 := .sum s.toList

end StarCounts

structure Product (α : Type) where
  id : String
  name : String
  /-- The maker's set number, under which everything else about the set is filed. -/
  catalogNumber : Option String := none
  brand : Option String := none
  price : Option Cents := none
  retailPrice : Option Cents := none
  unitsSold : Option UInt64 := none
  stock : Option UInt64 := none
  listingStatus : Option ListingStatus := none
  rating : Option α := none
  reviewCount : Option UInt32 := none
  ratingDistribution : Option StarCounts := none

end Appraisal
