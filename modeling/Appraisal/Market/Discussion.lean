/-!
# Discussion

How much and how warmly collectors talk about one catalog number.
-/

namespace Appraisal

structure Discussion (α : Type) where
  catalogNumber : String
  postCount : UInt32
  totalScore : Int64 := 0
  averageScore : Option α := none
  totalComments : UInt32 := 0

end Appraisal
