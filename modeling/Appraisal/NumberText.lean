/-!
# Texts of numbers

The four ways in which reports write a number. Reports are generic in the number type, so the
texts form a class beside the arithmetic.
-/

namespace Appraisal

class NumberText (α : Type) where
  /-- The fewest digits that read back, positional, without a fraction when there is none. -/
  plain : α → String
  /-- As many decimal places as asked. -/
  fixed : Nat → α → String
  /-- As `fixed`, with a sign in front of positive numbers too. -/
  signed : Nat → α → String
  /-- The form inside documents: a fraction or an exponent is always visible. -/
  literal : α → String

namespace NumberText
variable {α : Type} [NumberText α]

def whole (x : α) : String := fixed 0 x

def tenths (x : α) : String := fixed 1 x

def hundredths (x : α) : String := fixed 2 x

end NumberText
end Appraisal
