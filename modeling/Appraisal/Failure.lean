import Appraisal.Market.PriceGuide

/-!
# Failures

Every way in which a request can fail, with the message that explains it.
-/

namespace Appraisal

/-- A product whose price guide lacks boxes. -/
structure Incomplete where
  productId : String
  catalogNumber : String
  missing : List BoxKind
  deriving DecidableEq

/-- Why a request failed. -/
inductive Failure where
  | notFound (what : String)
  | incomplete (products : List Incomplete)
  | unknownStrategy (name : String) (available : List String)
  | invalid (cause : String)
  | database (cause : String)
  /-- A text that is no document of the expected kind. -/
  | unreadable
  deriving DecidableEq

def commaList (texts : List String) : String := ", ".intercalate texts

protected def Incomplete.toString (p : Incomplete) : String :=
  p.productId ++ " (" ++ p.catalogNumber ++ "): missing " ++ commaList (p.missing.map Named.name)

instance : ToString Incomplete := ⟨Incomplete.toString⟩

namespace Failure

def message : Failure → String
  | notFound what => "Not found: " ++ what
  | incomplete products =>
    "Incomplete secondary-market data: " ++ "; ".intercalate (products.map toString)
  | unknownStrategy name available =>
    "Unknown strategy: " ++ name ++ " (available: " ++ commaList available ++ ")"
  | invalid cause => "Invalid input: " ++ cause
  | database cause => "Database error: " ++ cause
  | unreadable => "Parse error"

end Failure
end Appraisal
