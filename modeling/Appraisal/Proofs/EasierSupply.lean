import Appraisal.Proofs.Curves
import Appraisal.Proofs.HandOffs
import Appraisal.Proofs.Marks

/-!
# Easier supply

The longer a set stays on sale, and the more of it is in stock, the less its availability scores, and the larger
the factor that its scarcity contributes to the price. The expected day counts only while it has not passed: a day
that has passed scores like a settled year, whenever it was.
-/

namespace Appraisal
open Scorecard

namespace Availability
variable [Exponential]

variable [NumberText ℚ] {e e' : AvailabilityEvidence}

end Availability

end Appraisal
