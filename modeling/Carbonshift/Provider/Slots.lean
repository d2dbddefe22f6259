import Carbonshift.Library.Doubles
import Carbonshift.Provider.Clock

/-!
# The slot arithmetic of the provider

The slot of an instant is a quotient in double precision, cut to an integer.
As long as the instant is less than 2^52 microseconds away from the epoch,
the rounding of the quotient cannot be seen.
-/

namespace Carbonshift

namespace Provider

variable (grid : SlotGrid)

/-- The global slot of an instant, as the quotient is computed. -/
def slotOf (dt : ℤ) : ℤ :=
  truncatedQuotient (dt - grid.epoch) grid.delta

variable {grid}

/-- Within 142 years of the epoch the slot is the exact quotient. -/
theorem slotOf_eq {dt : ℤ} (near : |dt - grid.epoch| < 2 ^ 52) :
    slotOf grid dt = grid.slotOf dt :=
  truncatedQuotient_eq_tdiv grid.positive near

end Provider

end Carbonshift
