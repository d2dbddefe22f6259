import Carbonshift.Library.Doubles
import Carbonshift.Provider.Clock

/-!
# Time slots of the client

Start times and deadlines are instants; they fall into slots of the grid that
the client shares with the provider.
-/

namespace Carbonshift

namespace Client

open Provider (SlotGrid timedelta)

variable (grid : SlotGrid)

/-- Start of the slot that an instant falls into. -/
def floorToSlot (dt : ℤ) : ℤ :=
  grid.epoch + (dt - grid.epoch) / grid.delta * grid.delta

/-- End of the slot that an instant falls into; a boundary is its own end. -/
def ceilToSlotEnd (dt : ℤ) : ℤ :=
  let start := floorToSlot grid dt
  if start = dt then dt else start + grid.delta

/-- The global slot of an instant. -/
def slotOf (dt : ℤ) : ℤ :=
  truncatedQuotient (dt - grid.epoch) grid.delta

/-- Start of a global slot. -/
def slotStartUtc (slot : ℤ) : ℤ :=
  grid.epoch + timedelta (nearestDouble (slot * grid.slotMinutes))

/-- Index of the slot of an instant, relative to the slot of a reference. -/
def slotIndex (dt reference : ℤ) : ℤ :=
  truncatedQuotient (floorToSlot grid dt - floorToSlot grid reference)
    grid.delta

/-! ## Slots of boundaries -/

/-- The slot that contains an instant. -/
def slotContaining (dt : ℤ) : ℤ :=
  (dt - grid.epoch) / grid.delta

variable {grid}

theorem floorToSlot_sub_epoch (dt : ℤ) :
    floorToSlot grid dt - grid.epoch =
      slotContaining grid dt * grid.delta := by
  rw [floorToSlot, slotContaining]
  omega

/-- The slot of a boundary, unless it is too large for a double. -/
theorem slotOf_floorToSlot {dt : ℤ}
    (small : |slotContaining grid dt| < 2 ^ 53) :
    slotOf grid (floorToSlot grid dt) = slotContaining grid dt := by
  rw [slotOf, floorToSlot_sub_epoch]
  exact truncatedQuotient_mul grid.positive small

theorem slotIndex_eq {dt reference : ℤ}
    (small : |slotContaining grid dt - slotContaining grid reference| <
      2 ^ 53) :
    slotIndex grid dt reference =
      slotContaining grid dt - slotContaining grid reference := by
  have apart : floorToSlot grid dt - floorToSlot grid reference =
      (slotContaining grid dt - slotContaining grid reference) *
        grid.delta := by
    rw [sub_mul, ← floorToSlot_sub_epoch, ← floorToSlot_sub_epoch]
    omega
  rw [slotIndex, apart]
  exact truncatedQuotient_mul grid.positive small

theorem slotContaining_mono {earlier later : ℤ} (ordered : earlier ≤ later) :
    slotContaining grid earlier ≤ slotContaining grid later :=
  Int.ediv_le_ediv grid.positive (by omega)

end Client

end Carbonshift
