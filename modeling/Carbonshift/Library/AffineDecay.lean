import Mathlib.Algebra.Order.Ring.Abs
import Mathlib.Tactic.Linarith
import Mathlib.Tactic.Ring

/-!
# Decay with a floor

A level decays by a factor, is lifted to a floor, and receives an amount.  If
the floor is left out, all steps together are one affine map, which can be
applied later.  It stays within one floor below the level.
-/

universe u

/-- Multiply by a factor, then add an offset. -/
structure AffineDecay (F : Type u) where
  factor : F
  offset : F
  deriving DecidableEq, Repr

namespace AffineDecay

variable {F : Type u} [CommRing F]

def apply (map : AffineDecay F) (start : F) : F :=
  start * map.factor + map.offset

/-- The map that changes nothing. -/
def identity : AffineDecay F := ⟨1, 0⟩

/-- One more decay, and one more amount. -/
def decay (map : AffineDecay F) (keep amount : F) : AffineDecay F :=
  ⟨map.factor * keep, map.offset * keep + amount⟩

@[simp]
theorem apply_identity (start : F) : identity.apply start = start := by
  rw [apply, identity, mul_one, add_zero]

theorem apply_decay (map : AffineDecay F) (keep amount start : F) :
    (map.decay keep amount).apply start = map.apply start * keep + amount := by
  rw [apply, decay, apply]
  ring

end AffineDecay

section Floor

variable {F : Type u} [CommRing F] [LinearOrder F]

/-- Decay, lift to the floor, add. -/
def decayAbove (floor keep amount level : F) : F :=
  max (level * keep) floor + amount

/-- The level is at most one floor above its affine part. -/
structure WithinFloor (floor affine level : F) : Prop where
  nonneg : 0 ≤ affine
  below : affine ≤ level
  near : level ≤ affine + floor

variable [IsStrictOrderedRing F] {floor affine level keep amount : F}

theorem WithinFloor.refl (floorNonneg : 0 ≤ floor) (nonneg : 0 ≤ level) :
    WithinFloor floor level level :=
  ⟨nonneg, le_rfl, le_add_of_nonneg_right floorNonneg⟩

/-- The gap of a step decays like the level. -/
theorem WithinFloor.decay (within : WithinFloor floor affine level)
    (floorNonneg : 0 ≤ floor) (keepNonneg : 0 ≤ keep) (keepLe : keep ≤ 1)
    (amountNonneg : 0 ≤ amount) :
    WithinFloor floor (affine * keep + amount)
      (decayAbove floor keep amount level) := by
  have kept : 0 ≤ affine * keep := mul_nonneg within.nonneg keepNonneg
  have lower : affine * keep ≤ level * keep :=
    mul_le_mul_of_nonneg_right within.below keepNonneg
  have upper : level * keep ≤ affine * keep + floor :=
    calc
      level * keep ≤ (affine + floor) * keep :=
        mul_le_mul_of_nonneg_right within.near keepNonneg
      _ = affine * keep + floor * keep := add_mul _ _ _
      _ ≤ affine * keep + floor :=
        add_le_add_right (mul_le_of_le_one_right floorNonneg keepLe) _
  have lifted : max (level * keep) floor ≤ affine * keep + floor :=
    max_le upper (le_add_of_nonneg_left kept)
  refine ⟨add_nonneg kept amountNonneg, ?_, ?_⟩
  · exact add_le_add_left (lower.trans (le_max_left _ _)) amount
  · unfold decayAbove
    linarith

/-- Lifting the affine part at the end is as good as lifting at each step, up
to the floor. -/
theorem WithinFloor.abs_sub_le (within : WithinFloor floor affine level)
    (floorNonneg : 0 ≤ floor) : |max affine floor - level| ≤ floor := by
  have levelNonneg : 0 ≤ level := within.nonneg.trans within.below
  have lifted : max affine floor ≤ level + floor :=
    max_le (le_add_of_le_of_nonneg within.below floorNonneg)
      (le_add_of_nonneg_left levelNonneg)
  have kept : level ≤ max affine floor + floor :=
    within.near.trans (add_le_add_left (le_max_left _ _) floor)
  exact abs_sub_le_iff.mpr ⟨by linarith, by linarith⟩

end Floor
