import Mathlib.Algebra.Order.Ring.Rat

/-!
# Numeric libraries

The random generators, the power function and the normal distribution come
from libraries.  They are parameters of the model, together with the little
the engine relies on.
-/

namespace Carbonshift

/-- The library functions used by the engine; `σ` is the state of a random
generator. -/
structure NumericRuntime (σ : Type) where
  seedFromU64 : ℕ → σ
  /-- A uniform number in `[0, 1)`. -/
  gen : σ → ℚ × σ
  /-- A number below a positive bound. -/
  genRange : ℕ → σ → ℕ × σ
  powf : ℚ → ℚ → ℚ
  /-- One draw of a seeded normal distribution, truncated to an integer. -/
  sampleNormal : ℚ → ℚ → ℕ → ℤ
  gen_nonneg : ∀ state, 0 ≤ (gen state).1
  gen_lt_one : ∀ state, (gen state).1 < 1
  genRange_lt : ∀ bound state, 0 < bound → (genRange bound state).1 < bound
  powf_pos : ∀ base exponent, 0 < base → 0 < powf base exponent

namespace NumericRuntime

/-- Every draw is the least possible one and every power is one. -/
def least : NumericRuntime Unit where
  seedFromU64 _ := ()
  gen _ := (0, ())
  genRange _ _ := (0, ())
  powf _ _ := 1
  sampleNormal mean _ _ := mean.floor
  gen_nonneg _ := le_refl _
  gen_lt_one _ := zero_lt_one
  genRange_lt _ _ positive := positive
  powf_pos _ _ _ := zero_lt_one

end NumericRuntime

end Carbonshift
