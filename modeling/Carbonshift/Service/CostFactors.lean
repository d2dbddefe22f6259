import Mathlib.Tactic.FieldSimp
import Mathlib.Tactic.Linarith
import Carbonshift.Engine.Pricing
import Carbonshift.Service.Submission
import Carbonshift.Service.Callback

/-!
# Factors of a cost

A cost is an intensity times the multiplier of a position, a duration and a
common scale.  A callback does not know the multiplier: it rescales the
estimate by measured over forecast intensity and by measured over estimated
duration.
-/

namespace Carbonshift

/-- What a cost is made of, besides the common scale. -/
structure CostFactors where
  intensity : ℚ
  multiplier : ℚ
  duration : ℚ
  deriving DecidableEq, Repr

namespace CostFactors

def cost (scale : ℚ) (factors : CostFactors) : ℚ :=
  factors.intensity * factors.multiplier * factors.duration * scale

/-- The same position, at another intensity and for another duration. -/
def measured (factors : CostFactors) (intensity duration : ℚ) : CostFactors :=
  { factors with intensity := intensity, duration := duration }

/-- The factors of a flavour at a position of a slot. -/
def ofPosition (policy : AssignmentPolicy) (carbonForecast : List ℚ)
    (slot : ℤ) (flavour : Flavour) (position : ℤ) : CostFactors where
  intensity := (slotEntry carbonForecast slot).getD 1
  multiplier := getCapacityMultiplier policy.capacityTiers position
  duration := flavour.duration

/-- The factors of a baseline at a position of its arrival slot. -/
def ofBaseline (tiers : List CapacityTier) (carbon : ℚ) (position : ℤ)
    (accurate : Flavour) : CostFactors where
  intensity := carbon
  multiplier := getCapacityMultiplier tiers position
  duration := accurate.duration

end CostFactors

/-- The price of a position is the cost of its factors. -/
theorem positionCost_eq_cost
    (policy : AssignmentPolicy) (carbonForecast : List ℚ) (slot : ℤ)
    (flavour : Flavour) (position : ℤ) :
    positionCost policy carbonForecast slot flavour position =
      (CostFactors.ofPosition policy carbonForecast slot flavour
        position).cost policy.carbonCostDurationScale := rfl

theorem baselineCost_eq_cost
    (settings : ServiceSettings) (tiers : List CapacityTier) (carbon : ℚ)
    (position : ℤ) (accurate : Flavour) :
    baselineCost settings tiers carbon position accurate =
      (CostFactors.ofBaseline tiers carbon position accurate).cost
        settings.engine.carbonCostDurationScale := rfl

/-! ## Rescaling -/

/-- The part of an estimate that a measurement can be divided by. -/
def divisor (estimate : Option ℚ) : Option ℚ :=
  estimate.bind fun value => if 0 < value then some value else none

theorem divisor_pos {estimate : Option ℚ} {value : ℚ}
    (found : divisor estimate = some value) : 0 < value := by
  obtain ⟨given, _, positive⟩ := Option.bind_eq_some_iff.mp found
  split at positive
  · rename_i above
    cases positive
    exact above
  · cases positive

theorem carbonIntensityRatio_eq (actual : ℚ) (forecast : Option ℚ) :
    carbonIntensityRatio (some actual) forecast =
      (divisor forecast).map fun value => actual / value := by
  cases forecast with
  | none => rfl
  | some value =>
      by_cases positive : 0 < value
      · simp [carbonIntensityRatio, divisor, positive]
      · simp [carbonIntensityRatio, divisor, positive, not_lt.mp positive]

theorem timeRatio_eq (measured duration : ℚ) :
    timeRatio (some measured) duration =
      (divisor (some duration)).map fun value => measured / value := by
  by_cases positive : 0 < duration
  · simp [timeRatio, divisor, positive]
  · simp [timeRatio, divisor, positive]

/-- Where no ratio is known, the estimate stays. -/
theorem rescaled_getD (estimate : ℚ) (intensity time : Option ℚ) :
    (rescaled estimate intensity time).getD estimate =
      estimate * intensity.getD 1 * time.getD 1 := by
  cases intensity with
  | none => cases time <;> simp [rescaled]
  | some ratio => cases time <;> simp [rescaled]

namespace CostFactors

/-- Rescaling the estimate gives the cost of what was measured: something
vanishes on both sides, or the estimate was made with the very intensity and
duration that the measurements are divided by. -/
def RescalesTo (factors : CostFactors) (scale : ℚ)
    (forecast : Option ℚ) (duration actual time : ℚ) : Prop :=
  factors.multiplier * scale = 0 ∨
    ((divisor forecast).isSome = true ∧ actual = 0) ∨
    ((divisor (some duration)).isSome = true ∧ time = 0) ∨
    factors.intensity * factors.duration =
      (divisor forecast).getD actual * (divisor (some duration)).getD time

instance (factors : CostFactors) (scale : ℚ) (forecast : Option ℚ)
    (duration actual time : ℚ) :
    Decidable (factors.RescalesTo scale forecast duration actual time) :=
  inferInstanceAs (Decidable (_ ∨ _))

/-- One ratio gives the measurement, unless both vanish, exactly on what it is
divided by. -/
private theorem mul_ratio_eq_iff
    (measurement : ℚ) (estimate : Option ℚ) (left right : ℚ) :
    left * ((divisor estimate).map fun value => measurement / value).getD 1 =
        measurement * right ↔
      ((divisor estimate).isSome = true ∧ measurement = 0) ∨
        left = (divisor estimate).getD measurement * right := by
  cases found : divisor estimate with
  | none => simp
  | some value =>
      have nonzero := (divisor_pos found).ne'
      have same : left * (measurement / value) = measurement * right ↔
          measurement * left = measurement * (value * right) := by
        rw [← mul_right_inj' nonzero]
        have cleared : value * (left * (measurement / value)) =
            measurement * left := by
          field_simp
        rw [cleared, mul_left_comm value measurement right]
      rw [Option.map_some, Option.getD_some, Option.getD_some, same,
        mul_eq_mul_left_iff, or_comm]
      simp

/-- Exactly then the rescaled estimate is the cost of what was measured. -/
theorem rescaled_eq_measured_iff (factors : CostFactors)
    (scale : ℚ) (forecast : Option ℚ) (duration actual time : ℚ) :
    factors.cost scale *
          (carbonIntensityRatio (some actual) forecast).getD 1 *
          (timeRatio (some time) duration).getD 1 =
        (factors.measured actual time).cost scale ↔
      factors.RescalesTo scale forecast duration actual time := by
  rw [carbonIntensityRatio_eq, timeRatio_eq, RescalesTo]
  have estimated (intensity length : ℚ) :
      factors.cost scale * intensity * length =
        factors.intensity * factors.duration * intensity * length *
          (factors.multiplier * scale) := by
    rw [cost]
    ring
  have paid : (factors.measured actual time).cost scale =
      time * actual * (factors.multiplier * scale) := by
    rw [cost, measured]
    ring
  rw [estimated, paid, mul_eq_mul_right_iff, or_comm, mul_ratio_eq_iff,
    mul_comm _ actual, mul_ratio_eq_iff]
  exact or_congr_right or_left_comm

end CostFactors

end Carbonshift
