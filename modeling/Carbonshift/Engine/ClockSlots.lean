import Carbonshift.Engine.ManualClock
import Carbonshift.Library.Doubles

/-!
# The slot of the clock in double precision

The clock counts milliseconds.  Its seconds, the seconds of a slot and their
quotient are doubles, and the quotient is cut to an integer.  Whole eighths of
a second are doubles, and slots of such a length are told apart exactly; with
others the clock may show the slot before the one that has begun.
-/

namespace Carbonshift

/-- Seconds of a reading of the clock. -/
def virtualElapsedSecs (elapsedMs : ℕ) : ℚ :=
  nearestDouble (nearestDouble elapsedMs / 1000)

/-- The slot that a reading of the clock falls into. -/
def clockSlot (slotDurationSecs : ℚ) (elapsedMs : ℕ) : ℤ :=
  truncI32 (nearestDouble
    (virtualElapsedSecs elapsedMs / nearestDouble slotDurationSecs))

/-- Milliseconds of a slot; a fraction is cut off. -/
def wholeSlotMs (slotDurationSecs : ℚ) : ℕ :=
  truncU64 (nearestDouble (nearestDouble slotDurationSecs * 1000))

/-- With slots of a tenth of a second, the clock shows slot two where slot
three begins. -/
example : clockSlot (1 / 10) 300 = 2 ∧ wholeSlotMs (1 / 10) = 100 := by
  decide +kernel

theorem truncI32_eq_truncate (value : ℚ) :
    truncI32 value = max (-2 ^ 31) (min (truncate value) (2 ^ 31 - 1)) := rfl

/-! ## Eighths of a second -/

section Eighths

variable {eighths elapsedMs : ℕ}

theorem nearestDouble_natCast {count : ℕ} (small : count < 2 ^ 53) :
    nearestDouble (count : ℚ) = count := by
  have bounded : |(count : ℤ)| < 2 ^ 53 := by
    rw [Nat.abs_cast]
    exact_mod_cast small
  exact_mod_cast nearestDouble_intCast bounded

theorem nearestDouble_eighths (small : eighths < 2 ^ 53) :
    nearestDouble (eighths / 8 : ℚ) = eighths / 8 := by
  have bounded : |(eighths : ℤ)| < 2 ^ 53 := by
    rw [Nat.abs_cast]
    exact_mod_cast small
  have rounded : nearestDouble (((eighths : ℤ) : ℚ) / 2 ^ 3) =
      ((eighths : ℤ) : ℚ) / 2 ^ 3 :=
    nearestDouble_div_pow bounded (by norm_num)
  norm_num at rounded
  exact rounded

theorem wholeSlotMs_eighths (small : 125 * eighths < 2 ^ 53) :
    wholeSlotMs (eighths / 8) = 125 * eighths := by
  have product : (eighths / 8 : ℚ) * 1000 = ((125 * eighths : ℕ) : ℚ) := by
    push_cast
    ring
  rw [wholeSlotMs, nearestDouble_eighths (by omega), product,
    nearestDouble_natCast small]
  exact truncU64_natCast (by omega)

/-- The seconds of a reading are not below the boundary before it, and hardly
above the reading. -/
theorem virtualElapsedSecs_bounds {boundary : ℕ}
    (begun : 125 * boundary ≤ elapsedMs) (small : elapsedMs < 2 ^ 51) :
    (boundary / 8 : ℚ) ≤ virtualElapsedSecs elapsedMs ∧
      virtualElapsedSecs elapsedMs ≤
        elapsedMs / 1000 * (1 + 1 / 2 ^ 53) := by
  have nonneg : (0 : ℚ) ≤ elapsedMs / 1000 := by positivity
  rw [virtualElapsedSecs, nearestDouble_natCast (by omega)]
  refine ⟨?_, nearestDouble_le nonneg⟩
  have below : (((boundary : ℤ) : ℚ) / 2 ^ 3) ≤ elapsedMs / 1000 := by
    have scaled : (125 * boundary : ℚ) ≤ elapsedMs := by exact_mod_cast begun
    push_cast
    linarith
  have bounded : |(elapsedMs / 1000 : ℚ)| < 2 ^ (53 - 3) := by
    have cast : (elapsedMs : ℚ) < 2 ^ 51 := by exact_mod_cast small
    rw [abs_of_nonneg nonneg]
    norm_num
    linarith
  have rounded := le_nearestDouble below bounded (by norm_num)
  norm_num at rounded
  exact rounded

/-- Slots of whole eighths of a second are told apart exactly. -/
theorem clockSlot_eighths (someTime : 0 < eighths)
    (small : elapsedMs + 125 * eighths < 2 ^ 51) :
    clockSlot (eighths / 8) elapsedMs =
      min ((elapsedMs / (125 * eighths) : ℕ) : ℤ) (2 ^ 31 - 1) := by
  generalize slot_eq : elapsedMs / (125 * eighths) = slot
  have length : (0 : ℚ) < eighths / 8 := by positivity
  have begun : slot * (125 * eighths) ≤ elapsedMs :=
    slot_eq ▸ Nat.div_mul_le_self _ _
  have running : elapsedMs + 1 ≤ (slot + 1) * (125 * eighths) :=
    slot_eq ▸ (Nat.lt_mul_div_succ elapsedMs (by omega)).trans_eq
      (Nat.mul_comm _ _)
  obtain ⟨low, high⟩ := @virtualElapsedSecs_bounds elapsedMs (slot * eighths)
    (by linarith) (by omega)
  have cast : (elapsedMs : ℚ) < 2 ^ 51 := by
    exact_mod_cast lt_of_le_of_lt (Nat.le_add_right _ _) small
  have next : (elapsedMs + 1 : ℚ) ≤ (slot + 1) * (125 * eighths) := by
    exact_mod_cast running
  -- The quotient before its rounding, and after it.
  have quotientLow :
      (slot : ℚ) ≤ virtualElapsedSecs elapsedMs / (eighths / 8) := by
    rw [le_div_iff₀ length]
    refine le_trans (le_of_eq ?_) low
    push_cast
    ring
  have quotientHigh : virtualElapsedSecs elapsedMs / (eighths / 8) *
      (125 * eighths) ≤ elapsedMs * (1 + 1 / 2 ^ 53) := by
    rw [div_mul_eq_mul_div, div_le_iff₀ length]
    linarith [mul_le_mul_of_nonneg_right high
      (show (0 : ℚ) ≤ 125 * eighths by positivity)]
  rw [clockSlot, nearestDouble_eighths (by omega), truncI32_eq_truncate]
  generalize virtualElapsedSecs elapsedMs / (eighths / 8) = quotient
    at quotientLow quotientHigh ⊢
  have nonneg : 0 ≤ quotient := le_trans (by positivity) quotientLow
  have someMs : (1 : ℚ) ≤ 125 * eighths := by
    have one : (1 : ℚ) ≤ eighths := by exact_mod_cast someTime
    linarith
  have bounded : |quotient| < 2 ^ (53 - 0) := by
    rw [abs_of_nonneg nonneg]
    norm_num
    linarith [le_mul_of_one_le_right nonneg someMs]
  have shownLow : (((slot : ℤ) : ℚ) / 2 ^ 0) ≤ nearestDouble quotient :=
    le_nearestDouble (by norm_num; exact quotientLow) bounded (by norm_num)
  have shownHigh : nearestDouble quotient < slot + 1 := by
    refine lt_of_mul_lt_mul_right (lt_of_lt_of_le ?_ next) (by positivity)
    calc nearestDouble quotient * (125 * eighths)
        ≤ quotient * (1 + 1 / 2 ^ 53) * (125 * eighths) :=
          mul_le_mul_of_nonneg_right (nearestDouble_le nonneg) (by positivity)
      _ = quotient * (125 * eighths) * (1 + 1 / 2 ^ 53) := by ring
      _ ≤ elapsedMs * (1 + 1 / 2 ^ 53) * (1 + 1 / 2 ^ 53) :=
          mul_le_mul_of_nonneg_right quotientHigh (by positivity)
      _ < elapsedMs + 1 := by linarith
  have cut : truncate (nearestDouble quotient) = slot := by
    norm_num at shownLow
    rw [truncate, if_pos (le_trans (by positivity) shownLow),
      Int.floor_eq_iff]
    exact ⟨by exact_mod_cast shownLow, by exact_mod_cast shownHigh⟩
  have slotNonneg : (0 : ℤ) ≤ slot := Int.natCast_nonneg _
  rw [cut]
  exact max_eq_right (le_min (by linarith) (by norm_num))

end Eighths

end Carbonshift
