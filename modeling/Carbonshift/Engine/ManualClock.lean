import Mathlib.Algebra.Order.Floor.Ring
import Mathlib.Data.Rat.Floor
import Mathlib.Tactic.FieldSimp
import Mathlib.Tactic.Linarith

/-!
# The manual clock

An advance computes the next boundary in whole milliseconds, the main loop
derives the slot from the elapsed time in seconds.  The two agree when a slot
is a whole number of milliseconds; a fraction is cut off the boundary, and the
slot derived from it is the one before.
-/

namespace Carbonshift

/-! ## Casts of numbers -/

/-- Cast to an unsigned 64-bit integer: cut off and clamped. -/
def truncU64 (value : ℚ) : ℕ :=
  min ⌊value⌋.toNat (2 ^ 64 - 1)

/-- Cast to a signed 32-bit integer: cut off and clamped. -/
def truncI32 (value : ℚ) : ℤ :=
  max (-2 ^ 31) (min (if 0 ≤ value then ⌊value⌋ else ⌈value⌉) (2 ^ 31 - 1))

theorem truncI32_of_nonneg {value : ℚ} (nonneg : 0 ≤ value) :
    truncI32 value = min ⌊value⌋ (2 ^ 31 - 1) := by
  have floored : 0 ≤ ⌊value⌋ := Int.floor_nonneg.mpr nonneg
  rw [truncI32, if_pos nonneg]
  omega

theorem truncU64_le {value : ℚ} (nonneg : 0 ≤ value) :
    (truncU64 value : ℚ) ≤ value := by
  have floored : 0 ≤ ⌊value⌋ := Int.floor_nonneg.mpr nonneg
  have cut : (truncU64 value : ℤ) ≤ ⌊value⌋ := by
    unfold truncU64
    omega
  calc (truncU64 value : ℚ) = ((truncU64 value : ℤ) : ℚ) := by norm_cast
    _ ≤ (⌊value⌋ : ℚ) := by exact_mod_cast cut
    _ ≤ value := Int.floor_le value

theorem truncU64_natCast {count : ℕ} (fits : count < 2 ^ 64) :
    truncU64 count = count := by
  rw [truncU64, Int.floor_natCast, Int.toNat_natCast]
  omega

/-! ## The clock -/

/-- Seconds of a slot, at least a millisecond. -/
def effectiveSlotDurationSecs (slotDurationSeconds slotSpeedScale : ℚ) : ℚ :=
  max (slotDurationSeconds * slotSpeedScale) (1 / 1000)

theorem effectiveSlotDurationSecs_pos
    (slotDurationSeconds slotSpeedScale : ℚ) :
    0 < effectiveSlotDurationSecs slotDurationSeconds slotSpeedScale :=
  lt_max_of_lt_right (by norm_num)

/-- The counters of the shared state that an advance moves. -/
structure SlotClock where
  virtualElapsedMs : ℕ
  currentSlot : ℤ
  deriving DecidableEq, Repr

section Clock

variable (totalSlots : ℤ) (effectiveSlotDurationSecs : ℚ)

/-- The slot the main loop derives from the elapsed time. -/
def derivedSlot (virtualElapsedMs : ℕ) : ℤ :=
  min
    (truncI32 ((virtualElapsedMs : ℚ) / 1000 / effectiveSlotDurationSecs))
    (totalSlots - 1)

/-- Move the clock to the boundary of the next slot; the products wrap. -/
def advanceToNextSlot (clock : SlotClock) : SlotClock :=
  let slotMs := truncU64 (effectiveSlotDurationSecs * 1000)
  let nextMs :=
    ((clock.currentSlot % 2 ^ 64).toNat + 1) % 2 ^ 64 * slotMs % 2 ^ 64
  { virtualElapsedMs := nextMs
    currentSlot := derivedSlot totalSlots effectiveSlotDurationSecs nextMs }

/-- Every advance enters the next slot, and the main loop agrees; so many
advances from the first slot reach that slot, or the last one. -/
structure AdvancesSlotBySlot : Prop where
  enters : ∀ clock : SlotClock,
    0 ≤ clock.currentSlot → clock.currentSlot < totalSlots - 1 →
      (advanceToNextSlot totalSlots effectiveSlotDurationSecs
          clock).currentSlot = clock.currentSlot + 1 ∧
        derivedSlot totalSlots effectiveSlotDurationSecs
          (advanceToNextSlot totalSlots effectiveSlotDurationSecs
            clock).virtualElapsedMs = clock.currentSlot + 1
  reaches : ∀ advances : ℕ,
    ((advanceToNextSlot totalSlots effectiveSlotDurationSecs)^[advances]
      ⟨0, 0⟩).currentSlot = min (advances : ℤ) (totalSlots - 1)

/-- A slot is a whole number of milliseconds, and the end of the horizon fits
into the counter.  A single slot is never left. -/
def WholeMilliseconds : Prop :=
  totalSlots = 1 ∨
    ∃ slotMs : ℕ, effectiveSlotDurationSecs * 1000 = slotMs ∧
      totalSlots * slotMs < 2 ^ 64

end Clock

section Progress

variable {totalSlots : ℤ} {duration : ℚ}

theorem nonneg_derived (positive : 0 < duration) (elapsedMs : ℕ) :
    0 ≤ (elapsedMs : ℚ) / 1000 / duration := by
  positivity

/-- Before a boundary the clock shows an earlier slot. -/
theorem derivedSlot_lt (positive : 0 < duration) {elapsedMs slot : ℕ}
    (before : (elapsedMs : ℚ) < slot * (duration * 1000)) :
    derivedSlot totalSlots duration elapsedMs < slot := by
  have quotient : (elapsedMs : ℚ) / 1000 / duration < (slot : ℤ) := by
    rw [div_div, div_lt_iff₀ (by positivity)]
    calc (elapsedMs : ℚ) < slot * (duration * 1000) := before
      _ = ((slot : ℤ) : ℚ) * (1000 * duration) := by push_cast; ring
  have floored := Int.floor_lt.mpr quotient
  rw [derivedSlot, truncI32_of_nonneg (nonneg_derived positive elapsedMs)]
  omega

/-- At a boundary the clock shows the slot that starts there. -/
theorem derivedSlot_boundary {slotMs slot : ℕ}
    (whole : duration * 1000 = slotMs) (positive : 0 < duration)
    (inside : (slot : ℤ) < 2 ^ 31) :
    derivedSlot totalSlots duration (slot * slotMs) =
      min (slot : ℤ) (totalSlots - 1) := by
  have quotient : ((slot * slotMs : ℕ) : ℚ) / 1000 / duration = (slot : ℤ) := by
    rw [Nat.cast_mul, ← whole]
    push_cast
    field_simp
  have floored : ⌊((slot * slotMs : ℕ) : ℚ) / 1000 / duration⌋ = (slot : ℤ) := by
    rw [quotient, Int.floor_intCast]
  rw [derivedSlot, truncI32_of_nonneg (nonneg_derived positive _), floored]
  omega

/-- The next boundary, while it fits into the counter. -/
theorem advanceToNextSlot_elapsed {slotMs : ℕ} {clock : SlotClock}
    (whole : duration * 1000 = slotMs) (someMs : 0 < slotMs)
    (nonneg : 0 ≤ clock.currentSlot)
    (fits : (clock.currentSlot + 1) * slotMs < 2 ^ 64) :
    (advanceToNextSlot totalSlots duration clock).virtualElapsedMs =
      (clock.currentSlot.toNat + 1) * slotMs := by
  have bound : (clock.currentSlot.toNat + 1) * slotMs < 2 ^ 64 := by
    zify
    rw [Int.toNat_of_nonneg nonneg]
    exact fits
  have below : clock.currentSlot.toNat + 1 < 2 ^ 64 :=
    lt_of_le_of_lt (Nat.le_mul_of_pos_right _ someMs) bound
  have small : slotMs < 2 ^ 64 :=
    lt_of_le_of_lt (Nat.le_mul_of_pos_left _ (Nat.succ_pos _)) bound
  have casted : (clock.currentSlot % 2 ^ 64).toNat = clock.currentSlot.toNat := by
    rw [Int.emod_eq_of_lt nonneg (by omega)]
  rw [advanceToNextSlot]
  dsimp only
  rw [whole, truncU64_natCast small, casted, Nat.mod_eq_of_lt below,
    Nat.mod_eq_of_lt bound]

/-- With whole milliseconds an advance enters the next slot or stays in the
last one. -/
theorem advanceToNextSlot_whole {slotMs : ℕ} {clock : SlotClock}
    (narrow : totalSlots < 2 ^ 31) (positive : 0 < duration)
    (whole : duration * 1000 = slotMs)
    (fits : totalSlots * slotMs < 2 ^ 64)
    (nonneg : 0 ≤ clock.currentSlot)
    (inside : clock.currentSlot < totalSlots) :
    derivedSlot totalSlots duration
        (advanceToNextSlot totalSlots duration clock).virtualElapsedMs =
      min (clock.currentSlot + 1) (totalSlots - 1) := by
  have someMs : 0 < slotMs := by
    have scaled : (0 : ℚ) < slotMs := whole ▸ by positivity
    exact_mod_cast scaled
  have bound : (clock.currentSlot + 1) * slotMs < 2 ^ 64 :=
    lt_of_le_of_lt (mul_le_mul_of_nonneg_right (by omega) (by omega)) fits
  rw [advanceToNextSlot_elapsed whole someMs nonneg bound,
    derivedSlot_boundary whole positive (by omega)]
  omega

theorem advancesSlotBySlot_of_whole (someSlot : 0 < totalSlots)
    (narrow : totalSlots < 2 ^ 31) (positive : 0 < duration)
    {slotMs : ℕ} (whole : duration * 1000 = slotMs)
    (fits : totalSlots * slotMs < 2 ^ 64) :
    AdvancesSlotBySlot totalSlots duration where
  enters clock nonneg before := by
    have entered := advanceToNextSlot_whole narrow positive whole fits nonneg
      (by omega)
    rw [min_eq_left (by omega)] at entered
    exact ⟨entered, entered⟩
  reaches advances := by
    induction advances with
    | zero =>
        rw [Function.iterate_zero_apply]
        dsimp only
        omega
    | succ advances inductionHypothesis =>
        rw [Function.iterate_succ_apply']
        have entered := advanceToNextSlot_whole narrow positive whole fits
          (by rw [inductionHypothesis]; omega)
          (by rw [inductionHypothesis]; omega)
        rw [inductionHypothesis] at entered
        refine entered.trans ?_
        push_cast
        omega

/-- A horizon of one slot is never left. -/
theorem advancesSlotBySlot_single (positive : 0 < duration) :
    AdvancesSlotBySlot 1 duration where
  enters clock nonneg before := absurd before (by omega)
  reaches advances := by
    have only : ∀ elapsedMs, derivedSlot 1 duration elapsedMs = 0 := by
      intro elapsedMs
      have floored : 0 ≤ ⌊(elapsedMs : ℚ) / 1000 / duration⌋ :=
        Int.floor_nonneg.mpr (nonneg_derived positive elapsedMs)
      rw [derivedSlot, truncI32_of_nonneg (nonneg_derived positive elapsedMs)]
      omega
    cases advances with
    | zero => rfl
    | succ advances =>
        rw [Function.iterate_succ_apply']
        refine (only _).trans ?_
        push_cast
        omega

/-- The first advance already needs whole milliseconds. -/
theorem whole_of_enters (positive : 0 < duration) (more : 1 < totalSlots)
    (steady : AdvancesSlotBySlot totalSlots duration) :
    duration * 1000 = truncU64 (duration * 1000) := by
  have small : truncU64 (duration * 1000) < 2 ^ 64 := by
    unfold truncU64
    omega
  have entered := (steady.enters ⟨0, 0⟩ le_rfl (by dsimp only; omega)).2
  have elapsed :
      (advanceToNextSlot totalSlots duration ⟨0, 0⟩).virtualElapsedMs =
        truncU64 (duration * 1000) := by
    rw [advanceToNextSlot]
    dsimp only
    rw [Int.zero_emod, Int.toNat_zero, Nat.zero_add,
      Nat.mod_eq_of_lt (by norm_num : 1 < 2 ^ 64), Nat.one_mul,
      Nat.mod_eq_of_lt small]
  rw [elapsed] at entered
  refine le_antisymm (not_lt.mp fun cut => ?_)
    (truncU64_le (by positivity))
  have earlier : derivedSlot totalSlots duration
      (truncU64 (duration * 1000)) < (1 : ℕ) :=
    derivedSlot_lt positive (by simpa using cut)
  rw [entered] at earlier
  exact absurd earlier (by simp)

/-- The advance at the end of the horizon must not wrap. -/
theorem fits_of_reaches (positive : 0 < duration) (more : 1 < totalSlots)
    (narrow : totalSlots < 2 ^ 31)
    (steady : AdvancesSlotBySlot totalSlots duration) {slotMs : ℕ}
    (small : slotMs < 2 ^ 64) (whole : duration * 1000 = slotMs) :
    totalSlots * slotMs < 2 ^ 64 := by
  by_contra wraps
  obtain ⟨last, rfl⟩ : ∃ last : ℕ, totalSlots = last + 1 :=
    ⟨(totalSlots - 1).toNat, by omega⟩
  have before := steady.reaches last
  have after := steady.reaches (last + 1)
  rw [Function.iterate_succ_apply'] at after
  generalize (advanceToNextSlot (last + 1) duration)^[last] ⟨0, 0⟩ = clock
    at before after
  have here : clock.currentSlot = last := by omega
  have beyond : 2 ^ 64 ≤ (last + 1) * slotMs := by
    zify
    omega
  have elapsed :
      (advanceToNextSlot (last + 1) duration clock).virtualElapsedMs <
        last * slotMs := by
    have below : last + 1 < 2 ^ 64 := by omega
    rw [advanceToNextSlot]
    dsimp only
    rw [here, whole, truncU64_natCast small,
      Int.emod_eq_of_lt (by omega) (by omega), Int.toNat_natCast,
      Nat.mod_eq_of_lt below]
    have wrapped : (last + 1) * slotMs % 2 ^ 64 ≤
        (last + 1) * slotMs - 2 ^ 64 := by
      rw [Nat.mod_eq_sub_mod beyond]
      exact Nat.mod_le _ _
    rw [Nat.succ_mul] at beyond wrapped ⊢
    omega
  have earlier : derivedSlot ((last : ℤ) + 1) duration
      (advanceToNextSlot (last + 1) duration clock).virtualElapsedMs < last :=
    derivedSlot_lt positive (by rw [whole]; exact_mod_cast elapsed)
  refine earlier.ne (Eq.trans after ?_)
  push_cast
  omega

/-- The advances go slot by slot exactly when no part of a millisecond is cut
off. -/
theorem advances_slot_by_slot_iff (slotDurationSeconds slotSpeedScale : ℚ)
    (someSlot : 0 < totalSlots) (narrow : totalSlots < 2 ^ 31) :
    AdvancesSlotBySlot totalSlots
        (effectiveSlotDurationSecs slotDurationSeconds slotSpeedScale) ↔
      WholeMilliseconds totalSlots
        (effectiveSlotDurationSecs slotDurationSeconds slotSpeedScale) := by
  have positive :
      0 < effectiveSlotDurationSecs slotDurationSeconds slotSpeedScale :=
    lt_of_lt_of_le (by norm_num) (le_max_right _ _)
  generalize effectiveSlotDurationSecs slotDurationSeconds slotSpeedScale =
    duration at positive ⊢
  constructor
  · intro steady
    by_cases single : totalSlots = 1
    · exact Or.inl single
    · have more : 1 < totalSlots := by omega
      have whole := whole_of_enters positive more steady
      have small : truncU64 (duration * 1000) < 2 ^ 64 := by
        unfold truncU64
        omega
      exact Or.inr
        ⟨_, whole, fits_of_reaches positive more narrow steady small whole⟩
  · rintro (rfl | ⟨slotMs, whole, fits⟩)
    · exact advancesSlotBySlot_single positive
    · exact advancesSlotBySlot_of_whole someSlot narrow positive whole fits

/-- A day of slots of ten seconds. -/
theorem ten_second_slots_advance :
    AdvancesSlotBySlot 24 (effectiveSlotDurationSecs 10 1) :=
  (advances_slot_by_slot_iff 10 1 (by norm_num) (by norm_num)).mpr
    (Or.inr ⟨10000, by norm_num [effectiveSlotDurationSecs], by norm_num⟩)

/-- With slots of a millisecond and a half the first advance stays in the
first slot. -/
theorem fractional_slots_stand_still :
    ¬ AdvancesSlotBySlot 24 (effectiveSlotDurationSecs (3 / 2000) 1) := by
  intro steady
  have entered := (steady.enters ⟨0, 0⟩ (by decide) (by decide)).1
  revert entered
  decide +kernel

end Progress

end Carbonshift
