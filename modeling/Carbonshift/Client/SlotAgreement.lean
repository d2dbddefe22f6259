import Carbonshift.Client.Timeslots
import Carbonshift.Provider.Slots
import Carbonshift.Service.WallClock

/-!
# Slots of the three services

The provider, the client and the engine find the slot of an instant and the
start of a slot in different ways.  They agree exactly when none of their
roundings is seen.
-/

namespace Carbonshift

namespace Client

open Provider (SlotGrid timedelta)

/-- Microseconds of the years 1 to 9999. -/
def IsDatetime (dt : ℤ) : Prop :=
  -62135596800000000 ≤ dt ∧ dt ≤ 253402300799999999

instance (dt : ℤ) : Decidable (IsDatetime dt) :=
  inferInstanceAs (Decidable (_ ∧ _))

/-- The slot length in the engine, in whole milliseconds. -/
def wholeMilliseconds (grid : SlotGrid) : ℤ :=
  roundHalfEven (grid.slotMinutes * 60 * 1000000000) / 1000000

/-- Slot lengths that every service accepts: at least a millisecond, and no
longer than a duration can be. -/
def AcceptedLength (grid : SlotGrid) : Prop :=
  1 ≤ wholeMilliseconds grid ∧ grid.delta ≤ 86399999999999999999

instance (grid : SlotGrid) : Decidable (AcceptedLength grid) :=
  inferInstanceAs (Decidable (_ ∧ _))

/-- The services agree on the slot of an instant. -/
structure AgreeAt (grid : SlotGrid) (dt : ℤ) : Prop where
  provider : Provider.slotOf grid dt = slotContaining grid dt
  client : slotOf grid dt = slotContaining grid dt
  floors : grid.floorToSlot dt = grid.slotStart (slotContaining grid dt) ∧
    floorToSlot grid dt = grid.slotStart (slotContaining grid dt)
  starts : slotStartUtc grid (slotContaining grid dt) =
    grid.slotStart (slotContaining grid dt)
  inside : grid.slotStart (slotContaining grid dt) ≤ dt ∧
    dt < grid.slotStart (slotContaining grid dt) + grid.delta
  engine : grid.epoch ≤ dt →
    ∃ alignment,
      wallClockAlignment (dt * 1000) (grid.epoch * 1000)
          (grid.slotMinutes * 60) = .ok alignment ∧
        alignment.globalSlot = slotContaining grid dt ∧
          alignment.slotStartUtc ≤ dt * 1000 ∧
            dt * 1000 < alignment.slotStartUtc + grid.delta * 1000

/-- Slot number to start and back, in the provider and in the client. -/
structure AgreeOnStart (grid : SlotGrid) (slot : ℤ) : Prop where
  starts : slotStartUtc grid slot = grid.slotStart slot
  provider : Provider.slotOf grid (grid.slotStart slot) = slot
  client : slotOf grid (slotStartUtc grid slot) = slot

/-- The start of a slot, as a product in double precision, is the multiple of
the rounded slot length. -/
def StartsWithoutDrift (grid : SlotGrid) (slot : ℤ) : Prop :=
  RoundsTo (nearestDouble (slot * grid.slotMinutes) * 60000000)
    (grid.delta * slot)

/-- The slots of whole milliseconds have not run ahead of the instant's slot,
and its number fits 32 bits. -/
def FitsEngine (grid : SlotGrid) (dt : ℤ) : Prop :=
  dt - grid.epoch <
      (slotContaining grid dt + 1) * (wholeMilliseconds grid * 1000) ∧
    slotContaining grid dt < 2 ^ 31

instance (grid : SlotGrid) (slot : ℤ) :
    Decidable (StartsWithoutDrift grid slot) :=
  inferInstanceAs (Decidable (RoundsTo _ _))

instance (grid : SlotGrid) (dt : ℤ) : Decidable (FitsEngine grid dt) :=
  inferInstanceAs (Decidable (_ ∧ _))

variable {grid : SlotGrid} {dt slot : ℤ}

theorem slotContaining_bounds (grid : SlotGrid) (dt : ℤ) :
    grid.slotStart (slotContaining grid dt) ≤ dt ∧
      dt < grid.slotStart (slotContaining grid dt) + grid.delta := by
  have positive : 0 < grid.delta := grid.positive
  have lower := Int.mul_ediv_self_le
    (x := dt - grid.epoch) (k := grid.delta) (ne_of_gt positive)
  have upper := Int.lt_mul_ediv_self_add (x := dt - grid.epoch) positive
  unfold SlotGrid.slotStart slotContaining
  constructor <;> omega

theorem floors_eq (grid : SlotGrid) (dt : ℤ) :
    grid.floorToSlot dt = grid.slotStart (slotContaining grid dt) ∧
      floorToSlot grid dt = grid.slotStart (slotContaining grid dt) := by
  unfold SlotGrid.floorToSlot floorToSlot SlotGrid.slotStart slotContaining
  rw [mul_comm]
  exact ⟨rfl, rfl⟩

theorem slotStartUtc_eq_iff (grid : SlotGrid) (slot : ℤ) :
    slotStartUtc grid slot = grid.slotStart slot ↔
      StartsWithoutDrift grid slot := by
  unfold slotStartUtc SlotGrid.slotStart timedelta StartsWithoutDrift
  rw [add_right_inj, roundHalfEven_eq_iff]

/-- Whole milliseconds are not longer than whole microseconds. -/
theorem wholeMilliseconds_le (grid : SlotGrid) :
    wholeMilliseconds grid * 1000 ≤ grid.delta := by
  have positive : 0 < grid.delta := grid.positive
  have nanos := abs_le.mp (roundsTo_roundHalfEven
    (grid.slotMinutes * 60 * 1000000000)).abs_sub_le
  have whole : wholeMilliseconds grid * 1000000 ≤
      roundHalfEven (grid.slotMinutes * 60 * 1000000000) :=
    Int.ediv_mul_le _ (by norm_num)
  have cast : ((wholeMilliseconds grid * 1000000 : ℤ) : ℚ) ≤
      roundHalfEven (grid.slotMinutes * 60 * 1000000000) := by
    exact_mod_cast whole
  push_cast at cast
  have micros := abs_le.mp (roundsTo_roundHalfEven
    (grid.slotMinutes * 60000000)).abs_sub_le
  have strict : ((wholeMilliseconds grid * 1000 : ℤ) : ℚ) <
      ((grid.delta + 1 : ℤ) : ℚ) := by
    push_cast
    unfold SlotGrid.delta timedelta
    linarith
  rw [Int.cast_lt] at strict
  omega

/-! ## The engine -/

section Engine

theorem tryFromSecsF64_of_accepted (accepted : AcceptedLength grid) :
    tryFromSecsF64 (grid.slotMinutes * 60) =
      .ok (roundHalfEven (grid.slotMinutes * 60 * 1000000000)) := by
  obtain ⟨atLeast, atMost⟩ := accepted
  have nanos := abs_le.mp (roundsTo_roundHalfEven
    (grid.slotMinutes * 60 * 1000000000)).abs_sub_le
  have micros := abs_le.mp (roundsTo_roundHalfEven
    (grid.slotMinutes * 60000000)).abs_sub_le
  have whole : wholeMilliseconds grid * 1000000 ≤
      roundHalfEven (grid.slotMinutes * 60 * 1000000000) :=
    Int.ediv_mul_le _ (by norm_num)
  have cast : (1000000 : ℚ) ≤
      roundHalfEven (grid.slotMinutes * 60 * 1000000000) := by
    exact_mod_cast (by omega : (1000000 : ℤ) ≤ _)
  have delta : (roundHalfEven (grid.slotMinutes * 60000000) : ℚ) ≤
      86399999999999999999 := by
    exact_mod_cast atMost
  rw [tryFromSecsF64, if_neg (by linarith), if_neg (by linarith)]

/-- The engine counts slots of whole milliseconds. -/
theorem wallClockAlignment_eq (accepted : AcceptedLength grid)
    (range : IsDatetime dt) (epochRange : IsDatetime grid.epoch)
    (after : grid.epoch ≤ dt) :
    wallClockAlignment (dt * 1000) (grid.epoch * 1000)
        (grid.slotMinutes * 60) =
      if (dt - grid.epoch) / 1000 / wholeMilliseconds grid < 2 ^ 31 then
        .ok
          { globalSlot := (dt - grid.epoch) / 1000 / wholeMilliseconds grid
            slotStartUtc := grid.epoch * 1000 +
              (dt - grid.epoch) / 1000 / wholeMilliseconds grid *
                wholeMilliseconds grid * 1000000
            elapsedInSlotMs :=
              (dt - grid.epoch) / 1000 % wholeMilliseconds grid }
      else
        .error ("global slot does not fit the service index: " ++
          "out of range integral type conversion attempted") := by
  obtain ⟨atLeast, atMost⟩ := accepted
  have shorter := wholeMilliseconds_le grid
  have elapsed : (dt * 1000 - grid.epoch * 1000) / 1000000 =
      (dt - grid.epoch) / 1000 := by
    omega
  have length : tryIntoU64 (wholeMilliseconds grid) =
      .ok (wholeMilliseconds grid) := by
    rw [tryIntoU64, if_pos (by omega)]
  unfold IsDatetime at range epochRange
  have passed : tryIntoU64 ((dt - grid.epoch) / 1000) =
      .ok ((dt - grid.epoch) / 1000) := by
    rw [tryIntoU64, if_pos (by omega)]
  have nonneg : 0 ≤ (dt - grid.epoch) / 1000 / wholeMilliseconds grid :=
    Int.ediv_nonneg (by omega) (by omega)
  have within : (dt - grid.epoch) / 1000 / wholeMilliseconds grid *
      wholeMilliseconds grid ≤ (dt - grid.epoch) / 1000 :=
    Int.ediv_mul_le _ (by omega)
  have offset : 0 ≤ (dt - grid.epoch) / 1000 / wholeMilliseconds grid *
      wholeMilliseconds grid :=
    mul_nonneg nonneg (by omega)
  unfold wallClockAlignment
  rw [tryFromSecsF64_of_accepted ⟨atLeast, atMost⟩]
  have divided : roundHalfEven (grid.slotMinutes * 60 * 1000000000) /
      1000000 = wholeMilliseconds grid := rfl
  simp only [Except.mapError, bind, Except.bind, divided, length, elapsed,
    passed]
  rw [if_neg (by omega), if_neg (by omega)]
  generalize (dt - grid.epoch) / 1000 / wholeMilliseconds grid = slot
    at nonneg within offset ⊢
  by_cases fits : slot < 2 ^ 31
  · have index : tryIntoI32 slot = .ok slot := by
      rw [tryIntoI32, if_pos (by omega)]
    have start : tryIntoU64 (slot * wholeMilliseconds grid) =
        .ok (slot * wholeMilliseconds grid) := by
      rw [tryIntoU64, if_pos (by omega)]
    have instant : systemTimeChecked
        (grid.epoch * 1000 + slot * wholeMilliseconds grid * 1000000) =
          some (grid.epoch * 1000 +
            slot * wholeMilliseconds grid * 1000000) := by
      rw [systemTimeChecked, if_pos (by omega)]
    simp only [index, start, instant, if_pos fits]
    rfl
  · have index : tryIntoI32 slot =
        .error "out of range integral type conversion attempted" := by
      rw [tryIntoI32, if_neg (by omega)]
    simp only [index, if_neg fits]

/-- The engine is in the provider's slot. -/
theorem engine_iff (accepted : AcceptedLength grid)
    (range : IsDatetime dt) (epochRange : IsDatetime grid.epoch)
    (after : grid.epoch ≤ dt) :
    (∃ alignment,
      wallClockAlignment (dt * 1000) (grid.epoch * 1000)
          (grid.slotMinutes * 60) = .ok alignment ∧
        alignment.globalSlot = slotContaining grid dt ∧
          alignment.slotStartUtc ≤ dt * 1000 ∧
            dt * 1000 < alignment.slotStartUtc + grid.delta * 1000) ↔
      FitsEngine grid dt := by
  have shorter := wholeMilliseconds_le grid
  have positive : 0 < wholeMilliseconds grid := accepted.1
  have inside := slotContaining_bounds grid dt
  have slots : (dt - grid.epoch) / 1000 / wholeMilliseconds grid =
      (dt - grid.epoch) / (wholeMilliseconds grid * 1000) := by
    rw [Int.ediv_ediv_of_nonneg (by norm_num), mul_comm]
  rw [wallClockAlignment_eq accepted range epochRange after, slots]
  have nonneg : 0 ≤ slotContaining grid dt :=
    Int.ediv_nonneg (by omega) (le_of_lt grid.positive)
  have lower : slotContaining grid dt * (wholeMilliseconds grid * 1000) ≤
      dt - grid.epoch := by
    have bound := mul_le_mul_of_nonneg_left shorter nonneg
    have start : grid.slotStart (slotContaining grid dt) =
        grid.epoch + slotContaining grid dt * grid.delta := by
      rw [SlotGrid.slotStart, mul_comm]
    omega
  have same_iff : (dt - grid.epoch) / (wholeMilliseconds grid * 1000) =
      slotContaining grid dt ↔
        dt - grid.epoch <
          (slotContaining grid dt + 1) * (wholeMilliseconds grid * 1000) := by
    rw [Int.ediv_eq_iff_of_pos (by omega), add_mul, one_mul]
    exact and_iff_right lower
  constructor
  · rintro ⟨alignment, done, slot, -, -⟩
    split at done
    · rename_i fits
      cases done
      exact ⟨same_iff.mp slot, slot ▸ fits⟩
    · cases done
  · rintro ⟨ahead, fits⟩
    have same := same_iff.mpr ahead
    rw [same, if_pos fits]
    refine ⟨_, rfl, rfl, ?_, ?_⟩
    · dsimp only
      rw [← mul_assoc] at lower
      omega
    · dsimp only
      rw [add_mul, one_mul, ← mul_assoc] at ahead
      omega

end Engine

/-! ## Agreement -/

theorem abs_sub_epoch_lt (accepted : AcceptedLength grid)
    (range : IsDatetime dt) (epochRange : IsDatetime grid.epoch) :
    |dt - grid.epoch| < 2 ^ 52 * grid.delta := by
  have shorter := wholeMilliseconds_le grid
  have atLeast := accepted.1
  unfold IsDatetime at range epochRange
  rw [abs_lt]
  constructor <;> omega

/-- Near the epoch only instants inside an earlier slot are cut wrongly. -/
theorem cutsToFloor_iff_near (near : |dt - grid.epoch| < 2 ^ 52) :
    CutsToFloor ((dt - grid.epoch : ℤ) / grid.delta : ℚ) ↔
      grid.epoch ≤ dt ∨ grid.delta ∣ dt - grid.epoch := by
  have positive : 0 < grid.delta := grid.positive
  have small : |dt - grid.epoch| < 2 ^ 52 * grid.delta :=
    lt_of_lt_of_le near (le_mul_of_one_le_right (by norm_num) (by omega))
  rw [← truncatedQuotient_eq_ediv_iff positive small,
    truncatedQuotient_eq_tdiv positive near, Int.tdiv_eq_ediv]
  split
  · rename_i exact_
    refine iff_of_true (by omega) ?_
    rcases exact_ with nonneg | divides
    · exact Or.inl (by omega)
    · exact Or.inr divides
  · rename_i inexact
    rw [not_or] at inexact
    refine iff_of_false ?_ ?_
    · rw [Int.sign_eq_one_of_pos positive]
      omega
    · rw [not_or]
      exact ⟨by omega, inexact.2⟩

section Examples

/-- Slots of a seventh of a minute, which is not a whole microsecond. -/
private def seventhSlots : SlotGrid :=
  ⟨1 / 7, 0, by decide +kernel⟩

end Examples

end Client

end Carbonshift
