import Carbonshift.Library.Rounding
import Mathlib.Data.Int.Log
import Mathlib.Tactic.Positivity
import Mathlib.Tactic.FieldSimp

/-!
# Double precision

Rounding of an exact value to 53 significant bits, ties to even.  Exponents
are not bounded, so magnitudes that over- or underflow are left out.
-/

/-- Spacing of the doubles at a value. -/
def unitInLastPlace (value : ℚ) : ℚ :=
  2 ^ (Int.log 2 |value| - 52)

/-- The double nearest to a value. -/
def nearestDouble (value : ℚ) : ℚ :=
  if value = 0 then
    0
  else
    roundHalfEven (value / unitInLastPlace value) * unitInLastPlace value

/-- The integer part, toward zero. -/
def truncate (value : ℚ) : ℤ :=
  if 0 ≤ value then ⌊value⌋ else ⌈value⌉

@[simp]
theorem truncate_intCast (value : ℤ) : truncate (value : ℚ) = value := by
  unfold truncate
  split
  · exact Int.floor_intCast value
  · exact Int.ceil_intCast value

/-- Quotient of two integers in double precision, cut to an integer. -/
def truncatedQuotient (dividend divisor : ℤ) : ℤ :=
  truncate (nearestDouble (dividend / divisor : ℚ))

theorem unitInLastPlace_pos (value : ℚ) : 0 < unitInLastPlace value :=
  zpow_pos two_pos _

/-- A whole number of units is a double. -/
theorem nearestDouble_of_whole {value : ℚ} {units : ℤ}
    (whole : value = units * unitInLastPlace value) :
    nearestDouble value = value := by
  unfold nearestDouble
  split
  · rename_i zero
    exact zero.symm
  · have positive := unitInLastPlace_pos value
    have quotient : value / unitInLastPlace value = units := by
      rw [div_eq_iff (ne_of_gt positive)]
      exact whole
    rw [quotient, roundHalfEven_intCast, ← whole]

/-- Below `2 ^ 52` the spacing is the inverse of a power of two. -/
theorem exists_unitInLastPlace {value : ℚ} (nonzero : value ≠ 0)
    {exponent : ℕ} (small : |value| < 2 ^ exponent)
    (within : exponent ≤ 53) :
    ∃ shift : ℕ, 53 ≤ shift + exponent ∧
      unitInLastPlace value = ((2 : ℚ) ^ shift)⁻¹ := by
  have positive : 0 < |value| := abs_pos.mpr nonzero
  have below : |value| < ((2 : ℕ) : ℚ) ^ (exponent : ℤ) := by
    rw [zpow_natCast]
    exact_mod_cast small
  have log : Int.log 2 |value| < exponent :=
    (Int.lt_zpow_iff_log_lt Nat.one_lt_two positive).mp below
  obtain ⟨shift, same⟩ :=
    Int.eq_ofNat_of_zero_le (show 0 ≤ 52 - Int.log 2 |value| by omega)
  refine ⟨shift, by omega, ?_⟩
  rw [unitInLastPlace, ← zpow_natCast, ← zpow_neg]
  congr 1
  omega

/-- A unit in the last place is at most `2 ^ (-52)` of the value. -/
theorem unitInLastPlace_mul_le {value : ℚ} (nonzero : value ≠ 0) :
    unitInLastPlace value * 2 ^ 52 ≤ |value| := by
  have log := Int.zpow_log_le_self Nat.one_lt_two (abs_pos.mpr nonzero)
  have split : unitInLastPlace value * 2 ^ 52 = (2 : ℚ) ^ Int.log 2 |value| := by
    rw [unitInLastPlace, zpow_sub₀ two_ne_zero]
    exact div_mul_cancel₀ _ (by norm_num)
  rw [split]
  exact_mod_cast log

/-- Rounding adds at most half a unit in the last place. -/
theorem nearestDouble_le {value : ℚ} (nonneg : 0 ≤ value) :
    nearestDouble value ≤ value * (1 + 1 / 2 ^ 53) := by
  by_cases zero : value = 0
  · rw [zero, zero_mul]
    exact le_rfl
  · have positive := unitInLastPlace_pos value
    have unit := unitInLastPlace_mul_le zero
    have near := abs_le.mp
      (roundsTo_roundHalfEven (value / unitInLastPlace value)).abs_sub_le
    rw [abs_of_nonneg nonneg] at unit
    rw [nearestDouble, if_neg zero]
    calc (roundHalfEven (value / unitInLastPlace value) : ℚ) *
          unitInLastPlace value
        ≤ (value / unitInLastPlace value + 1 / 2) * unitInLastPlace value :=
          mul_le_mul_of_nonneg_right (by linarith) positive.le
      _ = value + unitInLastPlace value / 2 := by
          rw [add_mul, div_mul_cancel₀ _ positive.ne']
          ring
      _ ≤ value * (1 + 1 / 2 ^ 53) := by linarith

/-- Rounding does not cross a fraction over a power of two. -/
theorem le_nearestDouble {value : ℚ} {bound : ℤ} {bits : ℕ}
    (below : (bound / 2 ^ bits : ℚ) ≤ value)
    (small : |value| < 2 ^ (53 - bits)) (within : bits ≤ 53) :
    (bound / 2 ^ bits : ℚ) ≤ nearestDouble value := by
  by_cases zero : value = 0
  · rw [zero] at below ⊢
    exact below
  · obtain ⟨shift, enough, unit⟩ :=
      exists_unitInLastPlace zero small (Nat.sub_le 53 bits)
    obtain ⟨rest, rfl⟩ : ∃ rest, shift = rest + bits :=
      ⟨shift - bits, by omega⟩
    have scale : (0 : ℚ) < 2 ^ bits := by positivity
    have rounded : bound * 2 ^ rest ≤
        roundHalfEven (value / unitInLastPlace value) := by
      refine le_roundHalfEven ?_
      rw [unit, div_inv_eq_mul, pow_add, ← div_le_iff₀ (by positivity)]
      refine le_trans (le_of_eq ?_) below
      push_cast
      field_simp
    rw [nearestDouble, if_neg zero]
    calc (bound / 2 ^ bits : ℚ)
        = ((bound * 2 ^ rest : ℤ) : ℚ) * unitInLastPlace value := by
          rw [unit]
          push_cast
          field_simp
          ring
      _ ≤ roundHalfEven (value / unitInLastPlace value) *
            unitInLastPlace value :=
          mul_le_mul_of_nonneg_right (by exact_mod_cast rounded)
            (unitInLastPlace_pos value).le

/-- Fractions of 53 bits over a power of two are doubles. -/
theorem nearestDouble_div_pow {value : ℤ} {bits : ℕ}
    (small : |value| < 2 ^ 53) (within : bits ≤ 53) :
    nearestDouble (value / 2 ^ bits : ℚ) = value / 2 ^ bits := by
  by_cases zero : value = 0
  · rw [zero, Int.cast_zero, zero_div]
    rfl
  · have scale : (0 : ℚ) < 2 ^ bits := by positivity
    have nonzero : (value / 2 ^ bits : ℚ) ≠ 0 :=
      div_ne_zero (by exact_mod_cast zero) scale.ne'
    have below : |(value / 2 ^ bits : ℚ)| < 2 ^ (53 - bits) := by
      rw [abs_div, abs_of_pos scale, div_lt_iff₀ scale, ← pow_add,
        Nat.sub_add_cancel within, ← Int.cast_abs]
      exact_mod_cast small
    obtain ⟨shift, enough, unit⟩ :=
      exists_unitInLastPlace nonzero below (Nat.sub_le 53 bits)
    obtain ⟨rest, rfl⟩ : ∃ rest, shift = rest + bits :=
      ⟨shift - bits, by omega⟩
    have whole : (value / 2 ^ bits : ℚ) =
        ((value * 2 ^ rest : ℤ) : ℚ) *
          unitInLastPlace (value / 2 ^ bits : ℚ) := by
      rw [unit]
      push_cast
      field_simp
      ring
    exact nearestDouble_of_whole whole

/-- Integers of 53 bits are doubles. -/
theorem nearestDouble_intCast {value : ℤ} (small : |value| < 2 ^ 53) :
    nearestDouble (value : ℚ) = value := by
  simpa using nearestDouble_div_pow small (Nat.zero_le 53)

theorem nearestDouble_neg (value : ℚ) :
    nearestDouble (-value) = -nearestDouble value := by
  have unit : unitInLastPlace (-value) = unitInLastPlace value := by
    rw [unitInLastPlace, abs_neg, unitInLastPlace]
  unfold nearestDouble
  by_cases zero : value = 0
  · rw [zero]
    rfl
  · rw [if_neg zero, if_neg (neg_ne_zero.mpr zero), unit, neg_div,
      roundHalfEven_neg, Int.cast_neg, neg_mul]

theorem truncate_neg (value : ℚ) : truncate (-value) = -truncate value := by
  unfold truncate
  rcases lt_trichotomy value 0 with negative | rfl | positive
  · rw [if_pos (by linarith), if_neg (by linarith), Int.floor_neg]
  · rfl
  · rw [if_neg (by linarith), if_pos (by linarith), Int.ceil_neg]

/-- The end of the unit interval of a value is more than half a unit in the
last place away. -/
def ClearOfNext (value : ℚ) : Prop :=
  unitInLastPlace value / 2 < ⌊value⌋ + 1 - value

instance (value : ℚ) : Decidable (ClearOfNext value) :=
  inferInstanceAs (Decidable (_ < _))

/-- The double nearest to a value lies in the same unit interval, or is its
end. -/
theorem truncate_nearestDouble {value : ℚ} (nonneg : 0 ≤ value)
    (small : value < 2 ^ 52) :
    truncate (nearestDouble value) =
      if ClearOfNext value then ⌊value⌋ else ⌊value⌋ + 1 := by
  by_cases zero : value = 0
  · subst zero
    have clear : ClearOfNext 0 := by
      rw [ClearOfNext, unitInLastPlace, abs_zero, Int.log_zero_right]
      norm_num
    rw [if_pos clear]
    rfl
  · have magnitude : |value| < 2 ^ 52 := by rwa [abs_of_nonneg nonneg]
    obtain ⟨shift, enough, unit⟩ :=
      exists_unitInLastPlace zero magnitude (by norm_num)
    obtain ⟨half, rfl⟩ : ∃ half, shift = half + 1 := ⟨shift - 1, by omega⟩
    have scale : (0 : ℚ) < 2 ^ (half + 1) := by positivity
    have quotient : value / unitInLastPlace value = value * 2 ^ (half + 1) := by
      rw [unit, div_inv_eq_mul]
    have lower := Int.floor_le value
    have upper := Int.lt_floor_add_one value
    -- The rounded multiple of the unit, and the two ends of the interval.
    have above : ⌊value⌋ * 2 ^ (half + 1) ≤
        roundHalfEven (value * 2 ^ (half + 1)) := by
      refine le_roundHalfEven ?_
      push_cast
      exact mul_le_mul_of_nonneg_right lower scale.le
    have below : roundHalfEven (value * 2 ^ (half + 1)) ≤
        (⌊value⌋ + 1) * 2 ^ (half + 1) := by
      refine roundHalfEven_le ?_
      push_cast
      exact mul_le_mul_of_nonneg_right upper.le scale.le
    have double : nearestDouble value =
        roundHalfEven (value * 2 ^ (half + 1)) / 2 ^ (half + 1) := by
      rw [nearestDouble, if_neg zero, quotient, unit, div_eq_mul_inv]
    have positive : 0 ≤ nearestDouble value := by
      rw [double]
      refine div_nonneg ?_ scale.le
      have floorNonneg : 0 ≤ ⌊value⌋ := Int.floor_nonneg.mpr nonneg
      exact_mod_cast le_trans (by positivity) above
    rw [truncate, if_pos positive]
    have distance : (⌊value⌋ + 1 - value - unitInLastPlace value / 2) *
        2 ^ (half + 1) =
          ((⌊value⌋ + 1) * 2 ^ (half + 1) : ℤ) -
            value * 2 ^ (half + 1) - 1 / 2 := by
      rw [unit]
      push_cast
      field_simp
    split
    · rename_i clear
      have apart : 0 < (⌊value⌋ + 1 - value - unitInLastPlace value / 2) *
          2 ^ (half + 1) :=
        mul_pos (sub_pos.mpr clear) scale
      rw [distance] at apart
      have strict : roundHalfEven (value * 2 ^ (half + 1)) <
          (⌊value⌋ + 1) * 2 ^ (half + 1) := by
        refine lt_of_le_of_ne below fun same => ?_
        have near := abs_le.mp (roundHalfEven_eq_iff.mp same).abs_sub_le
        linarith
      rw [double, Int.floor_eq_iff, le_div_iff₀ scale, div_lt_iff₀ scale]
      exact ⟨by exact_mod_cast above, by exact_mod_cast strict⟩
    · rename_i blurred
      have close : (⌊value⌋ + 1 - value - unitInLastPlace value / 2) *
          2 ^ (half + 1) ≤ 0 :=
        mul_nonpos_of_nonpos_of_nonneg
          (sub_nonpos.mpr (not_lt.mp blurred)) scale.le
      rw [distance] at close
      have end_ : value * 2 ^ (half + 1) ≤
          ((⌊value⌋ + 1) * 2 ^ (half + 1) : ℤ) := by
        push_cast
        exact mul_le_mul_of_nonneg_right upper.le scale.le
      have reached : roundHalfEven (value * 2 ^ (half + 1)) =
          (⌊value⌋ + 1) * 2 ^ (half + 1) := by
        rw [roundHalfEven_eq_iff, RoundsTo,
          abs_of_nonpos (sub_nonpos.mpr end_)]
        have even : (⌊value⌋ + 1) * 2 ^ (half + 1) % 2 = 0 := by
          rw [pow_succ, ← mul_assoc]
          exact Int.mul_emod_left _ _
        rcases lt_or_eq_of_le close with strict | tie
        · left
          linarith
        · right
          exact ⟨by linarith, even⟩
      rw [double, reached]
      push_cast
      rw [mul_div_cancel_right₀ _ (ne_of_gt scale)]
      exact_mod_cast Int.floor_intCast (⌊value⌋ + 1)

/-- Cutting the nearest double gives the floor: a value that is not negative
is clear of the end of its unit interval, any other one is at its start. -/
def CutsToFloor (value : ℚ) : Prop :=
  if 0 ≤ value then
    ClearOfNext value
  else
    value - ⌊value⌋ ≤ unitInLastPlace value / 2

instance (value : ℚ) : Decidable (CutsToFloor value) :=
  inferInstanceAs (Decidable (if 0 ≤ value then ClearOfNext value
    else value - ⌊value⌋ ≤ unitInLastPlace value / 2))

theorem unitInLastPlace_neg (value : ℚ) :
    unitInLastPlace (-value) = unitInLastPlace value := by
  rw [unitInLastPlace, abs_neg, unitInLastPlace]

theorem unitInLastPlace_le_half {value : ℚ} (nonzero : value ≠ 0)
    (small : |value| < 2 ^ 52) : unitInLastPlace value ≤ 1 / 2 := by
  obtain ⟨shift, enough, unit⟩ :=
    exists_unitInLastPlace nonzero small (by norm_num)
  obtain ⟨half, rfl⟩ : ∃ half, shift = half + 1 := ⟨shift - 1, by omega⟩
  rw [unit, one_div]
  refine inv_anti₀ two_pos ?_
  rw [pow_succ]
  exact le_mul_of_one_le_left two_pos.le (one_le_pow₀ one_le_two)

theorem truncate_nearestDouble_eq_floor_iff {value : ℚ}
    (small : |value| < 2 ^ 52) :
    truncate (nearestDouble value) = ⌊value⌋ ↔ CutsToFloor value := by
  unfold CutsToFloor
  by_cases nonneg : 0 ≤ value
  · rw [abs_of_nonneg nonneg] at small
    rw [if_pos nonneg, truncate_nearestDouble nonneg small]
    split
    · rename_i clear
      exact iff_of_true rfl clear
    · rename_i blurred
      exact iff_of_false (by omega) blurred
  · have positive : 0 < -value := by linarith
    have mirrored : -value < 2 ^ 52 := by
      rwa [abs_of_neg (by linarith)] at small
    have cut : truncate (nearestDouble value) =
        -truncate (nearestDouble (-value)) := by
      rw [nearestDouble_neg, truncate_neg, neg_neg]
    rw [if_neg nonneg, cut, truncate_nearestDouble positive.le mirrored]
    have lower := Int.floor_le (-value)
    have upper := Int.lt_floor_add_one (-value)
    by_cases whole : -value = ⌊-value⌋
    · have clear : ClearOfNext (-value) := by
        have unit := unitInLastPlace_le_half (ne_of_gt positive)
          (by rwa [abs_of_pos positive])
        unfold ClearOfNext
        linarith
      have floor : ⌊value⌋ = -⌊-value⌋ := by
        rw [Int.floor_eq_iff]
        push_cast
        constructor <;> linarith
      rw [if_pos clear, floor]
      refine iff_of_true rfl ?_
      have unit := unitInLastPlace_pos value
      push_cast
      linarith
    · have strict : (⌊-value⌋ : ℚ) < -value := lt_of_le_of_ne lower (Ne.symm whole)
      have floor : ⌊value⌋ = -(⌊-value⌋ + 1) := by
        rw [Int.floor_eq_iff]
        push_cast
        constructor <;> linarith
      have clear_iff : ClearOfNext (-value) ↔
          unitInLastPlace value / 2 < ⌊-value⌋ + 1 + value := by
        rw [ClearOfNext, unitInLastPlace_neg, sub_neg_eq_add]
      rw [floor]
      split
      · rename_i clear
        have far := clear_iff.mp clear
        refine iff_of_false (by omega) fun near => ?_
        push_cast at near
        linarith
      · rename_i blurred
        have near := not_lt.mp (clear_iff.not.mp blurred)
        refine iff_of_true rfl ?_
        push_cast
        linarith

theorem floor_quotient {dividend divisor : ℤ} (positive : 0 < divisor) :
    ⌊(dividend / divisor : ℚ)⌋ = dividend / divisor := by
  rw [Int.floor_div_cast_of_nonneg positive.le, Int.floor_intCast]

/-- Quotients of dividends of 53 bits are clear. -/
theorem clearOfNext_of_small {dividend divisor : ℤ} (nonneg : 0 ≤ dividend)
    (small : dividend < 2 ^ 53) (positive : 0 < divisor) :
    ClearOfNext (dividend / divisor : ℚ) := by
  have scale : (0 : ℚ) < divisor := by exact_mod_cast positive
  have next : (dividend : ℚ) + 1 ≤
      ((dividend / divisor : ℤ) + 1) * divisor := by
    have strict := Int.lt_ediv_add_one_mul_self dividend positive
    exact_mod_cast strict
  unfold ClearOfNext
  rw [floor_quotient positive]
  by_cases zero : dividend = 0
  · subst zero
    rw [Int.cast_zero, zero_div, unitInLastPlace, abs_zero,
      Int.log_zero_right, Int.zero_ediv]
    norm_num
  · have dividendPositive : (0 : ℚ) < dividend := by
      exact_mod_cast lt_of_le_of_ne nonneg (Ne.symm zero)
    have valuePositive : (0 : ℚ) < dividend / divisor :=
      div_pos dividendPositive scale
    have unit := unitInLastPlace_mul_le valuePositive.ne'
    rw [abs_of_pos valuePositive] at unit
    have below : (dividend : ℚ) < 2 ^ 53 := by exact_mod_cast small
    rw [le_div_iff₀ scale] at unit
    refine lt_of_mul_lt_mul_right ?_ scale.le
    rw [sub_mul, div_mul_cancel₀ _ (ne_of_gt scale)]
    linarith

theorem truncatedQuotient_mul {quotient divisor : ℤ} (positive : 0 < divisor)
    (small : |quotient| < 2 ^ 53) :
    truncatedQuotient (quotient * divisor) divisor = quotient := by
  have exact_ : ((quotient * divisor : ℤ) / divisor : ℚ) = quotient := by
    rw [Int.cast_mul]
    exact mul_div_cancel_right₀ _ (by exact_mod_cast ne_of_gt positive)
  rw [truncatedQuotient, exact_, nearestDouble_intCast small,
    truncate_intCast]

theorem abs_quotient_lt {dividend divisor : ℤ} (positive : 0 < divisor)
    {bound : ℤ} (small : |dividend| < bound * divisor) :
    |(dividend / divisor : ℚ)| < bound := by
  have scale : (0 : ℚ) < divisor := by exact_mod_cast positive
  rw [abs_div, abs_of_pos scale, div_lt_iff₀ scale]
  exact_mod_cast small

theorem truncatedQuotient_neg (dividend divisor : ℤ) :
    truncatedQuotient (-dividend) divisor =
      -truncatedQuotient dividend divisor := by
  rw [truncatedQuotient, Int.cast_neg, neg_div, nearestDouble_neg,
    truncate_neg, truncatedQuotient]

/-- Small dividends are divided exactly. -/
theorem truncatedQuotient_eq_tdiv {dividend divisor : ℤ}
    (positive : 0 < divisor) (small : |dividend| < 2 ^ 52) :
    truncatedQuotient dividend divisor = dividend.tdiv divisor := by
  have natural {dividend : ℤ} (nonneg : 0 ≤ dividend)
      (small : dividend < 2 ^ 52) :
      truncatedQuotient dividend divisor = dividend.tdiv divisor := by
    have value : (0 : ℚ) ≤ dividend / divisor :=
      div_nonneg (by exact_mod_cast nonneg) (by exact_mod_cast positive.le)
    have bounded : |(dividend / divisor : ℚ)| < ((2 ^ 52 : ℤ) : ℚ) := by
      refine abs_quotient_lt positive ?_
      rw [abs_of_nonneg nonneg]
      exact lt_of_lt_of_le small
        (le_mul_of_one_le_right (by norm_num) (by omega))
    rw [abs_of_nonneg value] at bounded
    rw [truncatedQuotient,
      truncate_nearestDouble value (by exact_mod_cast bounded),
      if_pos (clearOfNext_of_small nonneg (by omega) positive),
      floor_quotient positive, Int.tdiv_eq_ediv_of_nonneg nonneg]
  rcases le_or_gt 0 dividend with nonneg | negative
  · exact natural nonneg (abs_lt.mp small).2
  · have low := (abs_lt.mp small).1
    have mirrored : truncatedQuotient (-dividend) divisor =
        (-dividend).tdiv divisor := natural (by omega) (by omega)
    rw [truncatedQuotient_neg, Int.neg_tdiv] at mirrored
    omega

theorem truncatedQuotient_eq_ediv_iff {dividend divisor : ℤ}
    (positive : 0 < divisor) (small : |dividend| < 2 ^ 52 * divisor) :
    truncatedQuotient dividend divisor = dividend / divisor ↔
      CutsToFloor (dividend / divisor : ℚ) := by
  have bounded := abs_quotient_lt positive small
  rw [truncatedQuotient, ← floor_quotient positive]
  exact truncate_nearestDouble_eq_floor_iff (by exact_mod_cast bounded)
