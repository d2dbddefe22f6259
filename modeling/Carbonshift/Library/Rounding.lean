import Mathlib.Algebra.Order.Floor.Ring
import Mathlib.Data.Rat.Floor
import Mathlib.Tactic.Linarith

/-!
# Rounding to the nearest integer
-/

/-- Round to the nearest integer, ties to the even one. -/
def roundHalfEven (value : ℚ) : ℤ :=
  let below := value.floor
  if value - below < 1 / 2 then
    below
  else if 1 / 2 < value - below then
    below + 1
  else if below % 2 = 0 then
    below
  else
    below + 1

/-- An integer is within half a unit of a value; in a tie it is even. -/
def RoundsTo (value : ℚ) (nearest : ℤ) : Prop :=
  |value - nearest| < 1 / 2 ∨ |value - nearest| = 1 / 2 ∧ nearest % 2 = 0

instance (value : ℚ) (nearest : ℤ) : Decidable (RoundsTo value nearest) :=
  inferInstanceAs (Decidable (_ ∨ _))

theorem roundsTo_roundHalfEven (value : ℚ) :
    RoundsTo value (roundHalfEven value) := by
  have below := Rat.floor_le value
  have above := Rat.lt_floor_add_one value
  push_cast at above
  unfold roundHalfEven RoundsTo
  dsimp only
  split_ifs with nearer farther even
  · left
    rw [abs_lt]
    constructor <;> linarith
  · left
    push_cast
    rw [abs_lt]
    constructor <;> linarith
  · right
    refine ⟨?_, even⟩
    rw [abs_of_nonneg (by linarith)]
    linarith
  · right
    refine ⟨?_, by omega⟩
    push_cast
    rw [abs_of_nonpos (by linarith)]
    linarith

theorem RoundsTo.abs_sub_le {value : ℚ} {nearest : ℤ}
    (rounds : RoundsTo value nearest) : |value - nearest| ≤ 1 / 2 := by
  rcases rounds with close | tie
  · exact le_of_lt close
  · exact le_of_eq tie.1

theorem RoundsTo.unique {value : ℚ} {first second : ℤ}
    (one : RoundsTo value first) (other : RoundsTo value second) :
    first = second := by
  have left := abs_le.mp one.abs_sub_le
  have right := abs_le.mp other.abs_sub_le
  have above : (first : ℚ) ≤ ((second + 1 : ℤ) : ℚ) := by
    push_cast
    linarith
  have below : (second : ℚ) ≤ ((first + 1 : ℤ) : ℚ) := by
    push_cast
    linarith
  rw [Int.cast_le] at above below
  by_contra different
  -- The value is halfway between two integers, and only one of them is even.
  have neighbours : first = second + 1 ∨ second = first + 1 := by omega
  have ties : |value - first| = 1 / 2 ∧ |value - second| = 1 / 2 := by
    rcases neighbours with same | same
    · have cast : (first : ℚ) = second + 1 := by exact_mod_cast same
      constructor
      · rw [abs_of_nonpos (by linarith)]
        linarith
      · rw [abs_of_nonneg (by linarith)]
        linarith
    · have cast : (second : ℚ) = first + 1 := by exact_mod_cast same
      constructor
      · rw [abs_of_nonneg (by linarith)]
        linarith
      · rw [abs_of_nonpos (by linarith)]
        linarith
  have firstEven : first % 2 = 0 := by
    rcases one with close | tie
    · exact absurd ties.1 (ne_of_lt close)
    · exact tie.2
  have secondEven : second % 2 = 0 := by
    rcases other with close | tie
    · exact absurd ties.2 (ne_of_lt close)
    · exact tie.2
  omega

theorem roundHalfEven_eq_iff {value : ℚ} {nearest : ℤ} :
    roundHalfEven value = nearest ↔ RoundsTo value nearest := by
  constructor
  · rintro rfl
    exact roundsTo_roundHalfEven value
  · exact (roundsTo_roundHalfEven value).unique

@[simp]
theorem roundHalfEven_intCast (value : ℤ) :
    roundHalfEven (value : ℚ) = value := by
  rw [roundHalfEven_eq_iff]
  left
  simp

theorem roundHalfEven_neg (value : ℚ) :
    roundHalfEven (-value) = -roundHalfEven value := by
  rw [roundHalfEven_eq_iff]
  have mirrored : -value - ((-roundHalfEven value : ℤ) : ℚ) =
      -(value - roundHalfEven value) := by
    push_cast
    ring
  unfold RoundsTo
  rw [mirrored, abs_neg]
  rcases roundsTo_roundHalfEven value with close | tie
  · exact Or.inl close
  · exact Or.inr ⟨tie.1, by omega⟩

theorem le_roundHalfEven {value : ℚ} {bound : ℤ} (below : bound ≤ value) :
    bound ≤ roundHalfEven value := by
  have near := abs_le.mp (roundsTo_roundHalfEven value).abs_sub_le
  have strict : (bound : ℚ) < ((roundHalfEven value + 1 : ℤ) : ℚ) := by
    push_cast
    linarith
  rw [Int.cast_lt] at strict
  omega

theorem roundHalfEven_le {value : ℚ} {bound : ℤ} (above : value ≤ bound) :
    roundHalfEven value ≤ bound := by
  have near := abs_le.mp (roundsTo_roundHalfEven value).abs_sub_le
  have strict : (roundHalfEven value : ℚ) < ((bound + 1 : ℤ) : ℚ) := by
    push_cast
    linarith
  rw [Int.cast_lt] at strict
  omega

/-- The nearest integer; a tie goes to the integer farther from zero. -/
def roundHalfAway (value : ℚ) : ℤ :=
  if 0 ≤ value then ⌊value + 1 / 2⌋ else ⌈value - 1 / 2⌉

@[simp]
theorem roundHalfAway_intCast (value : ℤ) :
    roundHalfAway (value : ℚ) = value := by
  unfold roundHalfAway
  split
  · rw [Int.floor_eq_iff]
    constructor <;> linarith
  · rw [Int.ceil_eq_iff]
    constructor <;> linarith

theorem abs_roundHalfAway_sub_le (value : ℚ) :
    |(roundHalfAway value : ℚ) - value| ≤ 1 / 2 := by
  unfold roundHalfAway
  split
  · have below := Int.floor_le (value + 1 / 2)
    have above := Int.lt_floor_add_one (value + 1 / 2)
    rw [abs_le]
    constructor <;> linarith
  · have below := Int.ceil_lt_add_one (value - 1 / 2)
    have above := Int.le_ceil (value - 1 / 2)
    rw [abs_le]
    constructor <;> linarith

/-- Rounding errors add up to half a unit per value at most. -/
theorem abs_sum_roundHalfAway_sub_le {ι : Type*} (items : List ι)
    (value : ι → ℚ) :
    |(((items.map fun item => roundHalfAway (value item)).sum : ℤ) : ℚ) -
        (items.map value).sum| ≤ (items.length : ℚ) / 2 := by
  induction items with
  | nil => simp
  | cons item items inductionHypothesis =>
      have head := abs_le.mp (abs_roundHalfAway_sub_le (value item))
      have tail := abs_le.mp inductionHypothesis
      simp only [List.map_cons, List.sum_cons, List.length_cons]
      push_cast at tail ⊢
      rw [abs_le]
      constructor <;> linarith

/-! ## Multiples of one hundredth -/

/-- A multiple of one hundredth. -/
def Centesimal (value : ℚ) : Prop :=
  ∃ hundredths : ℤ, value * 100 = hundredths

instance (value : ℚ) : Decidable (Centesimal value) :=
  decidable_of_iff ((value * 100).den = 1)
    ⟨fun whole => ⟨(value * 100).num, (Rat.coe_int_num_of_den_eq_one whole).symm⟩,
      fun ⟨hundredths, same⟩ => by rw [same, Rat.den_intCast]⟩

theorem centesimal_sum {values : List ℚ}
    (each : ∀ value ∈ values, Centesimal value) : Centesimal values.sum := by
  induction values with
  | nil => exact ⟨0, by simp⟩
  | cons value values inductionHypothesis =>
      obtain ⟨head, headEq⟩ := each value List.mem_cons_self
      obtain ⟨tail, tailEq⟩ := inductionHypothesis fun other member =>
        each other (List.mem_cons_of_mem value member)
      refine ⟨head + tail, ?_⟩
      rw [List.sum_cons, add_mul, headEq, tailEq, Int.cast_add]

/-- Hundredths are counted without rounding. -/
theorem roundHalfAway_mul_hundred {value : ℚ} (exact : Centesimal value) :
    (roundHalfAway (value * 100) : ℚ) = value * 100 := by
  obtain ⟨hundredths, same⟩ := exact
  rw [same, roundHalfAway_intCast]

theorem sum_roundHalfAway_mul_hundred {ι : Type*} {items : List ι}
    {value : ι → ℚ} (each : ∀ item ∈ items, Centesimal (value item)) :
    (((items.map fun item => roundHalfAway (value item * 100)).sum : ℤ) : ℚ) =
      (items.map value).sum * 100 := by
  induction items with
  | nil => simp
  | cons item items inductionHypothesis =>
      have tail := inductionHypothesis fun other member =>
        each other (List.mem_cons_of_mem item member)
      rw [List.map_cons, List.sum_cons, Int.cast_add, tail,
        roundHalfAway_mul_hundred (each item List.mem_cons_self),
        List.map_cons, List.sum_cons, add_mul]
