import Mathlib.Algebra.Order.Field.Rat
import Mathlib.Data.Finset.Card
import Mathlib.Data.Multiset.UnionInter
import Mathlib.Tactic.FieldSimp
import Mathlib.Tactic.Linarith
import Mathlib.Tactic.Positivity
import Mathlib.Tactic.Ring

/-!
# Overlap scores

Two collections are compared by the shares of their elements that they have in
common.  The score is the harmonic mean of the two shares.
-/

universe u

namespace OverlapScore

/-! ## Harmonic mean of two shares -/

/-- The harmonic mean of the shares of a common part in two wholes. -/
def f1 (overlap left right : ℕ) : ℚ :=
  let precision : ℚ := overlap / left
  let recallRatio : ℚ := overlap / right
  2 * precision * recallRatio / (precision + recallRatio)

variable {overlap left right : ℕ}

theorem f1_zero (left right : ℕ) : f1 0 left right = 0 := by
  simp [f1]

/-- The common part counts twice in the sum of both wholes. -/
theorem f1_eq_div (inLeft : overlap ≤ left) (inRight : overlap ≤ right) :
    f1 overlap left right = 2 * overlap / (left + right) := by
  rcases Nat.eq_zero_or_pos overlap with rfl | positive
  · simp [f1]
  · have overlapPos : (0 : ℚ) < overlap := by exact_mod_cast positive
    have leftPos : (0 : ℚ) < left := by
      exact_mod_cast positive.trans_le inLeft
    have rightPos : (0 : ℚ) < right := by
      exact_mod_cast positive.trans_le inRight
    simp only [f1]
    field_simp
    ring

theorem f1_comm (overlap left right : ℕ) :
    f1 overlap left right = f1 overlap right left := by
  simp only [f1]
  rw [add_comm, mul_right_comm]

theorem f1_nonneg (inLeft : overlap ≤ left) (inRight : overlap ≤ right) :
    0 ≤ f1 overlap left right := by
  rw [f1_eq_div inLeft inRight]
  positivity

theorem f1_le_one (inLeft : overlap ≤ left) (inRight : overlap ≤ right) :
    f1 overlap left right ≤ 1 := by
  rw [f1_eq_div inLeft inRight]
  have leftBound : (overlap : ℚ) ≤ left := by exact_mod_cast inLeft
  have rightBound : (overlap : ℚ) ≤ right := by exact_mod_cast inRight
  refine div_le_one_of_le₀ ?_ (by positivity)
  linarith

/-- Only a common part that is all of both wholes is worth one. -/
theorem f1_eq_one_iff (inLeft : overlap ≤ left) (inRight : overlap ≤ right) :
    f1 overlap left right = 1 ↔
      0 < overlap ∧ left = overlap ∧ right = overlap := by
  rw [f1_eq_div inLeft inRight]
  rcases Nat.eq_zero_or_pos (left + right) with empty | positive
  · have sum : (left : ℚ) + right = 0 := by exact_mod_cast empty
    rw [sum, div_zero]
    refine iff_of_false (by norm_num) ?_
    omega
  · have sumPos : (0 : ℚ) < left + right := by exact_mod_cast positive
    rw [div_eq_one_iff_eq sumPos.ne']
    constructor
    · intro same
      have doubled : 2 * overlap = left + right := by exact_mod_cast same
      omega
    · rintro ⟨_, sameLeft, sameRight⟩
      rw [sameLeft, sameRight]
      ring

/-! ## Collections -/

variable {α : Type u} [DecidableEq α]

/-- The score of two collections with repetitions. -/
def ofMultisets (first second : Multiset α) : ℚ :=
  f1 (first ∩ second).card first.card second.card

variable {first second : Multiset α}

theorem ofMultisets_comm (first second : Multiset α) :
    ofMultisets first second = ofMultisets second first := by
  rw [ofMultisets, ofMultisets, f1_comm, Multiset.inter_comm]

theorem ofMultisets_nonneg (first second : Multiset α) :
    0 ≤ ofMultisets first second :=
  f1_nonneg (Multiset.card_le_card Multiset.inter_le_left)
    (Multiset.card_le_card Multiset.inter_le_right)

theorem ofMultisets_le_one (first second : Multiset α) :
    ofMultisets first second ≤ 1 :=
  f1_le_one (Multiset.card_le_card Multiset.inter_le_left)
    (Multiset.card_le_card Multiset.inter_le_right)

/-- The score is one exactly for a collection against itself, unless it is
empty. -/
theorem ofMultisets_eq_one_iff :
    ofMultisets first second = 1 ↔ first = second ∧ first ≠ 0 := by
  have inFirst : first ∩ second ≤ first := Multiset.inter_le_left
  have inSecond : first ∩ second ≤ second := Multiset.inter_le_right
  rw [ofMultisets, f1_eq_one_iff (Multiset.card_le_card inFirst)
    (Multiset.card_le_card inSecond)]
  constructor
  · rintro ⟨positive, wholeFirst, wholeSecond⟩
    have sameFirst := Multiset.eq_of_le_of_card_le inFirst wholeFirst.le
    have sameSecond := Multiset.eq_of_le_of_card_le inSecond wholeSecond.le
    refine ⟨sameFirst.symm.trans sameSecond, ?_⟩
    rintro rfl
    rw [Multiset.zero_inter] at positive
    exact lt_irrefl 0 positive
  · rintro ⟨rfl, inhabited⟩
    have whole : first ∩ first = first := inf_idem first
    rw [whole]
    exact ⟨Multiset.card_pos.mpr inhabited, rfl, rfl⟩

theorem ofMultisets_zero_left (second : Multiset α) :
    ofMultisets 0 second = 0 := by
  rw [ofMultisets, Multiset.zero_inter, Multiset.card_zero, f1_zero]

/-- The score of two sets is that of their elements. -/
theorem f1_card_inter (first second : Finset α) :
    f1 (first ∩ second).card first.card second.card =
      ofMultisets first.val second.val := by
  rw [ofMultisets, ← Finset.inter_val]
  rfl

end OverlapScore
