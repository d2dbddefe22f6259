import Carbonshift.Library.Dictionary
import Mathlib.Data.Rat.Defs
import Mathlib.Algebra.Order.Ring.Rat

/-!
# Core types of the scheduler

Slots are integers, identifiers natural numbers, and every floating point
quantity of the source an exact rational.
-/

namespace Carbonshift

/-- An execution flavour: its approximation error in percent and its
processing duration in seconds. -/
structure Flavour where
  name : String
  error : ℚ
  duration : ℚ
  deriving DecidableEq, Repr

/-- One tier of the capacity ladder; no bound marks the overflow tier. -/
structure CapacityTier where
  maxRequests : Option ℤ
  multiplier : ℚ
  deriving DecidableEq, Repr

namespace CapacityTier

/-- The tier applies to the given 1-indexed position. -/
def covers (tier : CapacityTier) (count : ℤ) : Bool :=
  match tier.maxRequests with
  | none => true
  | some max => decide (count ≤ max)

theorem covers_of_le
    {tier : CapacityTier} {small large : ℤ}
    (ordered : small ≤ large) (covered : tier.covers large = true) :
    tier.covers small = true := by
  unfold covers at covered ⊢
  cases bound : tier.maxRequests with
  | none => rfl
  | some max =>
      simp only [bound, decide_eq_true_eq] at covered ⊢
      exact ordered.trans covered

end CapacityTier

/-- The multiplier of the first tier that covers the position, else of the
last tier, else one. -/
def getCapacityMultiplier (tiers : List CapacityTier) (count : ℤ) : ℚ :=
  match tiers.find? (·.covers count) with
  | some tier => tier.multiplier
  | none => (tiers.getLast?.map CapacityTier.multiplier).getD 1

/-- Multipliers never decrease along the ladder. -/
def NonDecreasingLadder (tiers : List CapacityTier) : Prop :=
  tiers.Pairwise fun earlier later => earlier.multiplier ≤ later.multiplier

instance (tiers : List CapacityTier) : Decidable (NonDecreasingLadder tiers) :=
  inferInstanceAs (Decidable (tiers.Pairwise _))

theorem getCapacityMultiplier_cons_of_covers
    {tier : CapacityTier} {count : ℤ} (covered : tier.covers count = true)
    (rest : List CapacityTier) :
    getCapacityMultiplier (tier :: rest) count = tier.multiplier := by
  simp [getCapacityMultiplier, covered]

theorem getCapacityMultiplier_cons_of_not_covers
    {tier : CapacityTier} {count : ℤ} (beyond : tier.covers count = false)
    (next : CapacityTier) (rest : List CapacityTier) :
    getCapacityMultiplier (tier :: next :: rest) count =
      getCapacityMultiplier (next :: rest) count := by
  unfold getCapacityMultiplier
  rw [List.find?_cons_of_neg (by simp [beyond]), List.getLast?_cons_cons]

@[simp]
theorem getCapacityMultiplier_singleton (tier : CapacityTier) (count : ℤ) :
    getCapacityMultiplier [tier] count = tier.multiplier := by
  cases covered : tier.covers count with
  | true => exact getCapacityMultiplier_cons_of_covers covered []
  | false => simp [getCapacityMultiplier, covered]

/-- A ladder with a tier prices every position with one of its tiers. -/
theorem getCapacityMultiplier_mem
    {tiers : List CapacityTier} (someTier : tiers ≠ []) (count : ℤ) :
    ∃ tier ∈ tiers, getCapacityMultiplier tiers count = tier.multiplier := by
  induction tiers with
  | nil => exact absurd rfl someTier
  | cons tier rest inductionHypothesis =>
      cases covered : tier.covers count with
      | true =>
          exact ⟨tier, List.mem_cons_self,
            getCapacityMultiplier_cons_of_covers covered rest⟩
      | false =>
          cases rest with
          | nil =>
              exact ⟨tier, List.mem_cons_self,
                getCapacityMultiplier_singleton tier count⟩
          | cons next others =>
              obtain ⟨found, member, priced⟩ :=
                inductionHypothesis (List.cons_ne_nil next others)
              refine ⟨found, List.mem_cons_of_mem tier member, ?_⟩
              rw [getCapacityMultiplier_cons_of_not_covers covered, priced]

/-- On a non-decreasing ladder a later position is never cheaper. -/
theorem getCapacityMultiplier_mono
    {tiers : List CapacityTier} (ladder : NonDecreasingLadder tiers)
    {small large : ℤ} (ordered : small ≤ large) :
    getCapacityMultiplier tiers small ≤ getCapacityMultiplier tiers large := by
  induction tiers with
  | nil => exact le_rfl
  | cons tier rest inductionHypothesis =>
      cases rest with
      | nil => simp
      | cons next others =>
          have above := List.pairwise_cons.mp ladder
          cases coversLarge : tier.covers large with
          | true =>
              have coversSmall :=
                CapacityTier.covers_of_le ordered coversLarge
              rw [getCapacityMultiplier_cons_of_covers coversSmall,
                getCapacityMultiplier_cons_of_covers coversLarge]
          | false =>
              rw [getCapacityMultiplier_cons_of_not_covers coversLarge]
              cases coversSmall : tier.covers small with
              | true =>
                  obtain ⟨found, member, priced⟩ :=
                    getCapacityMultiplier_mem
                      (List.cons_ne_nil next others) large
                  rw [getCapacityMultiplier_cons_of_covers coversSmall, priced]
                  exact above.1 found member
              | false =>
                  rw [getCapacityMultiplier_cons_of_not_covers coversSmall]
                  exact inductionHypothesis above.2

/-- The entry of a slot-indexed vector; a negative slot is out of range. -/
def slotEntry {α : Type} (values : List α) (slot : ℤ) : Option α :=
  if slot < 0 then none else values[slot.toNat]?

/-- Update the entry of a slot, if it is in range. -/
def modifySlot {α : Type} (values : List α) (slot : ℤ) (update : α → α) :
    List α :=
  if slot < 0 then values else values.modify slot.toNat update

/-- Lightweight result of one solver assignment, before the request's own
metadata is attached. -/
structure RequestAssignment where
  requestId : ℕ
  flavourName : String
  slot : ℤ
  carbonCost : ℚ
  error : ℚ
  deriving DecidableEq, Repr

end Carbonshift
