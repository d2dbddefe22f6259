import Mathlib.Algebra.Order.Field.Rat
import Mathlib.Algebra.BigOperators.Group.List.Basic
import Mathlib.Data.List.Perm.Basic
import Mathlib.Tactic.FieldSimp
import Mathlib.Tactic.Ring

/-!
# Running means

A running mean keeps a count and a mean.  Its total is what the samples add
up to, so samples may be added one by one or absorbed together, in any order.
-/

universe u

/-- Number of samples and their mean; without samples, a first guess. -/
@[ext]
structure RunningMean (F : Type u) where
  count : ℕ
  mean : F
  deriving DecidableEq, Repr

namespace RunningMean

variable {F : Type u} [Field F] (running : RunningMean F)

/-- Sum of the samples. -/
def total : F := running.mean * running.count

/-- One more sample. -/
def add (sample : F) : RunningMean F where
  count := running.count + 1
  mean := running.mean + (sample - running.mean) / (running.count + 1)

def addAll (samples : List F) : RunningMean F :=
  samples.foldl add running

/-- So many samples at once, with this sum. -/
def absorb (added : ℕ × F) : RunningMean F :=
  if added.1 = 0 then
    running
  else
    { count := running.count + added.1
      mean := (running.total + added.2) / ((running.count + added.1 : ℕ) : F) }

variable {running}

@[simp]
theorem addAll_nil : running.addAll [] = running := rfl

theorem addAll_cons (sample : F) (samples : List F) :
    running.addAll (sample :: samples) =
      (running.add sample).addAll samples := rfl

theorem addAll_append (earlier later : List F) :
    running.addAll (earlier ++ later) =
      (running.addAll earlier).addAll later :=
  List.foldl_append

@[simp]
theorem count_addAll (samples : List F) :
    (running.addAll samples).count = running.count + samples.length := by
  induction samples generalizing running with
  | nil => rfl
  | cons sample rest inductionHypothesis =>
      rw [addAll_cons, inductionHypothesis, List.length_cons, add]
      dsimp only
      omega

theorem count_absorb (added : ℕ × F) :
    (running.absorb added).count = running.count + added.1 := by
  unfold absorb
  split
  · rename_i nothing
    rw [nothing, Nat.add_zero]
  · rfl

/-- No sample, no change. -/
theorem absorb_nothing {added : ℕ × F} (nothing : added.1 = 0) :
    running.absorb added = running :=
  if_pos nothing

/-! ## Exact arithmetic -/

variable [CharZero F]

/-- A mean with samples is determined by count and total. -/
theorem eq_of_total {other : RunningMean F}
    (counted : running.count = other.count) (positive : 0 < running.count)
    (same : running.total = other.total) : running = other := by
  have nonzero : (running.count : F) ≠ 0 :=
    Nat.cast_ne_zero.mpr positive.ne'
  refine RunningMean.ext counted ?_
  unfold total at same
  rw [← counted] at same
  exact mul_right_cancel₀ nonzero same

theorem total_add (sample : F) :
    (running.add sample).total = running.total + sample := by
  have nonzero : (running.count : F) + 1 ≠ 0 := by
    exact_mod_cast Nat.succ_ne_zero running.count
  simp only [total, add, Nat.cast_add, Nat.cast_one]
  field_simp
  ring

@[simp]
theorem total_addAll (samples : List F) :
    (running.addAll samples).total = running.total + samples.sum := by
  induction samples generalizing running with
  | nil => simp
  | cons sample rest inductionHypothesis =>
      rw [addAll_cons, inductionHypothesis, total_add, List.sum_cons,
        add_assoc]

theorem total_absorb {added : ℕ × F} (some_ : added.1 ≠ 0) :
    (running.absorb added).total = running.total + added.2 := by
  have nonzero : ((running.count + added.1 : ℕ) : F) ≠ 0 :=
    Nat.cast_ne_zero.mpr (by omega)
  rw [absorb, if_neg some_, total]
  exact div_mul_cancel₀ _ nonzero

/-- Samples may be absorbed together. -/
theorem absorb_samples (samples : List F) :
    running.absorb (samples.length, samples.sum) =
      running.addAll samples := by
  cases samples with
  | nil => exact absorb_nothing rfl
  | cons sample rest =>
      have some_ : (sample :: rest).length ≠ 0 := Nat.succ_ne_zero _
      refine eq_of_total ?_ ?_ ?_
      · rw [count_absorb, count_addAll]
      · rw [count_absorb]
        exact Nat.add_pos_right _ (Nat.pos_of_ne_zero some_)
      · rw [total_absorb some_, total_addAll]

/-- What is absorbed may be absorbed in any order. -/
theorem absorb_comm (first second : ℕ × F) :
    (running.absorb first).absorb second =
      (running.absorb second).absorb first := by
  by_cases nothing : first.1 = 0
  · rw [absorb_nothing nothing, absorb_nothing nothing]
  · by_cases empty : second.1 = 0
    · rw [absorb_nothing empty, absorb_nothing empty]
    · refine eq_of_total ?_ ?_ ?_
      · rw [count_absorb, count_absorb, count_absorb, count_absorb,
          Nat.add_right_comm]
      · rw [count_absorb]
        exact Nat.add_pos_right _ (Nat.pos_of_ne_zero empty)
      · rw [total_absorb empty, total_absorb nothing, total_absorb nothing,
          total_absorb empty, add_right_comm]

theorem absorbAll_perm {earlier later : List (ℕ × F)}
    (same : earlier.Perm later) :
    earlier.foldl absorb running = later.foldl absorb running :=
  have : RightCommutative (absorb (F := F)) := ⟨fun _ => absorb_comm⟩
  same.foldl_eq running

/-- From a first guess, the mean of the samples. -/
theorem mean_addAll (guess : F) (samples : List F) :
    (addAll ⟨0, guess⟩ samples).mean =
      if samples = [] then guess else samples.sum / samples.length := by
  split
  · rename_i empty
    rw [empty]
    rfl
  · rename_i nonempty
    have total_eq : (addAll ⟨0, guess⟩ samples).total = _ :=
      total_addAll samples
    have nonzero : (samples.length : F) ≠ 0 :=
      Nat.cast_ne_zero.mpr fun zero =>
        nonempty (List.length_eq_zero_iff.mp zero)
    rw [total, count_addAll, Nat.zero_add, total, Nat.cast_zero, mul_zero,
      zero_add] at total_eq
    exact eq_div_of_mul_eq nonzero total_eq

end RunningMean
