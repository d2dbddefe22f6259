import Mathlib.Algebra.Order.BigOperators.Group.List
import Mathlib.Algebra.Order.Ring.Int
import Mathlib.Data.List.Basic

/-!
# Checked signed arithmetic

Signed integers of a fixed width are integers with a range.  An operation
whose exact result leaves the range has no value.  Loops of such operations
have a value exactly when each of their operations has one.
-/

universe u v

namespace CheckedInt

variable (width : ℕ)

/-- The values of a signed type. -/
def Fits (value : ℤ) : Prop :=
  -2 ^ (width - 1) ≤ value ∧ value < 2 ^ (width - 1)

instance (value : ℤ) : Decidable (Fits width value) :=
  inferInstanceAs (Decidable (_ ∧ _))

/-- The value, unless it leaves the range. -/
def check (value : ℤ) : Option ℤ :=
  if Fits width value then some value else none

def add (left right : ℤ) : Option ℤ :=
  check width (left + right)

def sub (left right : ℤ) : Option ℤ :=
  check width (left - right)

/-- The sum, added up from the left. -/
def sum (values : List ℤ) : Option ℤ :=
  values.foldlM (add width) 0

/-- The value of the type closest to an integer. -/
def saturate (value : ℤ) : ℤ :=
  max (-2 ^ (width - 1)) (min value (2 ^ (width - 1) - 1))

/-! ## Single operations -/

section Operations

variable {width} {value left right : ℤ}

@[simp]
theorem check_eq_some_iff {result : ℤ} :
    check width value = some result ↔ Fits width value ∧ value = result := by
  unfold check
  split <;> simp_all

@[simp]
theorem isSome_check_bind {α : Type u} {next : ℤ → Option α} :
    ((check width value).bind next).isSome ↔
      Fits width value ∧ (next value).isSome := by
  unfold check
  split <;> simp_all

@[simp]
theorem isSome_check : (check width value).isSome ↔ Fits width value := by
  unfold check
  split <;> simp_all

theorem fits_of_nonneg (nonneg : 0 ≤ value) :
    Fits width value ↔ value < 2 ^ (width - 1) := by
  have bound : (0 : ℤ) < 2 ^ (width - 1) := pow_pos (by decide) _
  constructor
  · exact And.right
  · intro below
    exact ⟨by omega, below⟩

/-- Saturation keeps the values of the type. -/
theorem saturate_of_fits (fits : Fits width value) :
    saturate width value = value := by
  obtain ⟨low, high⟩ := fits
  unfold saturate
  omega

end Operations

/-! ## Loops -/

section Loops

variable {width}

/-- A loop whose rounds are independent succeeds when all of them do. -/
theorem isSome_mapM_iff {α : Type u} {β : Type v} {step : α → Option β}
    {items : List α} :
    (items.mapM step).isSome ↔ ∀ item ∈ items, (step item).isSome := by
  induction items with
  | nil => simp
  | cons item rest inductionHypothesis =>
      rw [List.mapM_cons, List.forall_mem_cons, ← inductionHypothesis]
      cases step item <;> cases rest.mapM step <;> simp

/-- The results of a successful loop. -/
theorem mapM_eq_some_map {α : Type u} {β : Type v} {step : α → Option β}
    {result : α → β} {items : List α} {results : List β}
    (each : ∀ item ∈ items, ∀ value, step item = some value →
      value = result item)
    (ran : items.mapM step = some results) : results = items.map result := by
  induction items generalizing results with
  | nil => simpa using ran.symm
  | cons item rest inductionHypothesis =>
      rw [List.mapM_cons] at ran
      obtain ⟨head, first, ran⟩ := Option.bind_eq_some_iff.mp ran
      obtain ⟨tail, others, same⟩ := Option.bind_eq_some_iff.mp ran
      rw [← Option.some.inj same, List.map_cons,
        each item List.mem_cons_self head first,
        inductionHypothesis
          (fun other member => each other (List.mem_cons_of_mem _ member))
          others]

private theorem foldlM_add_of_nonneg {start : ℤ} {values : List ℤ}
    (fits : Fits width start) (start_nonneg : 0 ≤ start)
    (nonneg : ∀ value ∈ values, 0 ≤ value) :
    values.foldlM (add width) start = check width (start + values.sum) := by
  induction values generalizing start with
  | nil => simp [check, fits]
  | cons value rest inductionHypothesis =>
      rw [List.forall_mem_cons] at nonneg
      have behind : 0 ≤ rest.sum := List.sum_nonneg nonneg.2
      have first : 0 ≤ start + value := by omega
      rw [List.foldlM_cons, List.sum_cons, ← add_assoc]
      by_cases inside : Fits width (start + value)
      · have taken : add width start value = some (start + value) := by
          simp [add, inside]
        rw [taken]
        exact inductionHypothesis inside first nonneg.2
      · have stuck : add width start value = none := if_neg inside
        have outside : ¬ Fits width (start + value + rest.sum) := by
          rw [fits_of_nonneg first] at inside
          rw [fits_of_nonneg (by omega)]
          omega
        rw [stuck, check, if_neg outside]
        rfl

/-- Values that are not negative add up when their total fits. -/
theorem sum_of_nonneg {values : List ℤ}
    (nonneg : ∀ value ∈ values, 0 ≤ value) :
    sum width values = check width values.sum := by
  have zero : Fits width 0 := by
    rw [fits_of_nonneg le_rfl]
    exact pow_pos (by decide) _
  rw [sum, foldlM_add_of_nonneg zero le_rfl nonneg, zero_add]

end Loops

end CheckedInt
