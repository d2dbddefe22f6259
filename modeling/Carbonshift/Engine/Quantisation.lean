import Carbonshift.Engine.DpGuarantees
import Mathlib.Algebra.BigOperators.Ring.List

/-!
# What quantisation may hide

The solver tests the window average on errors rounded to basis points: the
baseline sum, every flavour error and the mock error, each once per use.  Every
rounding is off by half a basis point at most, and there are no more than three
of them for each request the window counts in the end.
-/

namespace Carbonshift

namespace DpSolver

section Quantisation

variable (solver : DpSolver) (input : SolveBatchInput)

/-- Window error after an answer, without rounding. -/
def exactWindowError (answer : List RequestAssignment) : ℚ :=
  input.errorWindowBaseline.errorSum +
    ((solver.windowPlacements input answer).map
      RequestAssignment.error).sum -
    solver.mocksConsumed input answer * input.dynamicMockPool.errorPerRequest

/-- Window request count after an answer, without rounding. -/
def exactWindowCount (answer : List RequestAssignment) : ℚ :=
  input.errorWindowBaseline.requestCount +
    (solver.windowPlacements input answer).length -
    solver.mocksConsumed input answer

variable {solver input} {answer : List RequestAssignment}

theorem mocksConsumed_le_length :
    solver.mocksConsumed input answer ≤
      (solver.windowPlacements input answer).length := by
  unfold mocksConsumed
  split
  · exact min_le_left _ _
  · exact Nat.zero_le _

theorem mocksConsumed_le_pool :
    solver.mocksConsumed input answer ≤
      input.dynamicMockPool.initialCount.toNat := by
  unfold mocksConsumed
  split
  · exact min_le_right _ _
  · exact Nat.zero_le _

/-- The rounded sum is off by half a basis point per rounded value. -/
theorem abs_windowErrorBp_sub_le :
    |(solver.windowErrorBp input answer : ℚ) -
        solver.exactWindowError input answer * 100| ≤
      (1 + (solver.windowPlacements input answer).length +
        solver.mocksConsumed input answer) / 2 := by
  have baseline := abs_le.mp (abs_roundHalfAway_sub_le
    (input.errorWindowBaseline.errorSum * 100))
  have placed := abs_le.mp (abs_sum_roundHalfAway_sub_le
    (solver.windowPlacements input answer) fun assignment =>
      assignment.error * 100)
  have mock := abs_le.mp (abs_roundHalfAway_sub_le
    (input.dynamicMockPool.errorPerRequest * 100))
  rw [List.sum_map_mul_right] at placed
  have consumed : (0 : ℚ) ≤ solver.mocksConsumed input answer :=
    Nat.cast_nonneg _
  have low := mul_le_mul_of_nonneg_left mock.1 consumed
  have high := mul_le_mul_of_nonneg_left mock.2 consumed
  unfold windowErrorBp exactWindowError mockErrorBp
  push_cast at placed ⊢
  rw [abs_le]
  constructor <;> linarith

/-- A whole baseline count that includes the mocks is not rounded. -/
theorem windowCountMilli_eq {count : ℤ}
    (integral : input.errorWindowBaseline.requestCount = count)
    (includesMocks : max input.dynamicMockPool.initialCount 0 ≤ count) :
    (solver.windowCountMilli input answer : ℚ) / 1000 =
      solver.exactWindowCount input answer := by
  have whole : roundHalfAway
      (input.errorWindowBaseline.requestCount * 1000) = count * 1000 := by
    rw [integral, ← roundHalfAway_intCast (count * 1000)]
    push_cast
    rfl
  have nonneg : 0 ≤ count * 1000 := by omega
  have clamped : ∀ consumed : ℕ,
      (if consumed = 0 then count * 1000 else max (count * 1000) 0) =
        count * 1000 := by
    intro consumed
    rw [max_eq_left nonneg, ite_self]
  unfold windowCountMilli exactWindowCount
  dsimp only
  rw [whole, clamped, integral]
  push_cast
  ring

/-- The window counts a third as many requests as values were rounded. -/
theorem rounded_le_three_mul_count {count : ℤ}
    (integral : input.errorWindowBaseline.requestCount = count)
    (includesMocks : max input.dynamicMockPool.initialCount 0 ≤ count)
    (weighted : 1 ≤ solver.exactWindowCount input answer) :
    (1 + (solver.windowPlacements input answer).length +
        solver.mocksConsumed input answer : ℚ) ≤
      3 * solver.exactWindowCount input answer := by
  have consumed : (solver.mocksConsumed input answer : ℚ) ≤
      (solver.windowPlacements input answer).length :=
    Nat.cast_le.mpr mocksConsumed_le_length
  have pool : (solver.mocksConsumed input answer : ℚ) ≤ count := by
    have bounded :
        solver.mocksConsumed input answer ≤
          input.dynamicMockPool.initialCount.toNat := mocksConsumed_le_pool
    have whole : (solver.mocksConsumed input answer : ℤ) ≤ count := by omega
    exact_mod_cast whole
  unfold exactWindowCount at weighted ⊢
  rw [integral] at weighted ⊢
  linarith

/-- An answer under a threshold keeps the exact window average within it, up
to one and a half basis points. -/
theorem solveBatch_exact_average_le (oracle : SearchOracle) {threshold : ℚ}
    (limit : input.maxErrorThreshold = some threshold) {count : ℤ}
    (integral : input.errorWindowBaseline.requestCount = count)
    (includesMocks : max input.dynamicMockPool.initialCount 0 ≤ count)
    (answered : solver.solveBatch input oracle ≠ [])
    (weighted : 1 ≤
      solver.exactWindowCount input (solver.solveBatch input oracle)) :
    solver.exactWindowError input (solver.solveBatch input oracle) /
        solver.exactWindowCount input (solver.solveBatch input oracle) ≤
      threshold + 15 / 1000 := by
  rcases solveBatch_cases solver input oracle with
    empty | ⟨choices, answers⟩
  · exact absurd empty answered
  have within := answers.within threshold limit
  have milli : (solver.windowCountMilli input
      (solver.solveBatch input oracle) : ℚ) / 1000 =
        solver.exactWindowCount input (solver.solveBatch input oracle) :=
    windowCountMilli_eq integral includesMocks
  have rounded := rounded_le_three_mul_count integral includesMocks weighted
  set answer := solver.solveBatch input oracle with answer_eq
  have positive : 0 < solver.exactWindowCount input answer := by linarith
  have quantised : (solver.windowErrorBp input answer : ℚ) / 100 ≤
      threshold * solver.exactWindowCount input answer := by
    rcases within with zero | average
    · rw [zero, Int.cast_zero, zero_div] at milli
      linarith
    · rwa [milli, div_le_iff₀ positive] at average
  have close : |(solver.windowErrorBp input answer : ℚ) -
      solver.exactWindowError input answer * 100| ≤ _ :=
    abs_windowErrorBp_sub_le
  have lower := (abs_le.mp close).1
  rw [div_le_iff₀ positive]
  calc solver.exactWindowError input answer
      ≤ (solver.windowErrorBp input answer : ℚ) / 100 +
          (1 + (solver.windowPlacements input answer).length +
            solver.mocksConsumed input answer) / 200 := by linarith
    _ ≤ threshold * solver.exactWindowCount input answer +
          3 * solver.exactWindowCount input answer / 200 := by linarith
    _ = (threshold + 15 / 1000) * solver.exactWindowCount input answer := by
          ring

/-- A flavour, a baseline and a mock that all round in favour of the
answer. -/
def favourableSolver : DpSolver where
  flavours := [{ name := "only", error := 30049 / 10000, duration := 1 }]
  windowSize := 1
  carbonForecast := ⟨[1], rfl⟩
  pruning := "none"
  pruningK := 1
  timeout := 1
  carbonCostScale := 1

def favourableInput : SolveBatchInput where
  requests := [{ requestId := 7, earliestSlot := 0, deadlineSlot := 0 }]
  currentSlot := 0
  capacityMultiplier := 1
  capacityTiers := [{ maxRequests := none, multiplier := 1 }]
  baselineSlotCounts := ∅
  errorWindowBaseline := { errorSum := 30049 / 10000, requestCount := 1 }
  maxErrorThreshold := some 3
  errorWindowPast := 0
  errorWindowFuture := 0
  assignmentMaxSlot := none
  dynamicMockPool := { initialCount := 1, errorPerRequest := 29951 / 10000 }
  requestFlavours := ∅

/-- Nearly all of the margin can be used up. -/
theorem favourable_exact_average :
    3 + 14 / 1000 <
        favourableSolver.exactWindowError favourableInput
            (favourableSolver.solveBatch favourableInput (.steady 0)) /
          favourableSolver.exactWindowCount favourableInput
            (favourableSolver.solveBatch favourableInput (.steady 0)) ∧
      favourableSolver.exactWindowError favourableInput
            (favourableSolver.solveBatch favourableInput (.steady 0)) /
          favourableSolver.exactWindowCount favourableInput
            (favourableSolver.solveBatch favourableInput (.steady 0)) ≤
        3 + 15 / 1000 := by
  have integral :
      favourableInput.errorWindowBaseline.requestCount = ((1 : ℤ) : ℚ) := rfl
  exact ⟨by decide +kernel,
    solveBatch_exact_average_le (.steady 0) rfl integral (by decide)
      (by decide +kernel) (by decide +kernel)⟩

end Quantisation

end DpSolver

end Carbonshift
