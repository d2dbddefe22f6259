import Carbonshift.Engine.LastResort
import Carbonshift.Engine.ReplanPrices
import Carbonshift.Engine.SingleRequest
import Mathlib.Order.Bounds.Basic

/-!
# The singleton strategy against the search

For one request both strategies weigh every flavour in every slot and charge
the same price for it.  They do not test it alike: the search keeps quantised
sums and lets the request take the place of a mock, while the singleton
strategy counts it on top of the mocks and insists on the cumulative rule even
when no flavour can keep it.
-/

namespace Carbonshift

/-- Two least prices agree when each candidate that only one side has is
matched by the other side. -/
theorem isLeast_price_eq_iff {α : Type*} {price : α → ℚ} {left right : Set α}
    {cost other : ℚ} (least : IsLeast (price '' left) cost)
    (leastOther : IsLeast (price '' right) other) :
    cost = other ↔
      (∀ candidate ∈ left \ right,
        ∃ substitute ∈ right, price substitute ≤ price candidate) ∧
      ∀ candidate ∈ right \ left,
        ∃ substitute ∈ left, price substitute ≤ price candidate := by
  obtain ⟨⟨best, bestMember, rfl⟩, below⟩ := least
  obtain ⟨⟨bestOther, otherMember, rfl⟩, belowOther⟩ := leastOther
  constructor
  · intro same
    refine ⟨fun candidate member => ⟨bestOther, otherMember, ?_⟩,
      fun candidate member => ⟨best, bestMember, ?_⟩⟩
    · rw [← same]
      exact below ⟨candidate, member.1, rfl⟩
    · rw [same]
      exact belowOther ⟨candidate, member.1, rfl⟩
  · rintro ⟨matched, matchedOther⟩
    apply le_antisymm
    · by_cases shared : bestOther ∈ left
      · exact below ⟨bestOther, shared, rfl⟩
      · obtain ⟨substitute, member, cheap⟩ :=
          matchedOther bestOther ⟨otherMember, shared⟩
        exact (below ⟨substitute, member, rfl⟩).trans cheap
    · by_cases shared : best ∈ right
      · exact belowOther ⟨best, shared, rfl⟩
      · obtain ⟨substitute, member, cheap⟩ :=
          matched best ⟨bestMember, shared⟩
        exact (belowOther ⟨substitute, member, rfl⟩).trans cheap

/-! ## The two tests -/

namespace PreparedSolve

variable (prep : PreparedSolve)

/-- An error as the search counts it. -/
def countedError (error : ℚ) : ℚ :=
  (roundHalfAway (error * 100) : ℚ) / 100

/-- A weight as the search counts it. -/
def countedWeight (weight : ℚ) : ℚ :=
  (roundHalfAway (weight * 1000) : ℚ) / 1000

/-- The request can take the place of a mock. -/
def SwapsMock : Prop :=
  0 < prep.mockPoolInput.initialCount ∧
    0 < roundHalfAway (prep.mockPoolInput.errorPerRequest * 100)

instance : Decidable prep.SwapsMock :=
  inferInstanceAs (Decidable (_ ∧ _))

/-- Window error after serving the flavour, as the search counts it. -/
def searchSum (flavour : Flavour) : ℚ :=
  countedError prep.errorBaseline.errorSum + countedError flavour.error

/-- The search lets the flavour pass in the window. -/
structure SearchAccepts (flavour : Flavour) : Prop where
  swapped : prep.SwapsMock →
    countedWeight prep.errorBaseline.requestCount = 0 ∨
      (prep.searchSum flavour -
            countedError prep.mockPoolInput.errorPerRequest) /
          countedWeight prep.errorBaseline.requestCount ≤
        prep.effectiveErrorThreshold
  added : ¬ prep.SwapsMock →
    prep.searchSum flavour /
        (countedWeight prep.errorBaseline.requestCount + 1) ≤
      prep.effectiveErrorThreshold

/-- The singleton strategy lets the flavour pass. -/
structure SingletonAccepts (policy : AssignmentPolicy) (flavour : Flavour) :
    Prop where
  cumulative : prep.profileConstraintActive = true →
    policy.globalErrorConstraintHard = true →
      flavour.error ≤ policy.maxErrorThreshold
  window :
    (prep.errorBaseline.errorSum + flavour.error) /
        (prep.errorBaseline.requestCount + 1) ≤
      policy.maxErrorThreshold

variable {prep : PreparedSolve} {input : BatchSolveContext}

/-- Counting rounds to the nearest thousandth. -/
theorem countedWeight_nonneg {weight : ℚ} (nonneg : 0 ≤ weight) :
    0 ≤ countedWeight weight := by
  have near := abs_le.mp (abs_roundHalfAway_sub_le (weight * 1000))
  have above : (-1 : ℚ) < roundHalfAway (weight * 1000) := by
    linarith
  have rounded : 0 ≤ roundHalfAway (weight * 1000) := by
    have strict : (-1 : ℤ) < roundHalfAway (weight * 1000) := by
      exact_mod_cast above
    omega
  exact div_nonneg (by exact_mod_cast rounded) (by norm_num)

theorem initialKey_errorCount_nonneg {solver : DpSolver}
    (nonneg : 0 ≤ prep.errorBaseline.requestCount) :
    0 ≤ (solver.initialKey (prep.dpInput input)).errorCount :=
  countedWeight_nonneg nonneg

/-- In the window, the search accepts by the flavour alone. -/
theorem acceptable_iff {solver : DpSolver} {choice : Choice}
    (nonneg : 0 ≤ prep.errorBaseline.requestCount)
    (inside : solver.inWindow (prep.dpInput input) choice.slot = true) :
    solver.Acceptable (prep.dpInput input) choice ↔
      prep.SearchAccepts choice.flavour := by
  have counted : (solver.initialKey (prep.dpInput input)).errorCount =
      countedWeight prep.errorBaseline.requestCount := rfl
  have weight := countedWeight_nonneg nonneg
  have swaps : (0 < (solver.initialKey (prep.dpInput input)).mockRemaining ∧
        0 < DpSolver.mockErrorBp (prep.dpInput input)) ↔ prep.SwapsMock :=
    and_congr_left' (lt_max_iff.trans (or_iff_left (lt_irrefl 0)))
  have meets : solver.Acceptable (prep.dpInput input) choice ↔
      (solver.accountPlacement (prep.dpInput input)
          (solver.initialKey (prep.dpInput input)) choice.flavour
          choice.slot).2.1 = 0 ∨
        ((solver.accountPlacement (prep.dpInput input)
            (solver.initialKey (prep.dpInput input)) choice.flavour
            choice.slot).1 : ℚ) / 100 /
          (solver.accountPlacement (prep.dpInput input)
            (solver.initialKey (prep.dpInput input)) choice.flavour
            choice.slot).2.1 ≤ prep.effectiveErrorThreshold := by
    rw [← DpSolver.advanceKey_errorCount]
    exact decide_eq_true_iff
  rw [meets]
  unfold DpSolver.accountPlacement
  simp only [inside, if_true, swaps, counted]
  split
  · rename_i swapped
    have same : ((((solver.initialKey (prep.dpInput input)).errorSumBp +
            roundHalfAway (choice.flavour.error * 100) -
            DpSolver.mockErrorBp (prep.dpInput input) : ℤ) : ℚ) / 100) =
        prep.searchSum choice.flavour -
          countedError prep.mockPoolInput.errorPerRequest := by
      simp only [searchSum, countedError, ← add_div, ← sub_div]
      push_cast
      rfl
    rw [add_sub_cancel_right, max_eq_left weight, same]
    exact ⟨fun within => ⟨fun _ => within, fun added => absurd swapped added⟩,
      fun accepts => accepts.swapped swapped⟩
  · rename_i added
    have same : ((((solver.initialKey (prep.dpInput input)).errorSumBp +
            roundHalfAway (choice.flavour.error * 100) : ℤ) : ℚ) / 100) =
        prep.searchSum choice.flavour := by
      simp only [searchSum, countedError, ← add_div]
      push_cast
      rfl
    rw [or_iff_right (by linarith), same]
    exact ⟨fun within => ⟨fun swapped => absurd swapped added, fun _ => within⟩,
      fun accepts => accepts.added added⟩

end PreparedSolve

/-! ## What the two strategies choose from -/

namespace BatchSolveContext

section Definitions

variable (input : BatchSolveContext) (request : Request)

/-- One request with the flavours of its own policy, and nothing movable. -/
structure SingleBatch : Prop where
  pending_eq : input.pending = [request]
  flavours_eq : input.assignment.offeredFlavours request =
    input.assignment.flavours
  locked : input.solverConfig.dpLockFutureAssignments = true
  started : 0 ≤ input.currentSlot
  past_nonneg : 0 ≤ input.assignment.errorWindowPast
  future_nonneg : 0 ≤ input.assignment.errorWindowFuture

/-- A flavour of the batch in a slot of the request. -/
structure Candidate (candidate : ℤ × Flavour) : Prop where
  first_le : max request.arrivalSlot input.currentSlot ≤ candidate.1
  le_last : candidate.1 ≤ input.capDeadline request.deadlineSlot
  offered : candidate.2 ∈ input.restrictFlavours input.assignment.flavours

/-- Price of a candidate behind the fixed load. -/
def candidatePrice (order : IterationOrder Assignment)
    (candidate : ℤ × Flavour) : ℚ :=
  positionCost input.assignment input.carbonForecast candidate.1 candidate.2
    (slotOccupancy (input.fixedFuture order) candidate.1 + 1)

variable {σ : Type} (runtime : NumericRuntime σ)
variable (order : IterationOrder Assignment)

/-- The candidates the search lets pass. -/
def searchOptions : Set (ℤ × Flavour) :=
  {candidate | input.Candidate request candidate ∧
    (prepareSolve runtime order input).1.SearchAccepts candidate.2}

/-- The candidates the singleton strategy lets pass. -/
def singletonOptions : Set (ℤ × Flavour) :=
  {candidate | input.Candidate request candidate ∧
    (prepareSolve runtime order input).1.SingletonAccepts input.assignment
      candidate.2}

/-- What the singleton strategy chooses from: without an option, a most
accurate flavour in the first slot. -/
def singletonPicks : Set (ℤ × Flavour) :=
  {candidate | candidate ∈ input.singletonOptions request runtime order ∨
    input.singletonOptions request runtime order = ∅ ∧
      candidate.1 = max request.arrivalSlot input.currentSlot ∧
        (input.restrictFlavours input.assignment.flavours).argmin
          Flavour.error = some candidate.2}

/-- Whatever only one strategy lets pass, the other one matches. -/
structure TestsMatch : Prop where
  missed : ∀ candidate ∈ input.searchOptions request runtime order \
      input.singletonPicks request runtime order,
    ∃ substitute ∈ input.singletonPicks request runtime order,
      input.candidatePrice order substitute ≤
        input.candidatePrice order candidate
  extra : ∀ candidate ∈ input.singletonPicks request runtime order \
      input.searchOptions request runtime order,
    ∃ substitute ∈ input.searchOptions request runtime order,
      input.candidatePrice order substitute ≤
        input.candidatePrice order candidate

/-- No mock to swap, nothing to round, and a cumulative rule that some flavour
keeps. -/
structure SameAccounts : Prop where
  errors : ∀ flavour ∈ input.assignment.flavours, Centesimal flavour.error
  sum : Centesimal
    (prepareSolve runtime order input).1.errorBaseline.errorSum
  count : ∃ thousandths : ℤ,
    (prepareSolve runtime order input).1.errorBaseline.requestCount * 1000 =
      thousandths
  unswapped : ¬ (prepareSolve runtime order input).1.SwapsMock
  keepable : input.profileConstraintActive = true →
    input.assignment.globalErrorConstraintHard = true →
      ∃ flavour ∈ input.assignment.flavours,
        flavour.error ≤ input.assignment.maxErrorThreshold

end Definitions

variable {σ : Type} {runtime : NumericRuntime σ}
variable {order : IterationOrder Assignment} {input : BatchSolveContext}
variable {request : Request}

/-! ## The baseline -/

theorem augmentWithDecayedPast_requestCount_nonneg
    {currentSlot : ℤ} {baseline : ErrorBaseline}
    (nonneg : 0 ≤ baseline.requestCount) (policy : AssignmentPolicy)
    (profileId : QosProfileId) (snapshot : SolverSnapshot)
    (exclude : List ℕ) :
    0 ≤ (augmentWithDecayedPast currentSlot baseline policy profileId snapshot
      exclude).requestCount := by
  unfold augmentWithDecayedPast
  dsimp only
  split_ifs with undecayed weightless
  · exact nonneg
  · exact nonneg
  · exact add_nonneg nonneg (not_le.mp weightless).le

theorem augmentWithVirtualPrehistory_requestCount_nonneg
    {currentSlot : ℤ} {baseline : ErrorBaseline}
    (nonneg : 0 ≤ baseline.requestCount) (policy : AssignmentPolicy)
    (simulation : SimulationConfig) (recovery : InfeasibilityConfig) :
    0 ≤ (augmentWithVirtualPrehistory currentSlot baseline policy runtime
      simulation recovery).requestCount := by
  unfold augmentWithVirtualPrehistory
  dsimp only
  split_ifs with complete stochastic nobody nobody
  · exact nonneg
  · exact nonneg
  · exact add_nonneg nonneg (Int.cast_nonneg (not_le.mp nobody).le)
  · exact nonneg
  · exact add_nonneg nonneg (Int.cast_nonneg (not_le.mp nobody).le)

theorem prepareSolve_requestCount_nonneg :
    0 ≤ (prepareSolve runtime order input).1.errorBaseline.requestCount := by
  have window : 0 ≤ (ErrorBaseline.new
      (input.snapshot.getProfileWindowErrorStats (batchProfileId input.pending)
        input.currentSlot input.assignment.errorWindowPast
        input.assignment.errorWindowFuture
        (assignmentIds (input.movableFuture order))).errorSum
      (input.snapshot.getProfileWindowErrorStats (batchProfileId input.pending)
        input.currentSlot input.assignment.errorWindowPast
        input.assignment.errorWindowFuture
        (assignmentIds (input.movableFuture order))).count).requestCount :=
    Nat.cast_nonneg _
  have history : 0 ≤ (input.historyBaseline runtime
      (assignmentIds (input.movableFuture order))).requestCount :=
    augmentWithVirtualPrehistory_requestCount_nonneg
      (augmentWithDecayedPast_requestCount_nonneg window _ _ _ _) _ _ _
  simp only [prepareSolve, applyInfeasibilityRecovery]
  split_ifs with unseeded empty
  · exact history
  · exact history
  · have mocks := (not_or.mp empty).1
    exact add_nonneg history (by exact_mod_cast (not_le.mp mocks).le)

namespace SingleBatch

/-- The solve has one request. -/
theorem solveRequests_eq (batch : SingleBatch input request)
    (runtime : NumericRuntime σ) (order : IterationOrder Assignment) :
    (prepareSolve runtime order input).1.solveRequests =
      [input.solveRequestOf request] := by
  simp [batch.pending_eq, movableFuture_of_locked batch.locked]

/-- The search and the singleton strategy use the same flavours. -/
theorem flavoursFor_eq (batch : SingleBatch input request)
    {solver : DpSolver} (built : BuiltSolver input
      (input.restrictFlavours input.assignment.flavours) solver) :
    solver.flavoursFor request.id input.requestFlavours =
      input.restrictFlavours input.assignment.flavours := by
  have alone : request ∈ input.pending := by
    rw [batch.pending_eq]
    exact List.mem_singleton_self request
  have unique : (requestIds input.pending).Nodup := by
    rw [batch.pending_eq]
    exact List.nodup_singleton _
  have own := batch.flavours_eq
  unfold AssignmentPolicy.offeredFlavours at own
  unfold DpSolver.flavoursFor
  rw [lookup_requestFlavours unique alone]
  cases profiled : request.qosProfile with
  | none => rw [Option.map_none, Option.getD_none, built.flavours_eq]
  | some profile =>
      rw [profiled, Option.map_some, Option.getD_some] at own
      rw [Option.map_some, Option.getD_some, own]

variable {solver : DpSolver}

/-- The slots of the search are the slots of the request. -/
theorem slots_iff (batch : SingleBatch input request)
    (built : BuiltSolver input
      (input.restrictFlavours input.assignment.flavours) solver)
    (runtime : NumericRuntime σ) (order : IterationOrder Assignment)
    (slot : ℤ) :
    DpSolver.earliestFor ((prepareSolve runtime order input).1.dpInput input)
          (input.solveRequestOf request) ≤ slot ∧
        slot ≤ solver.deadlineFor
          ((prepareSolve runtime order input).1.dpInput input)
          (input.solveRequestOf request) ↔
      max request.arrivalSlot input.currentSlot ≤ slot ∧
        slot ≤ input.capDeadline request.deadlineSlot := by
  have future := batch.future_nonneg
  simp only [DpSolver.earliestFor, DpSolver.deadlineFor,
    DpSolver.assignmentCap, PreparedSolve.dpInput,
    prepareSolve_assignmentCap, built.windowSize_eq, solveRequestOf,
    capDeadline, Option.getD_some]
  omega

/-- A legal choice of the search is a candidate. -/
theorem legalChoice_iff (batch : SingleBatch input request)
    (built : BuiltSolver input
      (input.restrictFlavours input.assignment.flavours) solver)
    {choice : Choice}
    (own : choice.request = input.solveRequestOf request) :
    solver.LegalChoice ((prepareSolve runtime order input).1.dpInput input)
        (input.solveRequestOf request) choice ↔
      input.Candidate request (choice.slot, choice.flavour) := by
  have flavours := batch.flavoursFor_eq built
  constructor
  · intro legal
    obtain ⟨first, last⟩ := (batch.slots_iff built runtime order _).mp
      ⟨legal.earliest_le, legal.le_deadline⟩
    refine ⟨first, last, ?_⟩
    rw [← flavours]
    exact legal.flavour_mem
  · intro possible
    obtain ⟨first, last⟩ := (batch.slots_iff built runtime order _).mpr
      ⟨possible.first_le, possible.le_last⟩
    have offered := possible.offered
    rw [← flavours] at offered
    exact ⟨own, offered, first, last⟩

/-- The slots of the request lie in the horizon. -/
theorem lt_windowSize
    (built : BuiltSolver input
      (input.restrictFlavours input.assignment.flavours) solver)
    {slot : ℤ} (last : slot ≤ input.capDeadline request.deadlineSlot) :
    slot < solver.windowSize := by
  rw [built.windowSize_eq]
  simp only [capDeadline] at last
  omega

/-- The slots of the request lie in the error window. -/
theorem inWindow (batch : SingleBatch input request)
    (built : BuiltSolver input
      (input.restrictFlavours input.assignment.flavours) solver)
    (runtime : NumericRuntime σ) (order : IterationOrder Assignment)
    {slot : ℤ} (first : max request.arrivalSlot input.currentSlot ≤ slot)
    (last : slot ≤ input.capDeadline request.deadlineSlot) :
    solver.inWindow ((prepareSolve runtime order input).1.dpInput input)
      slot = true := by
  have past := batch.past_nonneg
  have started := batch.started
  simp only [capDeadline] at last
  refine Bool.and_eq_true_iff.mpr ⟨decide_eq_true ?_, decide_eq_true ?_⟩
  · change max (input.currentSlot - input.assignment.errorWindowPast) 0 ≤ _
    omega
  · change _ ≤ min (input.currentSlot + input.assignment.errorWindowFuture)
      (solver.windowSize - 1)
    rw [built.windowSize_eq]
    omega

/-! ## The search -/

/-- The search charges the price of the candidate. -/
theorem price_eq (batch : SingleBatch input request)
    (built : BuiltSolver input
      (input.restrictFlavours input.assignment.flavours) solver)
    {choice : Choice}
    (possible : input.Candidate request (choice.slot, choice.flavour)) :
    (solver.dpSearch
        ((prepareSolve runtime order input).1.dpInput input)).price
        (solver.initialKey
          ((prepareSolve runtime order input).1.dpInput input)) choice =
      input.candidatePrice order (choice.slot, choice.flavour) := by
  have inside := lt_windowSize built possible.le_last
  have nonneg : 0 ≤ choice.slot :=
    batch.started.trans ((le_max_right _ _).trans possible.first_le)
  have baseline :
      (solver.baseCounts
        ((prepareSolve runtime order input).1.dpInput input)).getD
          choice.slot.toNat 0 =
        slotOccupancy (input.fixedFuture order) choice.slot := by
    rw [← getD_countSlots]
    exact getD_slotTable solver.windowSize
      (fun slot =>
        (SharedState.countSlots (input.fixedFuture order)).getD slot 0)
      nonneg inside
  have fresh : (List.replicate solver.windowSize.toNat (0 : ℤ)).getD
      choice.slot.toNat 0 = 0 := by
    rw [List.getD_eq_getElem?_getD, List.getElem?_replicate]
    split
    · rfl
    · rfl
  refine (incrementalCarbonCost_eq_positionCost built nonneg inside
    (resolvedTiers_multiplier rfl) choice.flavour _ _).trans ?_
  rw [baseline]
  change positionCost _ _ _ _
      (_ + (List.replicate solver.windowSize.toNat (0 : ℤ)).getD
        choice.slot.toNat 0 + 1) = _
  rw [fresh, add_zero]
  rfl

/-- A search that finds something has a solver. -/
theorem search_built {oracle : SolveOracle}
    (found : input.searchDecisions runtime oracle ≠ []) :
    ∃ solver, BuiltSolver input
        (input.restrictFlavours input.assignment.flavours) solver ∧
      input.searchDecisions runtime oracle =
        solver.solveBatch
          ((prepareSolve runtime oracle.futureOrder input).1.dpInput input)
          oracle.search := by
  unfold searchDecisions at found ⊢
  cases buildable : buildSolver
      (prepareSolve runtime oracle.futureOrder input).1.solverFlavours
      input.carbonForecast input.assignment input.solverConfig
      (getEffectivePruningMode input.pending.length input.solverConfig) with
  | none =>
      simp only [buildable, Option.map_none, Option.getD_none] at found
      exact absurd rfl found
  | some solver =>
      refine ⟨solver, builtSolver_of_buildSolver buildable, ?_⟩
      simp only [buildable, Option.map_some, Option.getD_some]

/-- The acceptable choices of the search cost what the options cost. -/
theorem image_price (batch : SingleBatch input request)
    (built : BuiltSolver input
      (input.restrictFlavours input.assignment.flavours) solver)
    (runtime : NumericRuntime σ) (order : IterationOrder Assignment) :
    input.candidatePrice order '' input.searchOptions request runtime order =
      (solver.dpSearch
          ((prepareSolve runtime order input).1.dpInput input)).price
          (solver.initialKey
            ((prepareSolve runtime order input).1.dpInput input)) ''
        {choice |
          solver.LegalChoice
              ((prepareSolve runtime order input).1.dpInput input)
              (input.solveRequestOf request) choice ∧
            solver.Acceptable
              ((prepareSolve runtime order input).1.dpInput input) choice} := by
  have accepts : ∀ choice : Choice,
      input.Candidate request (choice.slot, choice.flavour) →
        (solver.Acceptable
            ((prepareSolve runtime order input).1.dpInput input) choice ↔
          (prepareSolve runtime order input).1.SearchAccepts
            choice.flavour) := fun choice possible =>
    PreparedSolve.acceptable_iff prepareSolve_requestCount_nonneg
      (batch.inWindow built runtime order possible.first_le
        possible.le_last)
  ext cost
  constructor
  · rintro ⟨⟨slot, flavour⟩, both, priced⟩
    have possible : input.Candidate request (slot, flavour) := both.1
    refine ⟨⟨input.solveRequestOf request, flavour, slot⟩, ⟨?_, ?_⟩, ?_⟩
    · exact (batch.legalChoice_iff built rfl).mpr possible
    · exact (accepts _ possible).mpr both.2
    · rw [← priced]
      exact batch.price_eq built possible
  · rintro ⟨choice, ⟨legal, acceptable⟩, priced⟩
    have possible := (batch.legalChoice_iff built legal.request_eq).mp legal
    refine ⟨(choice.slot, choice.flavour), ⟨possible, ?_⟩, ?_⟩
    · exact (accepts choice possible).mp acceptable
    · rw [← priced]
      exact (batch.price_eq built possible).symm

/-- What the search finds for the request is a cheapest option. -/
theorem searchDecisions_isLeast (batch : SingleBatch input request)
    {oracle : SolveOracle}
    (found : input.searchDecisions runtime oracle ≠ []) :
    ∃ decision : RequestAssignment,
      input.searchDecisions runtime oracle = [decision] ∧
        IsLeast (input.candidatePrice oracle.futureOrder ''
            input.searchOptions request runtime oracle.futureOrder)
          decision.carbonCost := by
  obtain ⟨solver, built, searched⟩ := search_built found
  rw [searched] at found ⊢
  have single : ((prepareSolve runtime oracle.futureOrder input).1.dpInput
      input).requests = [input.solveRequestOf request] :=
    batch.solveRequests_eq runtime oracle.futureOrder
  have weight : 0 ≤ (solver.initialKey
      ((prepareSolve runtime oracle.futureOrder input).1.dpInput
        input)).errorCount :=
    PreparedSolve.initialKey_errorCount_nonneg
      prepareSolve_requestCount_nonneg
  obtain ⟨decision, answer, least⟩ := DpSolver.solveBatch_single single weight
    (fun slot first last =>
      have bounds := (batch.slots_iff built runtime oracle.futureOrder
        slot).mp ⟨first, last⟩
      batch.inWindow built runtime oracle.futureOrder bounds.1 bounds.2)
    found
  rw [← batch.image_price built runtime oracle.futureOrder] at least
  exact ⟨decision, answer, least⟩

/-- An answer of the search is a cheapest option. -/
theorem search_isLeast (batch : SingleBatch input request)
    {oracle : SolveOracle} {result : BatchSolveResult}
    {recovery : RecoveryState}
    (solved : solveDp runtime oracle input = some (result, recovery))
    (ok : result.context.status = "ok") :
    ∃ cost, result.assignments.map Assignment.carbonCost = [cost] ∧
      IsLeast (input.candidatePrice oracle.futureOrder ''
        input.searchOptions request runtime oracle.futureOrder) cost := by
  have unmovable := movableFuture_of_locked batch.locked oracle.futureOrder
  have decisions := solveDp_decisions
    (by rw [batch.pending_eq]; exact List.nodup_singleton _)
    (by rw [batch.pending_eq]; exact List.cons_ne_nil _ _)
    (by simp [unmovable, assignmentIds]) solved
  cases decisions with
  | fallback _ _ _ _ status =>
      rw [status] at ok
      exact absurd ok (by decide)
  | infeasible _ _ _ status =>
      rw [status] at ok
      exact absurd ok (by decide)
  | planned found _ assignments_eq _ =>
      obtain ⟨decision, searched, least⟩ :=
        batch.searchDecisions_isLeast found
      refine ⟨decision.carbonCost, ?_, least⟩
      rw [assignments_eq, searched]
      rfl

/-! ## The singleton strategy -/

/-- Before anything is placed, the strategy accepts by the flavour alone. -/
theorem singletonFeasible_iff (counts : Dictionary ℤ ℤ) (arrival : ℤ)
    (flavour : Flavour) :
    singletonFeasible (prepareSolve runtime order input).1 input
        { slotCount := counts, solved := [] } arrival flavour = true ↔
      (prepareSolve runtime order input).1.SingletonAccepts input.assignment
        flavour := by
  have weight : 0 ≤
      (prepareSolve runtime order input).1.errorBaseline.requestCount :=
    prepareSolve_requestCount_nonneg
  have retrospective : (prepareSolve runtime order input).1.profileConstraintActive
        = true →
      0 < (prepareSolve runtime order input).1.profileErrorStats.count ∧
        input.assignment.maxErrorThreshold <
          (prepareSolve runtime order input).1.profileErrorStats.avg := by
    intro active
    have conditions := Bool.and_eq_true_iff.mp active
    exact ⟨of_decide_eq_true (Bool.and_eq_true_iff.mp conditions.1).2,
      of_decide_eq_true conditions.2⟩
  generalize (prepareSolve runtime order input).1 = prep at *
  unfold singletonFeasible
  simp only [List.filter_nil, List.map_nil, List.sum_nil, add_zero,
    List.length_nil, Nat.cast_zero, Bool.and_eq_true, Bool.not_eq_true',
    Bool.and_eq_false_iff, decide_eq_false_iff_not, not_lt]
  have heavy : ¬ prep.errorBaseline.requestCount + 1 ≤ 0 := by
    linarith
  rw [or_iff_right heavy]
  constructor
  · rintro ⟨cumulative, window⟩
    refine ⟨fun active hard => ?_, window⟩
    obtain ⟨counted, above⟩ := retrospective active
    simpa [active, hard, counted, not_le.mpr above] using cumulative
  · intro accepts
    refine ⟨?_, accepts.window⟩
    by_cases active : prep.profileConstraintActive = true
    · by_cases hard : input.assignment.globalErrorConstraintHard = true
      · exact Or.inr (accepts.cumulative active hard)
      · simp [hard]
    · simp [active]

/-- What the strategy has seen before it places anything. -/
def openingScan (input : BatchSolveContext)
    (order : IterationOrder Assignment) : SingletonScan where
  slotCount := SharedState.countSlots (input.fixedFuture order)
  solved := []

/-- The strategy charges the price of the candidate. -/
theorem singletonCost_eq (candidate : ℤ × Flavour) :
    singletonCost input (openingScan input order) candidate.1 candidate.2 =
      input.candidatePrice order candidate := by
  unfold singletonCost candidatePrice positionCost
  simp only [openingScan, getD_countSlots]

/-- The feasible candidates are the options. -/
theorem mem_feasible_iff (arrival : ℤ) (candidate : ℤ × Flavour) :
    candidate ∈ (singletonCandidates (prepareSolve runtime order input).1
          (max (input.solveRequestOf request).earliestSlot input.currentSlot)
          (input.solveRequestOf request).deadlineSlot).filter
        (fun candidate => singletonFeasible
          (prepareSolve runtime order input).1 input (openingScan input order)
          arrival candidate.2) ↔
      candidate ∈ input.singletonOptions request runtime order := by
  have first : max (input.solveRequestOf request).earliestSlot
      input.currentSlot = max request.arrivalSlot input.currentSlot :=
    max_eq_left (le_max_right _ _)
  rw [List.mem_filter, first]
  refine and_congr ?_ (singletonFeasible_iff _ _ _)
  refine mem_singletonCandidates_iff.trans
    ⟨fun listed => ?_, fun possible => ?_⟩
  · exact ⟨listed.1.1, listed.1.2, listed.2⟩
  · exact ⟨⟨possible.first_le, possible.le_last⟩, possible.offered⟩

/-- The strategy chooses a cheapest pick. -/
theorem singletonChoice_isLeast {fallback : Flavour}
    (least : (input.restrictFlavours input.assignment.flavours).argmin
      Flavour.error = some fallback) :
    IsLeast (input.candidatePrice order ''
        input.singletonPicks request runtime order)
      (input.candidatePrice order
        (singletonChoice (prepareSolve runtime order input).1 input fallback
          (openingScan input order) (input.solveRequestOf request))) := by
  have feasible : ∀ candidate,
      candidate ∈ (singletonCandidates (prepareSolve runtime order input).1
          (max (input.solveRequestOf request).earliestSlot input.currentSlot)
          (input.solveRequestOf request).deadlineSlot).filter
        (fun candidate => singletonFeasible
          (prepareSolve runtime order input).1 input (openingScan input order)
          ((prepareSolve runtime order input).1.assignmentMetadata.getD
            (input.solveRequestOf request).requestId
            (input.currentSlot,
              (input.solveRequestOf request).deadlineSlot)).1
          candidate.2) ↔
      candidate ∈ input.singletonOptions request runtime order :=
    mem_feasible_iff _
  have first : max (input.solveRequestOf request).earliestSlot
      input.currentSlot = max request.arrivalSlot input.currentSlot :=
    max_eq_left (le_max_right _ _)
  unfold singletonChoice
  dsimp only
  generalize (singletonCandidates (prepareSolve runtime order input).1
    (max (input.solveRequestOf request).earliestSlot input.currentSlot)
    (input.solveRequestOf request).deadlineSlot).filter _ = passing
    at feasible ⊢
  cases cheapest : passing.argmin fun candidate =>
      singletonCost input (openingScan input order) candidate.1
        candidate.2 with
  | none =>
      have nothing : input.singletonOptions request runtime order = ∅ := by
        refine Set.eq_empty_of_forall_notMem fun candidate option => ?_
        have listed := (feasible candidate).mpr option
        rw [List.argmin_eq_none.mp cheapest] at listed
        cases listed
      rw [Option.getD_none]
      refine ⟨⟨_, Or.inr ⟨nothing, first, least⟩, rfl⟩, ?_⟩
      rintro _ ⟨⟨slot, flavour⟩, option | ⟨_, here, accurate⟩, rfl⟩
      · rw [nothing] at option
        cases option
      · dsimp only at here accurate
        rw [accurate, Option.some.injEq] at least
        rw [first, here, least]
  | some chosen =>
      have option := (feasible chosen).mp (List.argmin_mem cheapest)
      rw [Option.getD_some]
      refine ⟨⟨chosen, Or.inl option, rfl⟩, ?_⟩
      rintro _ ⟨other, otherOption | ⟨nothing, _⟩, rfl⟩
      · rw [← singletonCost_eq, ← singletonCost_eq]
        exact List.le_of_mem_argmin
          (f := fun candidate : ℤ × Flavour =>
            singletonCost input (openingScan input order) candidate.1
              candidate.2)
          ((feasible other).mpr otherOption) cheapest
      · rw [nothing] at option
        cases option

/-- One placement charges the price of the choice. -/
theorem singletonStep_charges (fallback : Flavour)
    (opens : max request.arrivalSlot input.currentSlot ≤
      input.capDeadline request.deadlineSlot) :
    ∃ next,
      singletonStep (prepareSolve runtime order input).1 input fallback
          (openingScan input order) (input.solveRequestOf request) =
        some next ∧
      next.solved.map RequestAssignment.carbonCost =
        [input.candidatePrice order
          (singletonChoice (prepareSolve runtime order input).1 input fallback
            (openingScan input order) (input.solveRequestOf request))] := by
  have opened : ¬ (input.solveRequestOf request).deadlineSlot <
      max (input.solveRequestOf request).earliestSlot input.currentSlot := by
    simp only [solveRequestOf]
    omega
  unfold singletonStep
  rw [if_neg opened]
  refine ⟨_, rfl, ?_⟩
  simp only [openingScan, List.nil_append, List.map_cons, List.map_nil]
  rw [← singletonCost_eq]
  rfl

/-- The singleton strategy answers with a cheapest pick. -/
theorem singleton_isLeast (batch : SingleBatch input request)
    {oracle : SolveOracle}
    (opens : max request.arrivalSlot input.currentSlot ≤
      input.capDeadline request.deadlineSlot)
    (offered : input.restrictFlavours input.assignment.flavours ≠ []) :
    ∃ single recovery cost,
      solveGreedySingleton runtime oracle input = some (single, recovery) ∧
        single.assignments.map Assignment.carbonCost = [cost] ∧
        IsLeast (input.candidatePrice oracle.futureOrder ''
          input.singletonPicks request runtime oracle.futureOrder) cost := by
  obtain ⟨fallback, least⟩ := List.exists_argmin Flavour.error offered
  obtain ⟨next, stepped, charged⟩ :=
    @singletonStep_charges _ runtime oracle.futureOrder input request
      fallback opens
  have scanned : singletonScan
      (prepareSolve runtime oracle.futureOrder input).1 input fallback
      (openingScan input oracle.futureOrder)
      (prepareSolve runtime oracle.futureOrder input).1.solveRequests =
        some next := by
    rw [batch.solveRequests_eq, singletonScan, stepped]
    rfl
  have returned := solveGreedySingleton_of_scan least scanned
  have costs : (next.solved.map
        ((prepareSolve runtime oracle.futureOrder input).1.toAssignment
          input.flavourDurationByName)).map Assignment.carbonCost = _ :=
    List.map_map.trans charged
  exact ⟨_, _, _, returned, costs, singletonChoice_isLeast least⟩

end SingleBatch

/-! ## The comparison -/

/-- A multiple of one hundredth is counted as it is. -/
theorem countedError_of_centesimal {error : ℚ} (exact : Centesimal error) :
    PreparedSolve.countedError error = error := by
  rw [PreparedSolve.countedError, roundHalfAway_mul_hundred exact]
  exact mul_div_cancel_right₀ error (by norm_num)

/-- With a keepable cumulative rule, every flavour of the solve keeps it. -/
theorem SameAccounts.error_le
    (same : input.SameAccounts runtime order) {flavour : Flavour}
    (offered : flavour ∈ input.restrictFlavours input.assignment.flavours)
    (active : input.profileConstraintActive = true)
    (hard : input.assignment.globalErrorConstraintHard = true) :
    flavour.error ≤ input.assignment.maxErrorThreshold := by
  obtain ⟨kept, member, within⟩ := same.keepable active hard
  have some_kept : (input.assignment.flavours.filter fun flavour =>
      decide (flavour.error ≤ input.assignment.maxErrorThreshold)) ≠ [] :=
    List.ne_nil_of_mem (List.mem_filter.mpr ⟨member, decide_eq_true within⟩)
  unfold restrictFlavours withinThresholdOrAll at offered
  simp only [active, hard, Bool.and_self, if_true,
    List.isEmpty_eq_false_iff.mpr some_kept, Bool.false_eq_true,
    if_false] at offered
  exact of_decide_eq_true (List.mem_filter.mp offered).2

/-- On the same accounts both strategies let the same flavours pass. -/
theorem SameAccounts.searchAccepts_iff
    (same : input.SameAccounts runtime order) {flavour : Flavour}
    (offered : flavour ∈ input.restrictFlavours input.assignment.flavours) :
    (prepareSolve runtime order input).1.SearchAccepts flavour ↔
      (prepareSolve runtime order input).1.SingletonAccepts input.assignment
        flavour := by
  have error := countedError_of_centesimal
    (same.errors flavour (mem_of_mem_restrictFlavours offered))
  have sum := countedError_of_centesimal same.sum
  have weight : PreparedSolve.countedWeight
        (prepareSolve runtime order input).1.errorBaseline.requestCount =
      (prepareSolve runtime order input).1.errorBaseline.requestCount := by
    obtain ⟨thousandths, whole⟩ := same.count
    rw [PreparedSolve.countedWeight, whole, roundHalfAway_intCast, ← whole]
    exact mul_div_cancel_right₀ _ (by norm_num)
  constructor
  · intro accepts
    refine ⟨same.error_le offered, ?_⟩
    have added := accepts.added same.unswapped
    rw [PreparedSolve.searchSum, error, sum, weight] at added
    exact added
  · intro accepts
    refine ⟨fun swapped => absurd swapped same.unswapped, fun _ => ?_⟩
    rw [PreparedSolve.searchSum, error, sum, weight]
    exact accepts.window

/-- On the same accounts neither strategy lets anything else pass. -/
theorem SameAccounts.testsMatch
    (same : input.SameAccounts runtime order)
    (found : (input.searchOptions request runtime order).Nonempty) :
    input.TestsMatch request runtime order := by
  have shared : ∀ candidate : ℤ × Flavour,
      candidate ∈ input.searchOptions request runtime order ↔
        candidate ∈ input.singletonOptions request runtime order :=
    fun candidate => and_congr_right fun possible =>
      same.searchAccepts_iff possible.offered
  obtain ⟨option, member⟩ := found
  constructor
  · rintro candidate ⟨searched, unpicked⟩
    exact absurd (Or.inl ((shared candidate).mp searched)) unpicked
  · rintro candidate ⟨picked | ⟨nothing, _⟩, unsearched⟩
    · exact absurd ((shared candidate).mpr picked) unsearched
    · have stranded := (shared option).mp member
      rw [nothing] at stranded
      cases stranded

/-- For one request, an answer of the search costs what the singleton strategy
charges when both keep the same accounts; and exactly when each strategy
matches what only the other one lets pass. -/
theorem singleton_cost_eq_iff (batch : SingleBatch input request)
    {oracle : SolveOracle} {result : BatchSolveResult}
    {recovery : RecoveryState}
    (solved : solveDp runtime oracle input = some (result, recovery))
    (ok : result.context.status = "ok") :
    ∃ single singleRecovery,
      solveGreedySingleton runtime oracle input =
          some (single, singleRecovery) ∧
        (input.SameAccounts runtime oracle.futureOrder →
          single.assignments.map Assignment.carbonCost =
            result.assignments.map Assignment.carbonCost) ∧
        (single.assignments.map Assignment.carbonCost =
            result.assignments.map Assignment.carbonCost ↔
          input.TestsMatch request runtime oracle.futureOrder) := by
  obtain ⟨cost, answered, least⟩ := batch.search_isLeast solved ok
  obtain ⟨option, member, _⟩ := least.1
  have possible : input.Candidate request option := member.1
  obtain ⟨single, singleRecovery, charged, returned, placed, leastPick⟩ :
      ∃ single singleRecovery cost,
        solveGreedySingleton runtime oracle input =
            some (single, singleRecovery) ∧
          single.assignments.map Assignment.carbonCost = [cost] ∧
          IsLeast (input.candidatePrice oracle.futureOrder ''
            input.singletonPicks request runtime oracle.futureOrder) cost :=
    batch.singleton_isLeast (possible.first_le.trans possible.le_last)
      (List.ne_nil_of_mem possible.offered)
  have exact :
      single.assignments.map Assignment.carbonCost =
          result.assignments.map Assignment.carbonCost ↔
        input.TestsMatch request runtime oracle.futureOrder := by
    rw [answered, placed, List.singleton_inj, eq_comm,
      isLeast_price_eq_iff least leastPick]
    exact ⟨fun matched => ⟨matched.1, matched.2⟩,
      fun matched => ⟨matched.missed, matched.extra⟩⟩
  exact ⟨single, singleRecovery, returned,
    fun same => exact.mpr (same.testsMatch ⟨option, member⟩), exact⟩

end BatchSolveContext

/-! ## A batch with one mock -/

section Example

/-- In a fresh engine the accounts are the same, so both strategies charge one
request the same. -/
theorem singleton_cost_eq_default :
    ∃ result recovery,
      solveDp .least .steady (defaultSolve [.new 0 7 0 3]) =
          some (result, recovery) ∧
        ∃ single singleRecovery,
          solveGreedySingleton .least .steady (defaultSolve [.new 0 7 0 3]) =
              some (single, singleRecovery) ∧
            single.assignments.map Assignment.carbonCost =
              result.assignments.map Assignment.carbonCost ∧
            (defaultSolve [.new 0 7 0 3]).TestsMatch (.new 0 7 0 3) .least
              .entryOrder := by
  have computed :
      (solveDp .least .steady (defaultSolve [.new 0 7 0 3])).map
        (fun solved => solved.1.context.status) = some "ok" := by
    decide +kernel
  obtain ⟨⟨result, recovery⟩, solved, ok⟩ :=
    Option.map_eq_some_iff.mp computed
  have batch : (defaultSolve [.new 0 7 0 3]).SingleBatch (.new 0 7 0 3) :=
    { pending_eq := rfl
      flavours_eq := rfl
      locked := rfl
      started := le_rfl
      past_nonneg := by decide
      future_nonneg := by decide }
  have accounts :
      (defaultSolve [.new 0 7 0 3]).SameAccounts .least .entryOrder :=
    { errors := by decide +kernel
      sum := by decide +kernel
      count := ⟨0, by decide +kernel⟩
      unswapped := by decide +kernel
      keepable := by decide }
  obtain ⟨single, singleRecovery, returned, onSameAccounts, exact_⟩ :=
    BatchSolveContext.singleton_cost_eq_iff batch solved ok
  have same := onSameAccounts accounts
  exact ⟨result, recovery, solved, single, singleRecovery, returned, same,
    exact_.mp same⟩

/-- A profile with a fast and an accurate flavour. -/
def twoFlavours : QosProfile :=
  flavouredProfile [⟨"Draft", 6, 10⟩, ⟨"Fine", 1, 20⟩]

/-- One request in slot three; the only committed assignment has just left the
window, and its mock stands in for it. -/
def mockedBatch : BatchSolveContext :=
  { defaultSolve [.newForQosProfile 0 7 3 6 twoFlavours] with
    currentSlot := 3
    assignment := Config.default.assignmentPolicyForProfile twoFlavours
    snapshot := (SharedState.new.addAssignments
      [{ Assignment.new 3 0 "Fine" (1 / 180) 3 20 (some 0) (some 3) with
          qosProfileId := twoFlavours.profileId }]).snapshotForSolver }

/-- The search lets the request take the place of the mock and refuses the
fast flavour; the singleton strategy adds the request and takes it. -/
theorem singleton_undercuts_search :
    twoFlavours.validate = .ok () ∧
      mockedBatch.SingleBatch (.newForQosProfile 0 7 3 6 twoFlavours) ∧
      (∀ flavour ∈ mockedBatch.assignment.flavours,
        Centesimal flavour.error) ∧
      (solveDp .least .steady mockedBatch).map
          (fun solved => (solved.1.context.status,
            solved.1.assignments.map fun assignment =>
              (assignment.flavourName, assignment.carbonCost))) =
        some ("ok", [("Fine", 1 / 180)]) ∧
      (solveGreedySingleton .least .steady mockedBatch).map
          (fun solved => solved.1.assignments.map fun assignment =>
            (assignment.flavourName, assignment.carbonCost)) =
        some [("Draft", 1 / 360)] := by
  refine ⟨by decide +kernel, ?_, by decide +kernel, by decide +kernel,
    by decide +kernel⟩
  exact
    { pending_eq := rfl
      flavours_eq := rfl
      locked := rfl
      started := by decide
      past_nonneg := by decide
      future_nonneg := by decide }

end Example

end Carbonshift
