import Carbonshift.Engine.Recovery
import Mathlib.Data.Finset.Basic
import Mathlib.Data.Finset.Card

/-!
# Batch preparation and solving

The shared preamble of both batch strategies, the DP pipeline with its greedy
fallback and coverage check, and the singleton strategy.

Without a flavour to choose, the singleton strategy and the greedy fallback of
the source panic: their solve is `none`.
-/

namespace Carbonshift

/-- Outcome and diagnostics of one solve. -/
structure SolveContext where
  status : String
  mode : String
  newAssignments : ℕ
  totalAssignments : ℕ
  globalErrorBefore : ℚ
  globalErrorCountBefore : ℕ
  profileErrorBefore : ℚ
  profileErrorCountBefore : ℕ
  profileErrorConstraintActive : Bool
  modeledWindowAvgAfter : ℚ
  windowStartSlot : ℤ
  windowEndSlot : ℤ
  mockRecoveryConsumed : ℤ
  recoveryMode : String
  deriving Repr

/-- The context of a batch that could not be covered. -/
def SolveContext.infeasible : SolveContext where
  status := "infeasible"
  mode := "greedy_singleton"
  newAssignments := 0
  totalAssignments := 0
  globalErrorBefore := 0
  globalErrorCountBefore := 0
  profileErrorBefore := 0
  profileErrorCountBefore := 0
  profileErrorConstraintActive := false
  modeledWindowAvgAfter := 0
  windowStartSlot := 0
  windowEndSlot := 0
  mockRecoveryConsumed := 0
  recoveryMode := ""

/-- Input of a batch strategy. -/
structure BatchSolveContext where
  currentSlot : ℤ
  pending : List Request
  snapshot : SolverSnapshot
  assignment : AssignmentPolicy
  solverConfig : SolverConfig
  simulationConfig : SimulationConfig
  recoveryConfig : InfeasibilityConfig
  recoveryState : RecoveryState
  carbonForecast : List ℚ
  flavourDurationByName : Dictionary String ℚ

structure BatchSolveResult where
  assignments : List Assignment
  context : SolveContext
  baselineSlotCounts : Dictionary ℤ ℤ

/-- A batch that the worker puts back. -/
def BatchSolveResult.infeasible : BatchSolveResult where
  assignments := []
  context := .infeasible
  baselineSlotCounts := ∅

/-- What a batch solve observes beyond its input. -/
structure SolveOracle where
  search : SearchOracle
  futureOrder : IterationOrder Assignment

/-- Entry order everywhere, and no time spent. -/
def SolveOracle.steady : SolveOracle where
  search := .steady 0
  futureOrder := .entryOrder

/-! ## Shared preamble -/

/-- Everything the solve step needs, derived from one snapshot. -/
structure PreparedSolve where
  profileId : QosProfileId
  pendingIds : Finset ℕ
  windowStart : ℤ
  windowEnd : ℤ
  assignmentCap : ℤ
  /-- The pending requests, then the movable future ones. -/
  solveRequests : List SolveRequest
  /-- Arrival slot and deadline of each request. -/
  assignmentMetadata : Dictionary ℕ (ℤ × ℤ)
  baselineSlotCounts : Dictionary ℤ ℤ
  errorBaseline : ErrorBaseline
  mockPoolInput : MockPool
  globalErrorStats : GlobalErrorStats
  profileErrorStats : GlobalErrorStats
  profileConstraintActive : Bool
  solverFlavours : List Flavour
  requestFlavours : Dictionary ℕ (List Flavour)
  effectiveErrorThreshold : ℚ
  effectiveCapacityTiers : List CapacityTier

/-- The profile of a batch is that of its first request. -/
def batchProfileId (pending : List Request) : QosProfileId :=
  (pending.head?.map Request.qosProfileId).getD .defaultProfile

/-- Keep the flavours within the threshold, or all when none is. -/
def withinThresholdOrAll (threshold : ℚ) (flavours : List Flavour) :
    List Flavour :=
  let filtered := flavours.filter fun flavour =>
    decide (flavour.error ≤ threshold)
  if filtered.isEmpty then flavours else filtered

namespace BatchSolveContext

variable (input : BatchSolveContext)

/-- The deadline clamp of the preamble. -/
def capDeadline (deadline : ℤ) : ℤ :=
  let windowEnd := min
    (input.currentSlot + input.assignment.errorWindowFuture)
    (input.assignment.totalSlots - 1)
  min (min (max deadline input.currentSlot) windowEnd)
    (input.assignment.totalSlots - 1)

/-- The slot bounds of a pending request. -/
def solveRequestOf (request : Request) : SolveRequest where
  requestId := request.id
  earliestSlot := max request.arrivalSlot input.currentSlot
  deadlineSlot := input.capDeadline request.deadlineSlot

/-- The slot bounds of a movable future assignment. -/
def movableRequestOf (assignment : Assignment) : SolveRequest where
  requestId := assignment.requestId
  earliestSlot :=
    max (assignment.arrivalSlot.getD input.currentSlot) input.currentSlot
  deadlineSlot :=
    input.capDeadline
      (assignment.deadlineSlot.getD
        (max assignment.scheduledSlot input.currentSlot))

/-- Future assignments of the batch's own profile. -/
def sameProfileFuture (order : IterationOrder Assignment) : List Assignment :=
  (input.snapshot.getFutureAssignments order input.currentSlot).filter
    fun assignment =>
      decide (assignment.qosProfileId = batchProfileId input.pending)

/-- Future assignments of the other profiles. -/
def otherProfileFuture (order : IterationOrder Assignment) : List Assignment :=
  (input.snapshot.getFutureAssignments order input.currentSlot).filter
    fun assignment =>
      !decide (assignment.qosProfileId = batchProfileId input.pending)

/-- The future assignments that join the solve. -/
def movableFuture (order : IterationOrder Assignment) : List Assignment :=
  if input.solverConfig.dpLockFutureAssignments then
    []
  else
    input.sameProfileFuture order

/-- The future assignments that are baseline load. -/
def fixedFuture (order : IterationOrder Assignment) : List Assignment :=
  if input.solverConfig.dpLockFutureAssignments then
    input.otherProfileFuture order ++ input.sameProfileFuture order
  else
    input.otherProfileFuture order

/-- The cumulative rule of the profile restricts this solve. -/
def profileConstraintActive : Bool :=
  let stats := input.snapshot.getProfileErrorStats
    (batchProfileId input.pending)
  input.assignment.globalErrorConstraintEnabled && decide (0 < stats.count) &&
    decide (input.assignment.maxErrorThreshold < stats.avg)

/-- The flavour list after the cumulative rule. -/
def restrictFlavours (flavours : List Flavour) : List Flavour :=
  if input.profileConstraintActive &&
      input.assignment.globalErrorConstraintHard then
    withinThresholdOrAll input.assignment.maxErrorThreshold flavours
  else
    flavours

/-- The flavours of the profile-backed requests of the batch. -/
def requestFlavours : Dictionary ℕ (List Flavour) :=
  input.pending.foldl
    (fun table request =>
      match request.qosProfile with
      | none => table
      | some profile =>
          table.insert request.id (input.restrictFlavours profile.flavours))
    ∅

/-- Real, decayed and virtual history of the batch's profile. -/
def historyBaseline {σ : Type} (runtime : NumericRuntime σ)
    (exclude : List ℕ) : ErrorBaseline :=
  let profileId := batchProfileId input.pending
  let window := input.snapshot.getProfileWindowErrorStats profileId
    input.currentSlot input.assignment.errorWindowPast
    input.assignment.errorWindowFuture exclude
  augmentWithVirtualPrehistory input.currentSlot
    (augmentWithDecayedPast input.currentSlot
      (.new window.errorSum window.count) input.assignment profileId
      input.snapshot exclude)
    input.assignment runtime input.simulationConfig input.recoveryConfig

end BatchSolveContext

/-- Derive all inputs of a batch solve from the snapshot. -/
def prepareSolve {σ : Type} (runtime : NumericRuntime σ)
    (order : IterationOrder Assignment) (input : BatchSolveContext) :
    PreparedSolve × RecoveryState :=
  let profileId := batchProfileId input.pending
  let movable := input.movableFuture order
  let recovered := applyInfeasibilityRecovery runtime input.recoveryState
    input.currentSlot
    (input.historyBaseline runtime (assignmentIds movable))
    profileId input.assignment input.simulationConfig input.recoveryConfig
    input.snapshot
  let windowEnd := min
    (input.currentSlot + input.assignment.errorWindowFuture)
    (input.assignment.totalSlots - 1)
  ({ profileId := profileId
     pendingIds := (requestIds input.pending).toFinset
     windowStart := max (input.currentSlot - input.assignment.errorWindowPast) 0
     windowEnd := windowEnd
     assignmentCap := windowEnd
     solveRequests :=
       input.pending.map input.solveRequestOf ++
         movable.map input.movableRequestOf
     assignmentMetadata :=
       movable.foldl
         (fun table assignment =>
           table.insert assignment.requestId
             (assignment.arrivalSlot.getD 0,
               (input.movableRequestOf assignment).deadlineSlot))
         (input.pending.foldl
           (fun table request =>
             table.insert request.id
               (request.arrivalSlot, request.deadlineSlot))
           ∅)
     baselineSlotCounts :=
       SharedState.countSlots (input.fixedFuture order)
     errorBaseline := recovered.1.1
     mockPoolInput := recovered.1.2
     globalErrorStats := input.snapshot.getGlobalErrorStats
     profileErrorStats := input.snapshot.getProfileErrorStats profileId
     profileConstraintActive := input.profileConstraintActive
     solverFlavours := input.restrictFlavours input.assignment.flavours
     requestFlavours := input.requestFlavours
     effectiveErrorThreshold := input.assignment.maxErrorThreshold
     effectiveCapacityTiers := input.assignment.capacityTiers },
    recovered.2)

/-! ## Steps both strategies share -/

namespace PreparedSolve

variable (prep : PreparedSolve)

/-- Attach the request metadata and the flavour duration to a decision. -/
def toAssignment (flavourDurationByName : Dictionary String ℚ)
    (placed : RequestAssignment) : Assignment :=
  let metadata := prep.assignmentMetadata.getD placed.requestId (0, 0)
  let ownFlavour :=
    (prep.requestFlavours.lookup placed.requestId).bind fun flavours =>
      flavours.find? fun flavour => flavour.name == placed.flavourName
  { requestId := placed.requestId
    scheduledSlot := placed.slot
    flavourName := placed.flavourName
    carbonCost := placed.carbonCost
    error := placed.error
    flavourDuration :=
      (ownFlavour.map Flavour.duration).getD
        (flavourDurationByName.getD placed.flavourName 0)
    arrivalSlot := some metadata.1
    deadlineSlot := some metadata.2
    qosProfileId := prep.profileId }

/-- Modelled window error after one assignment: sum, count, unused mocks. -/
def modelStep (modeled : ℚ × ℚ × ℤ) (assignment : Assignment) :
    ℚ × ℚ × ℤ :=
  if prep.windowStart ≤ assignment.scheduledSlot ∧
      assignment.scheduledSlot ≤ prep.windowEnd then
    if 0 < modeled.2.2 ∧ 0 < prep.mockPoolInput.errorPerRequest then
      (modeled.1 + assignment.error - prep.mockPoolInput.errorPerRequest,
        max (modeled.2.1 + 1 - 1) 0,
        modeled.2.2 - 1)
    else
      (modeled.1 + assignment.error, modeled.2.1 + 1, modeled.2.2)
  else
    modeled

/-- Diagnostics of a covered batch, and the consumed mocks. -/
def finish (status mode : String) (assignments : List Assignment)
    (input : BatchSolveContext) (recoveryState : RecoveryState) :
    BatchSolveResult × RecoveryState :=
  let modeled := assignments.foldl prep.modelStep
    (prep.errorBaseline.errorSum, prep.errorBaseline.requestCount,
      prep.mockPoolInput.initialCount)
  let consumed := max (prep.mockPoolInput.initialCount - modeled.2.2) 0
  ({ assignments := assignments
     context :=
       { status := status
         mode := mode
         newAssignments := prep.pendingIds.card
         totalAssignments := assignments.length
         globalErrorBefore := prep.globalErrorStats.avg
         globalErrorCountBefore := prep.globalErrorStats.count
         profileErrorBefore := prep.profileErrorStats.avg
         profileErrorCountBefore := prep.profileErrorStats.count
         profileErrorConstraintActive := prep.profileConstraintActive
         modeledWindowAvgAfter :=
           if 0 < modeled.2.1 then modeled.1 / modeled.2.1 else 0
         windowStartSlot := prep.windowStart
         windowEndSlot := prep.windowEnd
         mockRecoveryConsumed := consumed
         recoveryMode := input.recoveryConfig.recoveryMode }
     baselineSlotCounts := prep.baselineSlotCounts },
    consumeMockPool recoveryState input.currentSlot mode consumed
      prep.profileId input.recoveryConfig.recoveryMode)

end PreparedSolve

/-! ## DP pipeline -/

/-- Small batches are searched without pruning. -/
def getEffectivePruningMode (batchSize : ℕ) (solver : SolverConfig) :
    String :=
  if solver.dpPruningMinBatchSize = 0 ∨
      batchSize < solver.dpPruningMinBatchSize then
    "none"
  else
    normalisedName solver.dpPruningMethod

/-- A solver for the flavours; a forecast of the wrong length is refused. -/
def buildSolver (flavours : List Flavour) (carbonForecast : List ℚ)
    (assignment : AssignmentPolicy) (solverConfig : SolverConfig)
    (pruning : String) : Option DpSolver :=
  if covers : carbonForecast.length = assignment.totalSlots.toNat then
    some
      { flavours := flavours
        windowSize := assignment.totalSlots
        carbonForecast := ⟨carbonForecast, covers⟩
        pruning := pruning
        pruningK := solverConfig.dpPruningK
        timeout := solverConfig.dpTimeout
        carbonCostScale := assignment.carbonCostDurationScale }
  else
    none

namespace PreparedSolve

variable (prep : PreparedSolve) (input : BatchSolveContext)

/-- The DP input of a prepared batch. -/
def dpInput : SolveBatchInput where
  requests := prep.solveRequests
  currentSlot := input.currentSlot
  capacityMultiplier := 1
  capacityTiers := prep.effectiveCapacityTiers
  baselineSlotCounts := prep.baselineSlotCounts
  errorWindowBaseline :=
    { errorSum := prep.errorBaseline.errorSum
      requestCount := prep.errorBaseline.requestCount }
  maxErrorThreshold := some prep.effectiveErrorThreshold
  errorWindowPast := input.assignment.errorWindowPast
  errorWindowFuture := input.assignment.errorWindowFuture
  assignmentMaxSlot := some prep.assignmentCap
  dynamicMockPool := prep.mockPoolInput
  requestFlavours := prep.requestFlavours

/-- The batch's own requests among the placed ones. -/
def scheduledPendingIds (placed : List RequestAssignment) : Finset ℕ :=
  ((placed.map RequestAssignment.requestId).filter
    (· ∈ prep.pendingIds)).toFinset

/-- The requests of the batch that the DP left unplaced. -/
def unscheduled (placed : List RequestAssignment) : List SolveRequest :=
  (input.pending.filter fun request =>
    decide (request.id ∉ prep.scheduledPendingIds placed)).map
      input.solveRequestOf

/-- Occupancy the fallback starts from. -/
def fallbackBaseCounts (placed : List RequestAssignment) : List ℤ :=
  (placed.filter fun assignment =>
    decide (assignment.requestId ∈ prep.pendingIds)).foldl
      (fun counts assignment => counts.modify assignment.slot.toNat (· + 1))
      ((List.range input.assignment.totalSlots.toNat).map
        fun (slot : ℕ) => prep.baselineSlotCounts.getD (slot : ℤ) 0)

/-- Greedy placements of the requests the DP left unplaced. -/
def greedyPlacements (greedySolver : DpSolver)
    (placed : List RequestAssignment) : Option (List RequestAssignment) :=
  greedySolver.greedyFallback (prep.unscheduled input placed)
    input.currentSlot input.assignment.capacityTiers
    (prep.fallbackBaseCounts input placed) prep.requestFlavours

/-- Fallback, coverage check and conversion of the DP's placements. -/
def complete (greedySolver : DpSolver) (pruning : String)
    (placed : List RequestAssignment) (recoveryState : RecoveryState) :
    Option (BatchSolveResult × RecoveryState) :=
  let missed :=
    (prep.scheduledPendingIds placed).card ≠ prep.pendingIds.card
  let completed :=
    if missed then
      (prep.greedyPlacements input greedySolver placed).map (placed ++ ·)
    else
      some placed
  completed.map fun decisions =>
    let covered := decisions.countP fun assignment =>
      assignment.requestId ∈ prep.pendingIds
    if covered ≠ prep.pendingIds.card then
      (.infeasible, recoveryState)
    else
      prep.finish
        (if missed then "ok_greedy_after_infeasible" else "ok")
        (if missed then "greedy_after_infeasible" else "dp_" ++ pruning)
        (decisions.map (prep.toAssignment input.flavourDurationByName))
        input recoveryState

end PreparedSolve

/-- The rolling-window DP pipeline for one batch. -/
def solveDp {σ : Type} (runtime : NumericRuntime σ) (oracle : SolveOracle)
    (input : BatchSolveContext) : Option (BatchSolveResult × RecoveryState) :=
  let prepared := prepareSolve runtime oracle.futureOrder input
  let prep := prepared.1
  let pruning :=
    getEffectivePruningMode input.pending.length input.solverConfig
  (buildSolver prep.solverFlavours input.carbonForecast input.assignment
    input.solverConfig pruning).bind fun solver =>
  (buildSolver input.assignment.flavours input.carbonForecast input.assignment
    input.solverConfig "none").bind fun greedySolver =>
  prep.complete input greedySolver pruning
    (solver.solveBatch (prep.dpInput input) oracle.search) prepared.2

/-! ## Greedy singleton -/

section GreedySingleton

variable (prep : PreparedSolve) (input : BatchSolveContext)
variable (fallback : Flavour)

/-- Occupancy and placements of the singleton scan so far. -/
structure SingletonScan where
  slotCount : Dictionary ℤ ℤ
  solved : List RequestAssignment

/-- Price of a flavour in a slot on top of the scan's occupancy. -/
def singletonCost (scan : SingletonScan) (slot : ℤ) (flavour : Flavour) : ℚ :=
  let intensity := (slotEntry input.carbonForecast slot).getD 1
  let position := scan.slotCount.getD slot 0 + 1
  let mult := getCapacityMultiplier input.assignment.capacityTiers position
  intensity * mult * flavour.duration *
    input.assignment.carbonCostDurationScale

/-- Cumulative and window rules for a flavour; the window is anchored at the
request's arrival. -/
def singletonFeasible (scan : SingletonScan) (arrival : ℤ)
    (flavour : Flavour) : Bool :=
  let policy := input.assignment
  let profileAvg :=
    if 0 < prep.profileErrorStats.count then prep.profileErrorStats.avg else 0
  let constrained := prep.profileConstraintActive &&
    policy.globalErrorConstraintHard &&
    decide (policy.maxErrorThreshold < profileAvg)
  let winStart := max (arrival - policy.errorWindowPast) 0
  let winEnd := min (arrival + policy.errorWindowFuture) (policy.totalSlots - 1)
  let inside := scan.solved.filter fun placed =>
    decide (winStart ≤ placed.slot ∧ placed.slot ≤ winEnd)
  let winSum := prep.errorBaseline.errorSum + flavour.error +
    (inside.map RequestAssignment.error).sum
  let winCnt := prep.errorBaseline.requestCount + 1 + inside.length
  !(constrained && decide (policy.maxErrorThreshold < flavour.error)) &&
    !(decide (0 < winCnt) && decide (policy.maxErrorThreshold < winSum / winCnt))

/-- The candidates of one request, slot by slot, shortest flavour first. -/
def singletonCandidates (first last : ℤ) : List (ℤ × Flavour) :=
  (slotRange first last).flatMap fun slot =>
    (prep.solverFlavours.insertionSort fun left right =>
      left.duration ≤ right.duration).map fun flavour => (slot, flavour)

/-- The cheapest feasible candidate of one request, or the most accurate
flavour in the first slot. -/
def singletonChoice (scan : SingletonScan) (request : SolveRequest) :
    ℤ × Flavour :=
  let metadata := prep.assignmentMetadata.getD request.requestId
    (input.currentSlot, request.deadlineSlot)
  let startSlot := max request.earliestSlot input.currentSlot
  let feasible := (singletonCandidates prep startSlot
    request.deadlineSlot).filter fun candidate =>
      singletonFeasible prep input scan metadata.1 candidate.2
  (feasible.argmin fun candidate =>
    singletonCost input scan candidate.1 candidate.2).getD
      (startSlot, fallback)

/-- Place one request, or `none` when its range is empty. -/
def singletonStep (scan : SingletonScan) (request : SolveRequest) :
    Option SingletonScan :=
  if request.deadlineSlot < max request.earliestSlot input.currentSlot then
    none
  else
    let chosen := singletonChoice prep input fallback scan request
    some
      { slotCount := scan.slotCount.upsert chosen.1 0 (· + 1)
        solved := scan.solved ++
          [{ requestId := request.requestId
             flavourName := chosen.2.name
             slot := chosen.1
             carbonCost := singletonCost input scan chosen.1 chosen.2
             error := chosen.2.error }] }

/-- Place the requests one after another. -/
def singletonScan : SingletonScan → List SolveRequest → Option SingletonScan
  | scan, [] => some scan
  | scan, request :: rest =>
      (singletonStep prep input fallback scan request).bind fun next =>
        singletonScan next rest

end GreedySingleton

/-- The exhaustive per-request strategy. -/
def solveGreedySingleton {σ : Type} (runtime : NumericRuntime σ)
    (oracle : SolveOracle) (input : BatchSolveContext) :
    Option (BatchSolveResult × RecoveryState) :=
  let prepared := prepareSolve runtime oracle.futureOrder input
  let prep := prepared.1
  (prep.solverFlavours.argmin Flavour.error).map fun fallback =>
    match singletonScan prep input fallback
        { slotCount := prep.baselineSlotCounts, solved := [] }
        prep.solveRequests with
    | none => (.infeasible, prepared.2)
    | some scan =>
        prep.finish "ok" "greedy_singleton"
          (scan.solved.map (prep.toAssignment input.flavourDurationByName))
          input prepared.2

/-! ## Strategy registry -/

inductive BatchSolver where
  | dp
  | greedySingleton
  deriving DecidableEq, Repr

/-- The configured batch strategy; an unknown name means DP. -/
def selectBatchSolver (name : String) : BatchSolver :=
  if normalisedName name = "greedy_singleton" then .greedySingleton else .dp

/-- Run a batch strategy; `none` is a panic of the source. -/
def BatchSolver.solve {σ : Type} (solver : BatchSolver)
    (runtime : NumericRuntime σ) (oracle : SolveOracle)
    (input : BatchSolveContext) : Option (BatchSolveResult × RecoveryState) :=
  match solver with
  | .dp => solveDp runtime oracle input
  | .greedySingleton => solveGreedySingleton runtime oracle input

end Carbonshift
