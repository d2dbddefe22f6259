import Carbonshift.Engine.Coverage
import Carbonshift.Engine.SerializedSwarm
import Carbonshift.Engine.SwarmTallies
import Carbonshift.Library.Selection
import Carbonshift.Nshift.BanditRefinement
import Carbonshift.Nshift.GreedyCheapest

/-!
# The singleton strategy, one request at a time

The online strategy derives its load and its error history from the committed
state before each request.  The offline pass carries its tables along.  Both
place every request alike.
-/

namespace Carbonshift

namespace Nshift

variable {σ : Type}

/-! ## Online -/

/-- The committed state, the recovery data, and what was committed. -/
structure SingletonRun where
  shared : SharedState
  recovery : RecoveryState
  assignments : List Assignment

namespace SingletonRun

def start : SingletonRun where
  shared := .new
  recovery := ∅
  assignments := []

section Definitions

variable (cfg : Config) (runtime : NumericRuntime σ)
variable (oracle : Request → SolveOracle) (carbonForecast : List ℚ)

/-- The batch of one request, in the slot of its arrival. -/
def batchInput (run : SingletonRun) (request : Request) :
    BatchSolveContext where
  currentSlot := request.arrivalSlot
  pending := [request]
  snapshot := run.shared.snapshotForSolver
  assignment := cfg.assignmentPolicy
  solverConfig := cfg.solver
  simulationConfig := cfg.simulation
  recoveryConfig := cfg.infeasibility
  recoveryState := run.recovery
  carbonForecast := carbonForecast
  flavourDurationByName := cfg.flavourDurationByName

/-- Solve a request against the committed state, and commit it. -/
def solveAndCommit (run : SingletonRun) (request : Request) :
    Option SingletonRun :=
  (solveGreedySingleton runtime (oracle request)
      (run.batchInput cfg carbonForecast request)).map fun solved =>
    let proposed := solved.1.assignments
    match run.shared.tryAddAssignmentsChecked proposed
        (Engine.expectedPerSlot solved.1.baselineSlotCounts proposed)
        cfg.capacityTiers (cfg.forceCommit 0) 0 with
    | (.committed, shared) =>
        { shared := shared
          recovery := solved.2
          assignments := run.assignments ++ proposed }
    | (.rolledBack, shared) =>
        { shared := shared
          recovery := solved.2
          assignments := run.assignments }

/-- One request after another, in the order of their arrival. -/
def solveAll (now : ScenarioRequest → ℚ) (requests : List ScenarioRequest) :
    Option SingletonRun :=
  ((requests.insertionSort arrivalOrder).map fun request =>
    request.toRequest (now request)).foldlM
      (solveAndCommit cfg runtime oracle carbonForecast) start

end Definitions

end SingletonRun

/-- What the comparison of the strategies assumes of the settings. -/
structure Mirrors (cfg : Config) : Prop where
  locked : cfg.solver.dpLockFutureAssignments = true
  recoveryMode :
    normalisedName cfg.infeasibility.recoveryMode = "min_error_greedy"
  undecayed : cfg.errorWindowPastDecaySlots ≤ 0
  actualPast : cfg.infeasibility.prehistoryUseVirtualPast = false
  future_eq : cfg.errorWindowFuture = cfg.assignmentMaxFutureSlots

/-! ## Errors in a window -/

theorem slotRange_nodup (first last : ℤ) : (slotRange first last).Nodup :=
  List.nodup_range.map fun left right same => by
    simpa using same

/-- The errors that were placed between two slots. -/
def errorsBetween (first last : ℤ) (assignments : List Assignment) : List ℚ :=
  (assignments.filter fun assignment =>
    decide (assignment.scheduledSlot ∈ slotRange first last)).map
      Assignment.error

/-- The slots of a tally, one after another, hold the errors between them. -/
theorem flatten_slotErrors_perm {tally : SwarmTally}
    {assignments : List Assignment} (counts : tally.Counts assignments)
    (first last : ℤ) :
    ((slotRange first last).map fun slot =>
        tally.slotErrors.getD slot []).flatten.Perm
      (errorsBetween first last assignments) := by
  have grouped : ((slotRange first last).flatMap fun slot =>
      errorsIn slot assignments).Perm
        (errorsBetween first last assignments) := by
    have groups := List.flatMap_filter_perm Assignment.scheduledSlot
      assignments (slotRange_nodup first last)
    unfold errorsIn errorsBetween
    rw [← List.map_flatMap]
    exact groups.map _
  refine List.Perm.trans ?_ grouped
  rw [← List.flatMap_def]
  exact List.Perm.flatMap_left _ fun slot _ => counts.slotErrors_perm slot

/-- The window rule in terms of the placements. -/
theorem windowFeasible_eq {tally : SwarmTally} {assignments : List Assignment}
    (counts : tally.Counts assignments) (policy : AssignmentPolicy)
    (arrival : ℤ) (flavour : Flavour) :
    windowFeasible policy tally arrival flavour =
      let errors := errorsBetween (arrival - policy.errorWindowPast)
        (arrival + policy.errorWindowFuture) assignments
      !decide (policy.maxErrorThreshold <
        (flavour.error + errors.sum) / (1 + errors.length)) := by
  have same := flatten_slotErrors_perm counts
    (arrival - policy.errorWindowPast) (arrival + policy.errorWindowFuture)
  unfold windowFeasible
  dsimp only
  rw [← List.sum_flatten, ← List.length_flatten, same.sum_eq, same.length_eq]
  push_cast
  rfl

/-- The errors in the window of a request. -/
def windowErrors (cfg : Config) (request : ScenarioRequest)
    (assignments : List Assignment) : List ℚ :=
  errorsBetween (request.arrivalSlot - cfg.errorWindowPast)
    (request.arrivalSlot + cfg.errorWindowFuture) assignments

/-! ## One state, one tally -/

/-- The committed state and the tally hold the same placements. -/
structure SameHistory (cfg : Config) (shared : SharedState)
    (tally : SwarmTally) (assignments : List Assignment) : Prop where
  committed : CommittedFor .defaultProfile shared assignments
  averaged :
    (shared.profileErrorStats.getD .defaultProfile .default).refreshAverage =
      shared.profileErrorStats.getD .defaultProfile .default
  counts : tally.Counts assignments
  offered : ∀ assignment ∈ assignments,
    ∃ flavour ∈ cfg.flavours, assignment.error = flavour.error

namespace SameHistory

variable {cfg : Config} {run : SingletonRun} {tally : SwarmTally}
variable {carbonForecast : List ℚ} {request : ScenarioRequest} {now : ℚ}

/-- The cumulative rule is active in both strategies. -/
theorem profileConstraintActive_eq
    (same : SameHistory cfg run.shared tally run.assignments) :
    (run.batchInput cfg carbonForecast
        (request.toRequest now)).profileConstraintActive =
      globalConstraintActive cfg.assignmentPolicy tally := by
  have stats : (run.batchInput cfg carbonForecast
      (request.toRequest now)).profileConstraintActive =
        (cfg.globalErrorConstraintEnabled &&
          decide (0 < (run.shared.profileErrorStats.getD .defaultProfile
            .default).count) &&
          decide (cfg.maxErrorThreshold <
            (run.shared.profileErrorStats.getD .defaultProfile
              .default).avg)) := rfl
  have average : (run.shared.profileErrorStats.getD .defaultProfile
      .default).avg =
        if 0 < run.assignments.length then
          (run.assignments.map Assignment.error).sum / run.assignments.length
        else 0 := by
    rw [← same.averaged, GlobalErrorStats.refreshAverage,
      same.committed.count_eq, same.committed.errorSum_eq]
  rw [stats, same.committed.count_eq, average, globalConstraintActive,
    same.counts.globalCount_eq, same.counts.globalErrorSum_eq]
  rfl

theorem restrictFlavours_eq
    (same : SameHistory cfg run.shared tally run.assignments)
    (flavours : List Flavour) :
    (run.batchInput cfg carbonForecast
        (request.toRequest now)).restrictFlavours flavours =
      if globalConstraintActive cfg.assignmentPolicy tally &&
          cfg.globalErrorConstraintHard then
        withinThresholdOrAll cfg.maxErrorThreshold flavours
      else
        flavours := by
  rw [BatchSolveContext.restrictFlavours, same.profileConstraintActive_eq]
  rfl

end SameHistory

theorem isEmpty_filter_sortedFlavours (keep : Flavour → Bool)
    (flavours : List Flavour) :
    ((sortedFlavours flavours).filter keep).isEmpty =
      (flavours.filter keep).isEmpty := by
  rw [sortedFlavours, List.filter_insertionSort, Bool.eq_iff_iff,
    List.isEmpty_iff_length_eq_zero, List.length_insertionSort,
    List.isEmpty_iff_length_eq_zero]

/-- The cumulative rule may come before or after sorting. -/
theorem sortedFlavours_withinThresholdOrAll (threshold : ℚ)
    (flavours : List Flavour) :
    sortedFlavours (withinThresholdOrAll threshold flavours) =
      withinThresholdOrAll threshold (sortedFlavours flavours) := by
  unfold withinThresholdOrAll
  dsimp only
  rw [isEmpty_filter_sortedFlavours]
  split_ifs with nobody
  · rfl
  · rw [sortedFlavours, sortedFlavours, List.filter_insertionSort]

/-- The most accurate flavour is among those that the cumulative rule
leaves. -/
theorem argmin_withinThresholdOrAll (threshold : ℚ)
    (flavours : List Flavour) :
    (withinThresholdOrAll threshold flavours).argmin Flavour.error =
      flavours.argmin Flavour.error := by
  unfold withinThresholdOrAll
  dsimp only
  split_ifs with nobody
  · rfl
  · have filtered : (flavours.filter fun flavour =>
          decide (flavour.error ≤ threshold)).argmin Flavour.error =
        (flavours.argmin Flavour.error).filter fun flavour =>
          decide (flavour.error ≤ threshold) :=
      List.argmin_filter
        (fun below within => by
          rw [decide_eq_true_eq] at within ⊢
          exact below.trans within) flavours
    rw [filtered]
    obtain ⟨accurate, member⟩ :=
      List.exists_mem_of_ne_nil _ (mt List.isEmpty_iff.mpr nobody)
    obtain ⟨offered, within⟩ := List.mem_filter.mp member
    rw [decide_eq_true_eq] at within
    cases least : flavours.argmin Flavour.error with
    | none =>
        rw [List.argmin_eq_none.mp least] at offered
        cases offered
    | some flavour =>
        have below := List.le_of_mem_argmin offered least
        exact Option.filter_some_pos (decide_eq_true (below.trans within))

/-- A flavour above the threshold is left only when all are above it. -/
theorem above_of_mem_withinThresholdOrAll {threshold : ℚ}
    {flavours : List Flavour} {flavour : Flavour}
    (kept : flavour ∈ withinThresholdOrAll threshold flavours)
    (above : threshold < flavour.error) :
    ∀ other ∈ flavours, threshold < other.error := by
  unfold withinThresholdOrAll at kept
  dsimp only at kept
  split_ifs at kept with nobody
  · intro other member
    have dropped := List.filter_eq_nil_iff.mp (List.isEmpty_iff.mp nobody)
      other member
    rw [decide_eq_true_eq] at dropped
    exact not_le.mp dropped
  · have within := (List.mem_filter.mp kept).2
    rw [decide_eq_true_eq] at within
    exact absurd above (not_lt.mpr within)

/-! ## The error history -/

/-- Without decay, virtual history and mocks, a solve starts from the window
alone. -/
theorem errorBaseline_of_plain {runtime : NumericRuntime σ}
    {order : IterationOrder Assignment} {input : BatchSolveContext}
    (locked : input.solverConfig.dpLockFutureAssignments = true)
    (recoveryMode :
      normalisedName input.recoveryConfig.recoveryMode = "min_error_greedy")
    (undecayed : input.assignment.errorWindowPastDecaySlots ≤ 0)
    (actualPast : input.recoveryConfig.prehistoryUseVirtualPast = false) :
    (prepareSolve runtime order input).1.errorBaseline =
      let window := input.snapshot.getProfileWindowErrorStats
        (batchProfileId input.pending) input.currentSlot
        input.assignment.errorWindowPast input.assignment.errorWindowFuture []
      .new window.errorSum window.count := by
  have movable : input.movableFuture order = [] :=
    BatchSolveContext.movableFuture_of_locked locked order
  have noDecay : input.assignment.errorWindowPastDecaySlots.toNat = 0 :=
    Int.toNat_of_nonpos undecayed
  simp only [prepareSolve, applyInfeasibilityRecovery, if_pos recoveryMode,
    movable, BatchSolveContext.historyBaseline, augmentWithVirtualPrehistory,
    actualPast, Bool.not_false, Bool.true_or, if_true, augmentWithDecayedPast,
    noDecay]
  rfl

/-- What the singleton strategy asks of a flavour before it has placed
anything. -/
theorem singletonFeasible_of_opening {prep : PreparedSolve}
    {scan : SingletonScan} (opening : scan.solved = []) {errors : List ℚ}
    (baseline : prep.errorBaseline = .new errors.sum errors.length)
    (input : BatchSolveContext) (arrival : ℤ) (flavour : Flavour) :
    singletonFeasible prep input scan arrival flavour =
      (!((prep.profileConstraintActive &&
            input.assignment.globalErrorConstraintHard &&
            decide (input.assignment.maxErrorThreshold <
              if 0 < prep.profileErrorStats.count then
                prep.profileErrorStats.avg
              else 0)) &&
          decide (input.assignment.maxErrorThreshold < flavour.error)) &&
        !decide (input.assignment.maxErrorThreshold <
          (flavour.error + errors.sum) / (1 + errors.length))) := by
  have counted : (0 : ℚ) < errors.length + 1 := by positivity
  have sum_eq : prep.errorBaseline.errorSum = errors.sum := by
    rw [baseline]
    rfl
  have count_eq : prep.errorBaseline.requestCount = errors.length := by
    rw [baseline]
    rfl
  unfold singletonFeasible
  dsimp only
  rw [opening, List.filter_nil, List.map_nil, List.sum_nil, List.length_nil,
    Nat.cast_zero, add_zero, add_zero, sum_eq, count_eq, decide_eq_true counted,
    Bool.true_and, add_comm errors.sum, add_comm (errors.length : ℚ)]

namespace SameHistory

variable {cfg : Config} {run : SingletonRun} {tally : SwarmTally}
variable (carbonForecast : List ℚ) (request : ScenarioRequest) (now : ℚ)
variable (runtime : NumericRuntime σ) (order : IterationOrder Assignment)

/-- The committed state has the errors in its window. -/
theorem windowErrors_perm
    (same : SameHistory cfg run.shared tally run.assignments) :
    ((run.shared.assignments.values.filter
        (SolverSnapshot.inProfileWindow .defaultProfile request.arrivalSlot
          cfg.errorWindowPast cfg.errorWindowFuture [])).map
        Assignment.error).Perm
      (windowErrors cfg request run.assignments) := by
  refine ((same.committed.values_perm.filter _).map _).trans
    (List.Perm.of_eq ?_)
  rw [Engine.ownedBy, List.filter_map, List.map_map, windowErrors,
    errorsBetween]
  refine congrArg (List.map Assignment.error) (List.filter_congr ?_)
  intro assignment _
  rw [Function.comp_apply, SolverSnapshot.inProfileWindow, Bool.eq_iff_iff]
  simp

/-- Without decay, virtual history and mocks, the baseline is the window. -/
theorem errorBaseline_eq
    (same : SameHistory cfg run.shared tally run.assignments)
    (mirrors : Mirrors cfg) :
    (prepareSolve runtime order (run.batchInput cfg carbonForecast
        (request.toRequest now))).1.errorBaseline =
      .new (windowErrors cfg request run.assignments).sum
        (windowErrors cfg request run.assignments).length := by
  have window : ((run.shared.assignments.values.filter
        (SolverSnapshot.inProfileWindow .defaultProfile request.arrivalSlot
          cfg.errorWindowPast cfg.errorWindowFuture [])).map
        Assignment.error).Perm
      (windowErrors cfg request run.assignments) :=
    same.windowErrors_perm request
  have plain := @errorBaseline_of_plain σ runtime order
    (run.batchInput cfg carbonForecast (request.toRequest now))
    mirrors.locked mirrors.recoveryMode mirrors.undecayed mirrors.actualPast
  rw [plain, ← window.sum_eq, ← window.length_eq, List.length_map]
  rfl

/-- With every flavour above the threshold, every window is. -/
theorem windowFeasible_of_above
    (same : SameHistory cfg run.shared tally run.assignments)
    (above : ∀ flavour ∈ cfg.flavours, cfg.maxErrorThreshold < flavour.error)
    (arrival : ℤ) {flavour : Flavour} (offered : flavour ∈ cfg.flavours) :
    windowFeasible cfg.assignmentPolicy tally arrival flavour = false := by
  rw [windowFeasible_eq same.counts]
  generalize window : errorsBetween
    (arrival - cfg.assignmentPolicy.errorWindowPast)
    (arrival + cfg.assignmentPolicy.errorWindowFuture) run.assignments = errors
  have placed : ∀ error ∈ errors, cfg.maxErrorThreshold ≤ error := by
    intro error member
    rw [← window] at member
    obtain ⟨assignment, inside, rfl⟩ := List.mem_map.mp member
    obtain ⟨other, known, paid⟩ :=
      same.offered assignment (List.mem_filter.mp inside).1
    rw [paid]
    exact (above other known).le
  have total : errors.length * cfg.maxErrorThreshold ≤ errors.sum := by
    have least := List.card_nsmul_le_sum errors cfg.maxErrorThreshold placed
    rwa [nsmul_eq_mul] at least
  have positive : (0 : ℚ) < 1 + errors.length := by positivity
  have exceeds : cfg.maxErrorThreshold <
      (flavour.error + errors.sum) / (1 + errors.length) := by
    rw [lt_div_iff₀ positive]
    linarith [above flavour offered]
  exact congrArg not (decide_eq_true exceeds)

/-- Both strategies accept the same flavours.  Where the cumulative rule leaves
a flavour above the threshold, all flavours are above it, and the online
strategy refuses outright what fails the window anyway. -/
theorem singletonFeasible_eq
    (same : SameHistory cfg run.shared tally run.assignments)
    (mirrors : Mirrors cfg) {scan : SingletonScan} (opening : scan.solved = [])
    (arrival : ℤ) {flavour : Flavour}
    (kept : flavour ∈ (run.batchInput cfg carbonForecast
      (request.toRequest now)).restrictFlavours cfg.flavours) :
    singletonFeasible
        (prepareSolve runtime order (run.batchInput cfg carbonForecast
          (request.toRequest now))).1
        (run.batchInput cfg carbonForecast (request.toRequest now)) scan
        arrival flavour =
      windowFeasible cfg.assignmentPolicy tally request.arrivalSlot
        flavour := by
  have window : windowFeasible cfg.assignmentPolicy tally request.arrivalSlot
      flavour =
        !decide (cfg.maxErrorThreshold <
          (flavour.error + (windowErrors cfg request run.assignments).sum) /
            (1 + (windowErrors cfg request run.assignments).length)) :=
    windowFeasible_eq same.counts _ _ _
  have opens : ∃ exceeded, singletonFeasible
      (prepareSolve runtime order (run.batchInput cfg carbonForecast
        (request.toRequest now))).1
      (run.batchInput cfg carbonForecast (request.toRequest now)) scan
      arrival flavour =
        (!((run.batchInput cfg carbonForecast
                (request.toRequest now)).profileConstraintActive &&
              cfg.globalErrorConstraintHard && exceeded &&
            decide (cfg.maxErrorThreshold < flavour.error)) &&
          !decide (cfg.maxErrorThreshold <
            (flavour.error + (windowErrors cfg request run.assignments).sum) /
              (1 + (windowErrors cfg request run.assignments).length))) :=
    ⟨_, singletonFeasible_of_opening opening
      (same.errorBaseline_eq carbonForecast request now runtime order mirrors)
      (run.batchInput cfg carbonForecast (request.toRequest now)) arrival
      flavour⟩
  obtain ⟨exceeded, accepts⟩ := opens
  rw [accepts, ← window]
  by_cases refused : (run.batchInput cfg carbonForecast
        (request.toRequest now)).profileConstraintActive = true ∧
      cfg.globalErrorConstraintHard = true ∧
        cfg.maxErrorThreshold < flavour.error
  · obtain ⟨active, hard, above⟩ := refused
    rw [same.profileConstraintActive_eq] at active
    rw [same.restrictFlavours_eq, active, hard, Bool.and_true, if_pos rfl]
      at kept
    rw [same.windowFeasible_of_above
        (above_of_mem_withinThresholdOrAll kept above) request.arrivalSlot
        (mem_of_mem_withinThresholdOrAll kept), Bool.and_false]
  · have accepted : ((run.batchInput cfg carbonForecast
          (request.toRequest now)).profileConstraintActive &&
        cfg.globalErrorConstraintHard && exceeded &&
        decide (cfg.maxErrorThreshold < flavour.error)) = false := by
      rw [Bool.eq_false_iff]
      intro all
      simp only [Bool.and_eq_true, decide_eq_true_eq] at all
      exact refused ⟨all.1.1.1, all.1.1.2, all.2⟩
    rw [accepted, Bool.not_false, Bool.true_and]

/-! ## One placement -/

/-- In the slots that are still to come, a solve sees all of the load. -/
theorem baselineSlotCounts_eq (run : SingletonRun) (mirrors : Mirrors cfg)
    {slot : ℤ} (future : request.arrivalSlot ≤ slot) :
    (prepareSolve runtime order (run.batchInput cfg carbonForecast
        (request.toRequest now))).1.baselineSlotCounts.getD slot 0 =
      slotOccupancy run.shared.assignments.values slot := by
  have fixed : slotOccupancy ((run.batchInput cfg carbonForecast
      (request.toRequest now)).fixedFuture order) slot =
        slotOccupancy run.shared.assignments.values slot :=
    BatchSolveContext.slotOccupancy_fixedFuture mirrors.locked order future
  rw [prepareSolve_baselineSlotCounts, getD_countSlots, fixed]

theorem singletonCost_eq
    (same : SameHistory cfg run.shared tally run.assignments)
    (mirrors : Mirrors cfg) {scan : SingletonScan}
    (opening : scan.slotCount = (prepareSolve runtime order
      (run.batchInput cfg carbonForecast
        (request.toRequest now))).1.baselineSlotCounts)
    {slot : ℤ} (future : request.arrivalSlot ≤ slot) (flavour : Flavour) :
    singletonCost (run.batchInput cfg carbonForecast (request.toRequest now))
        scan slot flavour =
      Nshift.slotCost cfg.assignmentPolicy carbonForecast tally slot
        flavour := by
  have load : scan.slotCount.getD slot 0 = tally.slotCount.getD slot 0 := by
    have stored : slotOccupancy run.shared.assignments.values slot =
        slotOccupancy run.assignments slot := by
      rw [slotOccupancy_eq_of_perm same.committed.values_perm, slotOccupancy,
        Engine.ownedBy, List.countP_map]
      rfl
    rw [opening, baselineSlotCounts_eq carbonForecast request now runtime
        order run mirrors future, stored, same.counts.slotCount_eq]
  unfold singletonCost Nshift.slotCost Carbonshift.slotCost
  dsimp only
  rw [load]
  rfl

/-- Both strategies stop at the same slot. -/
theorem capDeadline_eq (mirrors : Mirrors cfg)
    (ordered : request.arrivalSlot ≤ request.deadlineSlot) :
    (run.batchInput cfg carbonForecast
        (request.toRequest now)).capDeadline request.deadlineSlot =
      greedyDeadline cfg.assignmentPolicy request := by
  have future := mirrors.future_eq
  simp only [BatchSolveContext.capDeadline, SingletonRun.batchInput,
    greedyDeadline, Config.assignmentPolicy, ScenarioRequest.toRequest,
    Request.new]
  omega

/-- Both strategies start at the arrival. -/
theorem startSlot_eq :
    max ((run.batchInput cfg carbonForecast
        (request.toRequest now)).solveRequestOf
          (request.toRequest now)).earliestSlot
      (run.batchInput cfg carbonForecast
        (request.toRequest now)).currentSlot = request.arrivalSlot := by
  have twice : max (max request.arrivalSlot request.arrivalSlot)
      request.arrivalSlot = request.arrivalSlot := by
    rw [max_self, max_self]
  exact twice

/-- Both strategies try the same flavours, in the same order. -/
theorem sortedFlavours_restrictFlavours
    (same : SameHistory cfg run.shared tally run.assignments) :
    sortedFlavours ((run.batchInput cfg carbonForecast
        (request.toRequest now)).restrictFlavours cfg.flavours) =
      allowedFlavours cfg.assignmentPolicy tally := by
  rw [same.restrictFlavours_eq, allowedFlavours, apply_ite sortedFlavours,
    sortedFlavours_withinThresholdOrAll]
  rfl

theorem singletonChoice_eq
    (same : SameHistory cfg run.shared tally run.assignments)
    (mirrors : Mirrors cfg)
    (ordered : request.arrivalSlot ≤ request.deadlineSlot)
    {scan : SingletonScan} (unplaced : scan.solved = [])
    (opening : scan.slotCount = (prepareSolve runtime order
      (run.batchInput cfg carbonForecast
        (request.toRequest now))).1.baselineSlotCounts)
    (fallback : Flavour) :
    singletonChoice
        (prepareSolve runtime order (run.batchInput cfg carbonForecast
          (request.toRequest now))).1
        (run.batchInput cfg carbonForecast (request.toRequest now)) fallback
        scan
        ((run.batchInput cfg carbonForecast
          (request.toRequest now)).solveRequestOf (request.toRequest now)) =
      cheapestPair cfg.assignmentPolicy carbonForecast fallback tally
        request := by
  have last : ((run.batchInput cfg carbonForecast
        (request.toRequest now)).solveRequestOf
          (request.toRequest now)).deadlineSlot =
        greedyDeadline cfg.assignmentPolicy request :=
    capDeadline_eq carbonForecast request now mirrors ordered
  have tried := same.sortedFlavours_restrictFlavours carbonForecast request now
  have candidates : singletonCandidates
        (prepareSolve runtime order (run.batchInput cfg carbonForecast
          (request.toRequest now))).1 request.arrivalSlot
        (greedyDeadline cfg.assignmentPolicy request) =
      (slotRange request.arrivalSlot
          (greedyDeadline cfg.assignmentPolicy request)).flatMap fun slot =>
        (allowedFlavours cfg.assignmentPolicy tally).map
          fun flavour => (slot, flavour) := by
    rw [← tried]
    rfl
  unfold singletonChoice cheapestPair feasiblePairs
  dsimp only
  rw [startSlot_eq, last, candidates]
  generalize listed : (slotRange request.arrivalSlot
      (greedyDeadline cfg.assignmentPolicy request)).flatMap
    (fun slot => (allowedFlavours cfg.assignmentPolicy tally).map
      fun flavour => (slot, flavour)) = pairs
  have member : ∀ pair ∈ pairs, request.arrivalSlot ≤ pair.1 ∧
      pair.2 ∈ (run.batchInput cfg carbonForecast
        (request.toRequest now)).restrictFlavours cfg.flavours := by
    intro pair inside
    rw [← listed] at inside
    obtain ⟨slot, within, paired⟩ := List.mem_flatMap.mp inside
    obtain ⟨flavour, offered, rfl⟩ := List.mem_map.mp paired
    rw [← tried, sortedFlavours, List.mem_insertionSort] at offered
    exact ⟨(mem_slotRange.mp within).1, offered⟩
  have filtered : ∀ arrival, (pairs.filter fun pair =>
        singletonFeasible
          (prepareSolve runtime order (run.batchInput cfg carbonForecast
            (request.toRequest now))).1
          (run.batchInput cfg carbonForecast (request.toRequest now)) scan
          arrival pair.2) =
      pairs.filter fun pair => windowFeasible cfg.assignmentPolicy tally
        request.arrivalSlot pair.2 := fun arrival =>
    List.filter_congr fun pair inside =>
      same.singletonFeasible_eq carbonForecast request now runtime order
        mirrors unplaced arrival (member pair inside).2
  rw [filtered]
  refine congrArg (fun pair => Option.getD pair (request.arrivalSlot, fallback))
    (List.argmin_congr fun left leftMember right rightMember => ?_)
  have leftFuture := (member left (List.mem_filter.mp leftMember).1).1
  have rightFuture := (member right (List.mem_filter.mp rightMember).1).1
  rw [same.singletonCost_eq carbonForecast request now runtime order mirrors
      opening leftFuture,
    same.singletonCost_eq carbonForecast request now runtime order mirrors
      opening rightFuture]

end SameHistory

/-- The offline pass chooses one of the flavours, in no slot before the
arrival. -/
theorem cheapestPair_mem {policy : AssignmentPolicy} {fallback : Flavour}
    (accurate : fallback ∈ policy.flavours) (carbonForecast : List ℚ)
    (tally : SwarmTally) (request : ScenarioRequest) :
    request.arrivalSlot ≤
        (cheapestPair policy carbonForecast fallback tally request).1 ∧
      (cheapestPair policy carbonForecast fallback tally request).2 ∈
        policy.flavours := by
  unfold cheapestPair
  cases least : (feasiblePairs policy tally request).argmin fun pair =>
      Nshift.slotCost policy carbonForecast tally pair.1 pair.2 with
  | none => exact ⟨le_rfl, accurate⟩
  | some pair =>
      have passing := List.argmin_mem (Option.mem_def.mpr least)
      obtain ⟨slot, within, paired⟩ :=
        List.mem_flatMap.mp (List.mem_filter.mp passing).1
      obtain ⟨flavour, allowed, rfl⟩ := List.mem_map.mp paired
      refine ⟨(mem_slotRange.mp within).1, ?_⟩
      unfold allowedFlavours at allowed
      split_ifs at allowed
      · exact (List.mem_insertionSort _).mp
          (mem_of_mem_withinThresholdOrAll allowed)
      · exact (List.mem_insertionSort _).mp allowed

/-- The assignment puts the request into the pair, at the price of the next
position. -/
structure Places (policy : AssignmentPolicy) (carbonForecast : List ℚ)
    (tally : SwarmTally) (request : ScenarioRequest) (pair : ℤ × Flavour)
    (assignment : Assignment) : Prop where
  requestId_eq : assignment.requestId = request.requestId
  scheduledSlot_eq : assignment.scheduledSlot = pair.1
  flavourName_eq : assignment.flavourName = pair.2.name
  error_eq : assignment.error = pair.2.error
  carbonCost_eq : assignment.carbonCost =
    Nshift.slotCost policy carbonForecast tally pair.1 pair.2
  qosProfileId_eq : assignment.qosProfileId = .defaultProfile

namespace SameHistory

variable {cfg : Config} {run : SingletonRun} {tally : SwarmTally}
variable {request : ScenarioRequest} {fallback : Flavour}
variable (carbonForecast : List ℚ) (now : ℚ)
variable (runtime : NumericRuntime σ)

/-- Both strategies fall back to the same flavour. -/
theorem argmin_restrictFlavours
    (same : SameHistory cfg run.shared tally run.assignments) :
    ((run.batchInput cfg carbonForecast
        (request.toRequest now)).restrictFlavours cfg.flavours).argmin
          Flavour.error = cfg.flavours.argmin Flavour.error := by
  rw [same.restrictFlavours_eq, apply_ite (List.argmin Flavour.error),
    argmin_withinThresholdOrAll, ite_self]

/-- A request that is there before the horizon ends can be placed. -/
theorem singletonStep_eq
    (same : SameHistory cfg run.shared tally run.assignments)
    (mirrors : Mirrors cfg) (windowed : 0 ≤ cfg.errorWindowFuture)
    (ordered : request.arrivalSlot ≤ request.deadlineSlot)
    (inside : request.arrivalSlot < cfg.totalSlots)
    (least : cfg.flavours.argmin Flavour.error = some fallback)
    (order : IterationOrder Assignment) (scan : SingletonScan)
    (unplaced : scan.solved = [])
    (opening : scan.slotCount = (prepareSolve runtime order
      (run.batchInput cfg carbonForecast
        (request.toRequest now))).1.baselineSlotCounts) :
    ∃ next placed,
      singletonStep
          (prepareSolve runtime order (run.batchInput cfg carbonForecast
            (request.toRequest now))).1
          (run.batchInput cfg carbonForecast (request.toRequest now)) fallback
          scan
          ((run.batchInput cfg carbonForecast
            (request.toRequest now)).solveRequestOf (request.toRequest now)) =
        some next ∧
      next.solved = [placed] ∧
        Places cfg.assignmentPolicy carbonForecast tally request
          (cheapestPair cfg.assignmentPolicy carbonForecast fallback tally
            request)
          ((prepareSolve runtime order (run.batchInput cfg carbonForecast
            (request.toRequest now))).1.toAssignment
              cfg.flavourDurationByName placed) := by
  have last : ((run.batchInput cfg carbonForecast
        (request.toRequest now)).solveRequestOf
          (request.toRequest now)).deadlineSlot =
        greedyDeadline cfg.assignmentPolicy request :=
    capDeadline_eq carbonForecast request now mirrors ordered
  have opens : ¬ greedyDeadline cfg.assignmentPolicy request <
      request.arrivalSlot := by
    have future := mirrors.future_eq
    simp only [greedyDeadline, Config.assignmentPolicy]
    omega
  have chosen := same.singletonChoice_eq carbonForecast request now runtime
    order mirrors ordered unplaced opening fallback
  have offered : fallback ∈ cfg.assignmentPolicy.flavours :=
    List.argmin_mem least
  have future := (cheapestPair_mem offered carbonForecast tally request).1
  unfold singletonStep
  rw [startSlot_eq, last, if_neg opens, chosen, unplaced]
  refine ⟨_, _, rfl, rfl, ?_⟩
  exact
    { requestId_eq := rfl
      scheduledSlot_eq := rfl
      flavourName_eq := rfl
      error_eq := rfl
      carbonCost_eq := same.singletonCost_eq carbonForecast request now runtime
        order mirrors opening future _
      qosProfileId_eq := rfl }

/-- A solve answers with the pair that the offline pass chooses. -/
theorem solve_eq
    (same : SameHistory cfg run.shared tally run.assignments)
    (mirrors : Mirrors cfg) (windowed : 0 ≤ cfg.errorWindowFuture)
    (ordered : request.arrivalSlot ≤ request.deadlineSlot)
    (inside : request.arrivalSlot < cfg.totalSlots)
    (least : cfg.flavours.argmin Flavour.error = some fallback)
    (oracle : SolveOracle) :
    ∃ result recovery assignment,
      solveGreedySingleton runtime oracle (run.batchInput cfg carbonForecast
          (request.toRequest now)) = some (result, recovery) ∧
        result.assignments = [assignment] ∧
        result.baselineSlotCounts =
          (prepareSolve runtime oracle.futureOrder (run.batchInput cfg
            carbonForecast (request.toRequest now))).1.baselineSlotCounts ∧
        Places cfg.assignmentPolicy carbonForecast tally request
          (cheapestPair cfg.assignmentPolicy carbonForecast fallback tally
            request) assignment := by
  have accurate : (prepareSolve runtime oracle.futureOrder (run.batchInput cfg
        carbonForecast (request.toRequest now))).1.solverFlavours.argmin
          Flavour.error = some fallback := by
    rw [← least]
    exact same.argmin_restrictFlavours carbonForecast now
  have alone : (prepareSolve runtime oracle.futureOrder (run.batchInput cfg
      carbonForecast (request.toRequest now))).1.solveRequests =
        [(run.batchInput cfg carbonForecast
          (request.toRequest now)).solveRequestOf (request.toRequest now)] := by
    rw [prepareSolve_solveRequests,
      BatchSolveContext.movableFuture_of_locked mirrors.locked]
    rfl
  obtain ⟨next, placed, stepped, solved, places⟩ := same.singletonStep_eq
    carbonForecast now runtime mirrors windowed ordered inside least
    oracle.futureOrder ⟨_, []⟩ rfl rfl
  have scanned :
      let prep := (prepareSolve runtime oracle.futureOrder
        (run.batchInput cfg carbonForecast (request.toRequest now))).1
      singletonScan prep
          (run.batchInput cfg carbonForecast (request.toRequest now)) fallback
          { slotCount := prep.baselineSlotCounts, solved := [] }
          prep.solveRequests =
        some next := by
    dsimp only
    rw [alone, singletonScan, stepped]
    rfl
  have returned := solveGreedySingleton_of_scan accurate scanned
  rw [solved] at returned
  exact ⟨_, _, _, returned, rfl, rfl, places⟩

/-- Nobody commits between the solve and the commit, so the placement is
committed. -/
theorem solveAndCommit_eq
    (same : SameHistory cfg run.shared tally run.assignments)
    (mirrors : Mirrors cfg) (windowed : 0 ≤ cfg.errorWindowFuture)
    (ordered : request.arrivalSlot ≤ request.deadlineSlot)
    (inside : request.arrivalSlot < cfg.totalSlots)
    (least : cfg.flavours.argmin Flavour.error = some fallback)
    (oracle : Request → SolveOracle) :
    ∃ assignment recovery,
      run.solveAndCommit cfg runtime oracle carbonForecast
          (request.toRequest now) =
        some
          { shared := run.shared.addAssignments [assignment]
            recovery := recovery
            assignments := run.assignments ++ [assignment] } ∧
      Places cfg.assignmentPolicy carbonForecast tally request
        (cheapestPair cfg.assignmentPolicy carbonForecast fallback tally
          request) assignment := by
  obtain ⟨result, recovery, assignment, solved, answered, baseline, places⟩ :=
    same.solve_eq carbonForecast now runtime mirrors windowed ordered inside
      least (oracle (request.toRequest now))
  have offered : fallback ∈ cfg.assignmentPolicy.flavours :=
    List.argmin_mem least
  have future := (cheapestPair_mem offered carbonForecast tally request).1
  have current : ∀ placed ∈ [assignment],
      result.baselineSlotCounts.getD placed.scheduledSlot 0 =
        slotOccupancy run.shared.assignments.values placed.scheduledSlot := by
    intro placed member
    rw [List.mem_singleton.mp member, baseline, places.scheduledSlot_eq]
    exact baselineSlotCounts_eq carbonForecast request now runtime _ run
      mirrors future
  have accepted := Engine.accepted_of_current current cfg.capacityTiers
    (cfg.forceCommit 0) 0
  have attempt := SharedState.tryAddAssignmentsChecked_of_committed accepted
  refine ⟨assignment, recovery, ?_, places⟩
  unfold SingletonRun.solveAndCommit
  rw [solved, Option.map_some]
  dsimp only
  rw [answered, attempt]

/-- The history grows by the same placement. -/
theorem record
    (same : SameHistory cfg run.shared tally run.assignments)
    {assignment : Assignment} {pair : ℤ × Flavour}
    (places : Places cfg.assignmentPolicy carbonForecast tally request pair
      assignment)
    (offered : pair.2 ∈ cfg.flavours)
    (fresh : request.requestId ∉ assignmentIds run.assignments) :
    SameHistory cfg (run.shared.addAssignments [assignment])
      (tally.place pair.1 pair.2) (run.assignments ++ [assignment]) := by
  have owned : { assignment with qosProfileId := .defaultProfile } =
      assignment := by
    rw [← places.qosProfileId_eq]
  rw [← places.requestId_eq] at fresh
  have committed := same.committed.record fresh
  rw [owned] at committed
  refine ⟨committed, ?_,
    same.counts.place_assignment places.scheduledSlot_eq places.error_eq, ?_⟩
  · have missing : run.shared.assignments.lookup assignment.requestId = none :=
      AList.lookup_eq_none.mpr fun stored =>
        fresh ((same.committed.stored_iff _).mp stored)
    rw [SharedState.addAssignments, List.foldl_cons, List.foldl_nil,
      SharedState.recordAssignment_of_missing missing]
    dsimp only
    rw [places.qosProfileId_eq, Dictionary.getD_upsert_self]
    rfl
  · intro placed member
    rcases List.mem_append.mp member with earlier | last
    · exact same.offered placed earlier
    · rw [List.mem_singleton.mp last]
      exact ⟨pair.2, offered, places.error_eq⟩

end SameHistory

/-! ## Online and offline -/

/-- Identifier, slot, flavour, error and cost of an assignment. -/
def outcome (assignment : Assignment) : ℕ × ℤ × String × ℚ × ℚ :=
  (assignment.requestId, decision assignment)

def PerRequest.outcome (row : PerRequest) : ℕ × ℤ × String × ℚ × ℚ :=
  (row.requestId, row.scheduledSlot, row.flavourName, row.error,
    row.carbonCost)

theorem Places.outcome_eq {policy : AssignmentPolicy}
    {carbonForecast : List ℚ} {tally : SwarmTally} {request : ScenarioRequest}
    {pair : ℤ × Flavour} {assignment : Assignment}
    (places : Places policy carbonForecast tally request pair assignment) :
    outcome assignment =
      (request.requestId, pair.1, pair.2.name, pair.2.error,
        Nshift.slotCost policy carbonForecast tally pair.1 pair.2) := by
  rw [outcome, decision, places.requestId_eq, places.scheduledSlot_eq,
    places.flavourName_eq, places.error_eq, places.carbonCost_eq]

/-- The offline pass and the online run have placed the same requests
alike. -/
structure SamePlacements (cfg : Config) (pass : GreedyPass)
    (run : SingletonRun) : Prop where
  history : SameHistory cfg run.shared pass.tally run.assignments
  outcomes_eq :
    pass.perReq.map PerRequest.outcome = run.assignments.map outcome

namespace SamePlacements

variable {cfg : Config} {pass : GreedyPass} {run : SingletonRun}
variable {fallback : Flavour} {requests : List ScenarioRequest}
variable (runtime : NumericRuntime σ) (oracle : Request → SolveOracle)
variable (carbonForecast : List ℚ) (slotDur : ℚ)

theorem start (cfg : Config) : SamePlacements cfg .start .start where
  history :=
    { committed := .new _
      averaged := rfl
      counts := ⟨fun _ => rfl, fun _ => List.Perm.refl _, rfl, rfl⟩
      offered := fun _ member => absurd member List.not_mem_nil }
  outcomes_eq := rfl

/-- A request is placed as in the offline pass. -/
theorem step (same : SamePlacements cfg pass run) (mirrors : Mirrors cfg)
    (windowed : 0 ≤ cfg.errorWindowFuture)
    (least : cfg.flavours.argmin Flavour.error = some fallback)
    {request : ScenarioRequest} (now : ℚ)
    (ordered : request.arrivalSlot ≤ request.deadlineSlot)
    (inside : request.arrivalSlot < cfg.totalSlots)
    (fresh : request.requestId ∉ assignmentIds run.assignments) :
    ∃ next,
      run.solveAndCommit cfg runtime oracle carbonForecast
          (request.toRequest now) = some next ∧
        SamePlacements cfg
          (greedyStep cfg.assignmentPolicy carbonForecast slotDur fallback pass
            request) next ∧
        assignmentIds next.assignments =
          assignmentIds run.assignments ++ [request.requestId] := by
  obtain ⟨assignment, recovery, committed, places⟩ :=
    same.history.solveAndCommit_eq carbonForecast now runtime mirrors windowed
      ordered inside least oracle
  have offered : fallback ∈ cfg.assignmentPolicy.flavours :=
    List.argmin_mem least
  have chosen := (cheapestPair_mem offered carbonForecast pass.tally request).2
  refine ⟨_, committed,
    ⟨same.history.record carbonForecast places chosen fresh, ?_⟩, ?_⟩
  · unfold greedyStep
    dsimp only
    rw [List.map_append, List.map_append, same.outcomes_eq,
      List.map_singleton, List.map_singleton, places.outcome_eq]
    rfl
  · rw [assignmentIds, List.map_append, List.map_singleton,
      places.requestId_eq]

/-- Requests of their own identifiers are placed as in the offline pass. -/
theorem steps (same : SamePlacements cfg pass run) (mirrors : Mirrors cfg)
    (windowed : 0 ≤ cfg.errorWindowFuture)
    (least : cfg.flavours.argmin Flavour.error = some fallback)
    (now : ScenarioRequest → ℚ) (requests : List ScenarioRequest)
    (arrivals : ∀ request ∈ requests,
      request.arrivalSlot ≤ request.deadlineSlot ∧
        request.arrivalSlot < cfg.totalSlots)
    (distinct : (assignmentIds run.assignments ++
      requests.map ScenarioRequest.requestId).Nodup) :
    ∃ final,
      (requests.map fun request => request.toRequest (now request)).foldlM
          (SingletonRun.solveAndCommit cfg runtime oracle carbonForecast) run =
        some final ∧
      SamePlacements cfg
        (requests.foldl
          (greedyStep cfg.assignmentPolicy carbonForecast slotDur fallback)
          pass) final := by
  induction requests generalizing pass run with
  | nil => exact ⟨run, rfl, same⟩
  | cons request rest inductionHypothesis =>
      obtain ⟨ordered, inside⟩ := arrivals request List.mem_cons_self
      rw [List.map_cons] at distinct
      have fresh : request.requestId ∉ assignmentIds run.assignments :=
        fun earlier =>
          List.disjoint_of_nodup_append distinct earlier List.mem_cons_self
      obtain ⟨next, committed, placed, ids⟩ := same.step runtime oracle
        carbonForecast slotDur mirrors windowed least (now request) ordered
        inside fresh
      rw [List.append_cons, ← ids] at distinct
      rw [List.foldl_cons, List.map_cons, List.foldlM_cons, committed]
      exact inductionHypothesis placed
        (fun other member => arrivals other (List.mem_cons_of_mem _ member))
        distinct

end SamePlacements

/-- However the load and the error history are derived, the online strategy
places every request as the offline strategy does. -/
theorem online_singleton_eq_offline (cfg : Config) (mirrors : Mirrors cfg)
    (windowed : 0 ≤ cfg.errorWindowFuture) (someFlavour : cfg.flavours ≠ [])
    (runtime : NumericRuntime σ) (oracle : Request → SolveOracle)
    (carbonForecast : List ℚ) (slotDur : ℚ) (now : ScenarioRequest → ℚ)
    (requests : List ScenarioRequest)
    (distinct : (requests.map ScenarioRequest.requestId).Nodup)
    (arrivals : ∀ request ∈ requests,
      request.arrivalSlot ≤ request.deadlineSlot ∧
        request.arrivalSlot < cfg.totalSlots) :
    ∃ run,
      SingletonRun.solveAll cfg runtime oracle carbonForecast now requests =
          some run ∧
        (runGreedyCheapest cfg.assignmentPolicy carbonForecast slotDur
            requests).map (List.map PerRequest.outcome) =
          some (run.assignments.map outcome) := by
  obtain ⟨fallback, least⟩ := List.exists_argmin Flavour.error someFlavour
  have sorted := List.perm_insertionSort arrivalOrder requests
  obtain ⟨run, committed, same⟩ :=
    (SamePlacements.start cfg).steps runtime oracle carbonForecast slotDur
      mirrors windowed least now (requests.insertionSort arrivalOrder)
      (fun request member => arrivals request (sorted.mem_iff.mp member))
      ((sorted.map ScenarioRequest.requestId).symm.nodup distinct)
  have accurate : cfg.assignmentPolicy.flavours.argmin Flavour.error =
      some fallback := least
  refine ⟨run, committed, ?_⟩
  rw [runGreedyCheapest, accurate, Option.map_some, Option.map_some,
    same.outcomes_eq]

/-! ## A run -/

/-- The default settings, without recovery and decay. -/
def mirrorConfig : Config :=
  { Config.default with
    infeasibility :=
      { InfeasibilityConfig.default with recoveryMode := "min_error_greedy" }
    errorWindowPastDecaySlots := 0 }

theorem mirrorConfig_mirrors : Mirrors mirrorConfig where
  locked := rfl
  recoveryMode := by decide +kernel
  undecayed := le_rfl
  actualPast := rfl
  future_eq := rfl

/-- Three requests in two slots. -/
theorem online_singleton_eq_offline_threeRequests :
    ∃ run,
      SingletonRun.solveAll mirrorConfig .least (fun _ => .steady)
          (List.replicate 24 1) (fun _ => 0)
          [⟨3, 1, 4⟩, ⟨1, 0, 3⟩, ⟨2, 0, 0⟩] = some run ∧
        (runGreedyCheapest mirrorConfig.assignmentPolicy (List.replicate 24 1)
            10 [⟨3, 1, 4⟩, ⟨1, 0, 3⟩, ⟨2, 0, 0⟩]).map
            (List.map PerRequest.outcome) =
          some (run.assignments.map outcome) :=
  online_singleton_eq_offline mirrorConfig mirrorConfig_mirrors (by decide)
    (List.cons_ne_nil _ _) .least (fun _ => .steady) (List.replicate 24 1) 10
    (fun _ => 0) [⟨3, 1, 4⟩, ⟨1, 0, 3⟩, ⟨2, 0, 0⟩] (by decide) (by decide)

/-- The third position of a slot costs twice as much. -/
def steepMirrorConfig : Config :=
  { mirrorConfig with capacityTiers := [⟨some 2, 1⟩, ⟨none, 2⟩] }

/-- No slot of a request is in its window. -/
def closedMirrorConfig : Config :=
  { mirrorConfig with
    errorWindowFuture := -1
    assignmentMaxFutureSlots := -1 }

/-- Of requests that share an identifier the committed state keeps one, so the
third one takes the cheaper second position.  Without a slot in the window a
request stays pending, where the offline strategy falls back to its arrival. -/
theorem online_singleton_ne_offline :
    (Mirrors steepMirrorConfig ∧
      ∃ run,
        SingletonRun.solveAll steepMirrorConfig .least (fun _ => .steady)
            (List.replicate 24 1) (fun _ => 0)
            [⟨1, 0, 0⟩, ⟨1, 0, 0⟩, ⟨1, 0, 0⟩] = some run ∧
          (runGreedyCheapest steepMirrorConfig.assignmentPolicy
              (List.replicate 24 1) 10 [⟨1, 0, 0⟩, ⟨1, 0, 0⟩, ⟨1, 0, 0⟩]).map
              (List.map PerRequest.outcome) ≠
            some (run.assignments.map outcome)) ∧
      Mirrors closedMirrorConfig ∧
        ∃ run,
          SingletonRun.solveAll closedMirrorConfig .least (fun _ => .steady)
              (List.replicate 24 1) (fun _ => 0) [⟨1, 0, 3⟩] = some run ∧
            (runGreedyCheapest closedMirrorConfig.assignmentPolicy
                (List.replicate 24 1) 10 [⟨1, 0, 3⟩]).map
                (List.map PerRequest.outcome) ≠
              some (run.assignments.map outcome) := by
  have steep :
      (SingletonRun.solveAll steepMirrorConfig .least (fun _ => .steady)
          (List.replicate 24 1) (fun _ => 0)
          [⟨1, 0, 0⟩, ⟨1, 0, 0⟩, ⟨1, 0, 0⟩]).map (fun run =>
        decide ((runGreedyCheapest steepMirrorConfig.assignmentPolicy
            (List.replicate 24 1) 10 [⟨1, 0, 0⟩, ⟨1, 0, 0⟩, ⟨1, 0, 0⟩]).map
            (List.map PerRequest.outcome) ≠
          some (run.assignments.map outcome))) = some true := by
    decide +kernel
  have closed :
      (SingletonRun.solveAll closedMirrorConfig .least (fun _ => .steady)
          (List.replicate 24 1) (fun _ => 0) [⟨1, 0, 3⟩]).map (fun run =>
        decide ((runGreedyCheapest closedMirrorConfig.assignmentPolicy
            (List.replicate 24 1) 10 [⟨1, 0, 3⟩]).map
            (List.map PerRequest.outcome) ≠
          some (run.assignments.map outcome))) = some true := by
    decide +kernel
  obtain ⟨run, solved, differs⟩ := Option.map_eq_some_iff.mp steep
  obtain ⟨pending, left, differs'⟩ := Option.map_eq_some_iff.mp closed
  refine ⟨⟨⟨rfl, by decide +kernel, le_rfl, rfl, rfl⟩, run, solved,
    of_decide_eq_true differs⟩, ⟨rfl, by decide +kernel, le_rfl, rfl, rfl⟩,
    pending, left, of_decide_eq_true differs'⟩

end Nshift

end Carbonshift
