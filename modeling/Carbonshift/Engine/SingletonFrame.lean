import Carbonshift.Engine.Conservation
import Carbonshift.Engine.Pricing

/-!
# Which requests the singleton strategy places

It places whatever the preparation hands it, so committed assignments move
unless they are locked.
-/

namespace Carbonshift

/-- The range of the request is empty. -/
def BatchSolveContext.Stranded (input : BatchSolveContext)
    (request : SolveRequest) : Prop :=
  request.deadlineSlot < max request.earliestSlot input.currentSlot

/-- The solve has nothing to move, or places nothing at all. -/
def BatchSolveContext.LeavesFuture (input : BatchSolveContext) : Prop :=
  input.solverConfig.dpLockFutureAssignments = true ∨
    (∀ assignment ∈ input.snapshot.assignments.values,
      assignment.qosProfileId = batchProfileId input.pending →
        assignment.scheduledSlot < input.currentSlot) ∨
    (∃ request ∈ input.pending, input.Stranded (input.solveRequestOf request)) ∨
    ∃ assignment ∈ input.snapshot.assignments.values,
      assignment.qosProfileId = batchProfileId input.pending ∧
        input.currentSlot ≤ assignment.scheduledSlot ∧
          input.Stranded (input.movableRequestOf assignment)

/-- Assignments are stored under their requests, and the batch is not among
them. -/
structure Uncommitted (state : SharedState) (pending : List Request) :
    Prop where
  keyed : Keyed state.assignments
  fresh : ∀ request ∈ pending, request.id ∉ state.assignments

/-- Only the batch is placed, and what is committed keeps its slot, flavour
and cost. -/
structure NeverReplans (state : SharedState) (pending : List Request)
    (assignments : List Assignment) : Prop where
  own : ∀ assignment ∈ assignments,
    assignment.requestId ∈ requestIds pending
  kept : ∀ requestId committed,
    state.assignments.lookup requestId = some committed →
      ∃ assignment,
        (state.addAssignments assignments).assignments.lookup requestId =
            some assignment ∧
          assignment.scheduledSlot = committed.scheduledSlot ∧
            assignment.flavourName = committed.flavourName ∧
              assignment.carbonCost = committed.carbonCost

/-- Requests that are not committed yet replace nothing. -/
theorem Uncommitted.neverReplans_of_own {state : SharedState}
    {pending : List Request} (uncommitted : Uncommitted state pending)
    {assignments : List Assignment}
    (own : ∀ assignment ∈ assignments,
      assignment.requestId ∈ requestIds pending) :
    NeverReplans state pending assignments := by
  refine ⟨own, fun requestId committed stored => ?_⟩
  have absent : requestId ∉ assignmentIds assignments := by
    intro member
    obtain ⟨assignment, placed, rfl⟩ := List.mem_map.mp member
    obtain ⟨request, queued, same⟩ := List.mem_map.mp (own assignment placed)
    have known := Dictionary.mem_of_lookup stored
    rw [← same] at known
    exact uncommitted.fresh request queued known
  refine ⟨committed, ?_, rfl, rfl, rfl⟩
  rw [SharedState.lookup_addAssignments_of_absent absent, stored]

/-- A committed assignment is not of the batch. -/
theorem Uncommitted.not_mem_requestIds {state : SharedState}
    {pending : List Request} (uncommitted : Uncommitted state pending)
    {assignment : Assignment}
    (committed : assignment ∈ state.assignments.values) :
    assignment.requestId ∉ requestIds pending := by
  intro member
  obtain ⟨requestId, stored⟩ := Dictionary.mem_values_iff.mp committed
  obtain ⟨request, queued, same⟩ := List.mem_map.mp member
  have known := Dictionary.mem_of_lookup stored
  rw [← uncommitted.keyed stored, ← same] at known
  exact uncommitted.fresh request queued known

/-- A batch that is being solved is not committed. -/
theorem Engine.uncommitted_of_run {σ : Type} {cfg : Config}
    {runtime : NumericRuntime σ} {actions : List Engine.Action}
    {engine : Engine σ}
    (unique : (requestIds (Engine.receivedBy actions)).Nodup)
    (reached : Transition.run (Engine.step cfg runtime) (Engine.new cfg)
      actions = some engine)
    {workerId : ℕ} {worker : BatchWorker σ}
    (found : engine.workers.lookup workerId = some worker)
    (owns : worker.phase.ownsBatch = true) :
    Uncommitted engine.shared worker.pending := by
  have conserved := Engine.Conserved.of_run unique reached
  have distinct := conserved.held.symm.nodup unique
  refine ⟨conserved.keyed, fun request member => ?_⟩
  exact (Engine.uncommitted_of_owns distinct found owns).2 request.id
    (List.mem_map_of_mem member)

section Scan

variable (prep : PreparedSolve) (input : BatchSolveContext)
variable (fallback : Flavour)

theorem singletonStep_eq_none_iff (scan : SingletonScan)
    (request : SolveRequest) :
    singletonStep prep input fallback scan request = none ↔
      input.Stranded request := by
  unfold singletonStep BatchSolveContext.Stranded
  by_cases stranded :
      request.deadlineSlot < max request.earliestSlot input.currentSlot
  · simp [stranded]
  · simp [stranded]

/-- A scan fails at the first request without a candidate. -/
theorem singletonScan_eq_none_iff (scan : SingletonScan)
    (requests : List SolveRequest) :
    singletonScan prep input fallback scan requests = none ↔
      ∃ request ∈ requests, input.Stranded request := by
  induction requests generalizing scan with
  | nil => simp [singletonScan]
  | cons request rest inductionHypothesis =>
      rw [singletonScan]
      have first := singletonStep_eq_none_iff prep input fallback scan request
      cases stepped : singletonStep prep input fallback scan request with
      | none =>
          rw [stepped] at first
          simp [first.mp rfl]
      | some next =>
          rw [stepped] at first
          have placed : ¬ input.Stranded request := by simpa using first
          rw [Option.bind_some, inductionHypothesis, List.exists_mem_cons_iff]
          simp [placed]

end Scan

variable {σ : Type}

theorem restrictFlavours_eq_nil_iff {input : BatchSolveContext}
    {flavours : List Flavour} :
    input.restrictFlavours flavours = [] ↔ flavours = [] := by
  constructor
  · intro empty
    by_contra offered
    exact BatchSolveContext.restrictFlavours_ne_nil offered empty
  · rintro rfl
    unfold BatchSolveContext.restrictFlavours
    split <;> rfl

/-- The strategy panics without flavours only. -/
theorem solveGreedySingleton_eq_none_iff (runtime : NumericRuntime σ)
    (oracle : SolveOracle) (input : BatchSolveContext) :
    solveGreedySingleton runtime oracle input = none ↔
      input.assignment.flavours = [] := by
  rw [solveGreedySingleton, Option.map_eq_none_iff, List.argmin_eq_none,
    prepareSolve_solverFlavours, restrictFlavours_eq_nil_iff]

/-- Exactly the unlocked assignments of the profile from now on are movable. -/
theorem BatchSolveContext.mem_movableFuture_iff (input : BatchSolveContext)
    (order : IterationOrder Assignment) (assignment : Assignment) :
    assignment ∈ input.movableFuture order ↔
      input.solverConfig.dpLockFutureAssignments = false ∧
        assignment ∈ input.snapshot.assignments.values ∧
          assignment.qosProfileId = batchProfileId input.pending ∧
            input.currentSlot ≤ assignment.scheduledSlot := by
  unfold movableFuture
  cases input.solverConfig.dpLockFutureAssignments with
  | true => simp
  | false =>
      simp only [sameProfileFuture, SolverSnapshot.getFutureAssignments,
        List.mem_filter, IterationOrder.mem_arrange, decide_eq_true_eq,
        Bool.false_eq_true, if_false, true_and]
      tauto

/-- The solve places nothing because of a request it cannot place, or all
that the preparation hands it. -/
theorem solveGreedySingleton_cases {runtime : NumericRuntime σ}
    {oracle : SolveOracle} {input : BatchSolveContext}
    {result : BatchSolveResult} {recovery : RecoveryState}
    (solved : solveGreedySingleton runtime oracle input =
      some (result, recovery)) :
    (result.assignments = [] ∧
        ∃ request ∈ (prepareSolve runtime oracle.futureOrder
            input).1.solveRequests,
          input.Stranded request) ∨
      (assignmentIds result.assignments =
          requestIds input.pending ++
            assignmentIds (input.movableFuture oracle.futureOrder) ∧
        ¬ ∃ request ∈ (prepareSolve runtime oracle.futureOrder
            input).1.solveRequests,
          input.Stranded request) := by
  obtain ⟨fallback, least, finished⟩ := Option.map_eq_some_iff.mp solved
  split at finished
  · rename_i scanned
    cases finished
    exact Or.inl ⟨rfl, (singletonScan_eq_none_iff _ input _ _ _).mp scanned⟩
  · rename_i scan scanned
    have passing := (not_congr (singletonScan_eq_none_iff
      (prepareSolve runtime oracle.futureOrder input).1 input fallback _
        _)).mp (by rw [scanned]; exact Option.some_ne_none scan)
    obtain ⟨decisions, placed, places, _⟩ :=
      singletonScan_spec (List.argmin_mem least) scanned
    have ids : decisions.map RequestAssignment.requestId = _ :=
      places.map_eq_map fun _ _ placed => placed.1.1
    rw [map_requestId_solveRequests runtime oracle.futureOrder input] at ids
    rw [List.nil_append] at placed
    have assignments := congrArg (fun pair => pair.1.assignments) finished
    dsimp only [finish_assignments] at assignments
    refine Or.inr ⟨?_, passing⟩
    rw [← assignments, assignmentIds_map_toAssignment, placed, ids]

theorem exists_mem_solveRequests_iff {runtime : NumericRuntime σ}
    {order : IterationOrder Assignment} {input : BatchSolveContext}
    {fails : SolveRequest → Prop} :
    (∃ request ∈ (prepareSolve runtime order input).1.solveRequests,
        fails request) ↔
      (∃ request ∈ input.pending, fails (input.solveRequestOf request)) ∨
        ∃ assignment ∈ input.movableFuture order,
          fails (input.movableRequestOf assignment) := by
  rw [prepareSolve_solveRequests]
  simp only [List.mem_append, or_and_right, exists_or, List.mem_map,
    exists_exists_and_eq_and]

theorem hasOwnSlot_iff (input : BatchSolveContext) (request : Request) :
    HasOwnSlot input request ↔
      ¬ input.Stranded (input.solveRequestOf request) := by
  simp only [HasOwnSlot, ownFirstSlot, ownLastSlot, BatchSolveContext.Stranded,
    BatchSolveContext.solveRequestOf, BatchSolveContext.capDeadline]
  omega

/-- A solve that places anything serves each request in one of its own
slots. -/
theorem solveGreedySingleton_servesEach {runtime : NumericRuntime σ}
    {oracle : SolveOracle} {input : BatchSolveContext}
    {result : BatchSolveResult} {recovery : RecoveryState}
    (solved : solveGreedySingleton runtime oracle input =
      some (result, recovery)) :
    result.assignments = [] ∨ ServesEach input result.assignments := by
  obtain ⟨fallback, least, finished⟩ := Option.map_eq_some_iff.mp solved
  split at finished
  · cases finished
    exact Or.inl rfl
  · rename_i scan scanned
    obtain ⟨decisions, placed, places, _⟩ :=
      singletonScan_spec (List.argmin_mem least) scanned
    rw [List.nil_append] at placed
    have assignments := congrArg (fun pair => pair.1.assignments) finished
    dsimp only [finish_assignments] at assignments
    rw [← assignments, placed]
    refine Or.inr fun request member => ?_
    have asked : input.solveRequestOf request ∈
        (prepareSolve runtime oracle.futureOrder input).1.solveRequests :=
      List.mem_append_left _ (List.mem_map_of_mem member)
    obtain ⟨decision, inAnswer, ⟨own, first⟩, last⟩ :=
      List.Forall₂.exists_left_of_mem places.flip asked
    refine ⟨_, List.mem_map_of_mem inAnswer, own, ?_, ?_⟩
    · exact (le_max_left _ _).trans first
    · refine last.trans (le_of_eq ?_)
      simp only [BatchSolveContext.solveRequestOf,
        BatchSolveContext.capDeadline, ownLastSlot]
      omega

/-- Where every request can be placed, nothing but movable assignments is in
the way. -/
private theorem leavesFuture_iff_of_placeable {input : BatchSolveContext}
    {order : IterationOrder Assignment}
    (passing :
      ¬ ((∃ request ∈ input.pending,
          input.Stranded (input.solveRequestOf request)) ∨
        ∃ assignment ∈ input.movableFuture order,
          input.Stranded (input.movableRequestOf assignment))) :
    input.movableFuture order = [] ↔ input.LeavesFuture := by
  have movable_iff := input.mem_movableFuture_iff order
  constructor
  · intro pinned
    cases locked : input.solverConfig.dpLockFutureAssignments with
    | true => exact Or.inl locked
    | false =>
        refine Or.inr (Or.inl fun assignment committed own => ?_)
        by_contra late
        have movable := (movable_iff assignment).mpr
          ⟨locked, committed, own, not_lt.mp late⟩
        rw [pinned] at movable
        cases movable
  · intro leaves
    rw [List.eq_nil_iff_forall_not_mem]
    intro assignment movable
    obtain ⟨unlocked, committed, own, future⟩ :=
      (movable_iff assignment).mp movable
    rcases leaves with locked | past | ⟨request, member, stranded⟩ |
      ⟨other, stored, same, later, stranded⟩
    · rw [unlocked] at locked
      cases locked
    · exact absurd future (not_le.mpr (past assignment committed own))
    · exact passing (Or.inl ⟨request, member, stranded⟩)
    · have moves := (movable_iff other).mpr ⟨unlocked, stored, same, later⟩
      exact passing (Or.inr ⟨other, moves, stranded⟩)

/-- A singleton solve never replans exactly if it leaves the future alone. -/
private theorem neverReplans_iff_of_solved
    {runtime : NumericRuntime σ} {oracle : SolveOracle}
    {input : BatchSolveContext} {state : SharedState}
    (observed : input.snapshot = state.snapshotForSolver)
    (uncommitted : Uncommitted state input.pending)
    {result : BatchSolveResult} {recovery : RecoveryState}
    (solved : solveGreedySingleton runtime oracle input =
      some (result, recovery)) :
    NeverReplans state input.pending result.assignments ↔
      input.LeavesFuture := by
  have values_eq : input.snapshot.assignments.values =
      state.assignments.values := by
    rw [observed]
    rfl
  have movable_iff := input.mem_movableFuture_iff oracle.futureOrder
  rcases solveGreedySingleton_cases solved with
    ⟨nothing, failing⟩ | ⟨placed, passing⟩
  · rw [nothing]
    refine iff_of_true (uncommitted.neverReplans_of_own nofun) ?_
    rcases exists_mem_solveRequests_iff.mp failing with
      ⟨request, member, stranded⟩ | ⟨assignment, movable, stranded⟩
    · exact Or.inr (Or.inr (Or.inl ⟨request, member, stranded⟩))
    · obtain ⟨_, committed, own, future⟩ := (movable_iff assignment).mp movable
      exact Or.inr (Or.inr (Or.inr
        ⟨assignment, committed, own, future, stranded⟩))
  · rw [exists_mem_solveRequests_iff] at passing
    rw [← leavesFuture_iff_of_placeable passing]
    constructor
    · intro frame
      rw [List.eq_nil_iff_forall_not_mem]
      intro assignment movable
      have proposed :
          assignment.requestId ∈ assignmentIds result.assignments := by
        rw [placed]
        exact List.mem_append_right _ (List.mem_map_of_mem movable)
      obtain ⟨decision, member, same⟩ := List.mem_map.mp proposed
      have own := frame.own decision member
      rw [same] at own
      have committed := ((movable_iff assignment).mp movable).2.1
      rw [values_eq] at committed
      exact uncommitted.not_mem_requestIds committed own
    · intro pinned
      have nothing : assignmentIds ([] : List Assignment) = [] := rfl
      rw [pinned, nothing, List.append_nil] at placed
      refine uncommitted.neverReplans_of_own fun assignment member => ?_
      rw [← placed]
      exact List.mem_map_of_mem member

/-- A singleton solve returns unless there is no flavour, and it never replans
exactly if it leaves the future alone. -/
theorem never_replans_iff (runtime : NumericRuntime σ) (oracle : SolveOracle)
    (input : BatchSolveContext) (state : SharedState)
    (observed : input.snapshot = state.snapshotForSolver)
    (uncommitted : Uncommitted state input.pending) :
    (solveGreedySingleton runtime oracle input = none ↔
        input.assignment.flavours = []) ∧
      ∀ result recovery,
        solveGreedySingleton runtime oracle input = some (result, recovery) →
          (NeverReplans state input.pending result.assignments ↔
            input.LeavesFuture) :=
  ⟨solveGreedySingleton_eq_none_iff runtime oracle input,
    fun _ _ solved => neverReplans_iff_of_solved observed uncommitted solved⟩

/-- One request is committed for slot two. -/
def reservedState : SharedState :=
  SharedState.new.addAssignments
    [{ requestId := 1
       scheduledSlot := 2
       flavourName := "Accurate"
       carbonCost := 1 / 60
       error := 0
       flavourDuration := 60
       arrivalSlot := some 0
       deadlineSlot := some 3
       qosProfileId := .defaultProfile }]

/-- Another one is to be placed, with the default settings. -/
def reservedSolve (locked : Bool) : BatchSolveContext where
  currentSlot := 0
  pending := [.new 0 2 0 3]
  snapshot := reservedState.snapshotForSolver
  assignment := Config.default.assignmentPolicy
  solverConfig :=
    { SolverConfig.default with dpLockFutureAssignments := locked }
  simulationConfig := .default
  recoveryConfig := .default
  recoveryState := ∅
  carbonForecast := List.replicate 24 1
  flavourDurationByName := ∅

private theorem uncommitted_reserved :
    Uncommitted reservedState [.new 0 2 0 3] where
  keyed := by
    refine Keyed.addAssignments (fun {_ _} found => ?_) _
    cases found
  fresh := by decide +kernel

/-- Without the lock the committed request is placed again, in another slot and
for another price. -/
theorem reserved_request_replanned :
    Uncommitted reservedState (reservedSolve false).pending ∧
      (reservedState.assignments.lookup 1).map Assignment.scheduledSlot =
          some 2 ∧
        ∃ result recovery,
          solveGreedySingleton .least .steady (reservedSolve false) =
              some (result, recovery) ∧
            ((reservedState.addAssignments
                result.assignments).assignments.lookup 1).map
                  Assignment.scheduledSlot = some 0 ∧
              ¬ NeverReplans reservedState (reservedSolve false).pending
                result.assignments := by
  have computed :
      (solveGreedySingleton .least .steady (reservedSolve false)).map
          (fun solved =>
            ((reservedState.addAssignments
              solved.1.assignments).assignments.lookup 1).map
                Assignment.scheduledSlot) =
        some (some 0) := by
    decide +kernel
  have before :
      (reservedState.assignments.lookup 1).map Assignment.scheduledSlot =
        some 2 := by
    decide +kernel
  obtain ⟨⟨result, recovery⟩, solved, moved⟩ :=
    Option.map_eq_some_iff.mp computed
  refine ⟨uncommitted_reserved, before, result, recovery, solved, moved,
    fun frame => ?_⟩
  obtain ⟨committed, stored, two⟩ := Option.map_eq_some_iff.mp before
  obtain ⟨assignment, after, same, _⟩ := frame.kept 1 committed stored
  rw [after, Option.map_some, same, two] at moved
  cases moved

/-- With the lock it stays where it is. -/
theorem never_replans_reserved :
    ∃ result recovery,
      solveGreedySingleton .least .steady (reservedSolve true) =
          some (result, recovery) ∧
        NeverReplans reservedState (reservedSolve true).pending
          result.assignments := by
  obtain ⟨panics, replans⟩ := never_replans_iff .least .steady
    (reservedSolve true) reservedState rfl uncommitted_reserved
  obtain ⟨⟨result, recovery⟩, solved⟩ :=
    Option.ne_none_iff_exists'.mp (mt panics.mp (by decide))
  exact ⟨result, recovery, solved,
    (replans result recovery solved).mpr (Or.inl rfl)⟩

end Carbonshift
