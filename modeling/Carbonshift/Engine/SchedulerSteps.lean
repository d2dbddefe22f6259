import Carbonshift.Engine.Commits
import Carbonshift.Engine.Pricing
import Carbonshift.Engine.Scheduler

/-!
# What one step of the scheduler can do

One inversion lemma per kind of step.  Every invariant of the scheduler is
derived from these, so none of them looks into the step function again.
-/

namespace Carbonshift

/-- What a swarm solve reads of the committed state. -/
def SolverView.swarmContext {σ : Type} : SolverView σ → Option SwarmContext
  | .batch _ => none
  | .swarm ctx => some ctx
  | .swarmClone ctx _ => some ctx

namespace Engine

variable {σ : Type} {cfg : Config} {runtime : NumericRuntime σ}

/-! ## Worker steps -/

/-- The phase a worker's step leads to, and the shared state after it. -/
inductive WorkerEffect (cfg : Config) (runtime : NumericRuntime σ)
    (engine : Engine σ) (worker : BatchWorker σ) :
    WorkerPhase σ → SharedState → Prop where
  | entered
      (was : worker.phase = .claimed) :
      WorkerEffect cfg runtime engine worker
        (.ready (engine.shared.capacityTiers.getD cfg.capacityTiers) 0)
        engine.shared
  | observedBatch {tiers : List CapacityTier} {rollbacks : ℕ}
      (kind : cfg.workerKind = .batch)
      (was : worker.phase = .ready tiers rollbacks) :
      WorkerEffect cfg runtime engine worker
        (.observed tiers rollbacks (.batch engine.shared.snapshotForSolver))
        engine.shared
  | observedSwarm {tiers : List CapacityTier} {rollbacks : ℕ}
      {view : SolverView σ}
      (kind : cfg.workerKind ≠ .batch)
      (was : worker.phase = .ready tiers rollbacks)
      (reads : view.swarmContext = some (swarmContext engine worker)) :
      WorkerEffect cfg runtime engine worker
        (.observed tiers rollbacks view) engine.shared
  | solvedBatch {tiers : List CapacityTier} {rollbacks : ℕ}
      {snapshot : SolverSnapshot} {oracle : SolveOracle}
      {result : BatchSolveResult} {recovery : RecoveryState}
      (was : worker.phase = .observed tiers rollbacks (.batch snapshot))
      (solved :
        (selectBatchSolver cfg.solver.solverStrategy).solve runtime oracle
          (batchInput cfg engine worker tiers snapshot) =
            some (result, recovery)) :
      WorkerEffect cfg runtime engine worker
        (afterSolve tiers rollbacks
          { assignments := result.assignments
            baselineSlotCounts := result.baselineSlotCounts
            context := some result.context
            delta := .none })
        engine.shared
  | solvedSwarm {tiers : List CapacityTier} {rollbacks : ℕ}
      {view : SolverView σ} {ctx : SwarmContext}
      {learned : OnlineSwarmState σ}
      {solved : List Assignment × OnlineSwarmState σ} {delta : SwarmDelta σ}
      (was : worker.phase = .observed tiers rollbacks view)
      (reads : view.swarmContext = some ctx)
      (answered :
        learned.solveBatch runtime worker.pending worker.slot
          worker.carbonForecast ctx (cfg.workerPolicy worker.pending tiers) =
            some solved) :
      WorkerEffect cfg runtime engine worker
        (afterSolve tiers rollbacks
          { assignments := ownedBy (batchProfileId worker.pending) solved.1
            baselineSlotCounts := ctx.slotCount
            context := none
            delta := delta })
        engine.shared
  | rolledBack {tiers : List CapacityTier} {rollbacks : ℕ}
      {proposal : SolverProposal σ} {shared : SharedState}
      (was : worker.phase = .proposed tiers rollbacks proposal)
      (same : SharedState.SameWork engine.shared shared) :
      WorkerEffect cfg runtime engine worker
        (afterRollback cfg tiers rollbacks) shared
  | committed {tiers : List CapacityTier} {rollbacks : ℕ}
      {proposal : SolverProposal σ} {shared : SharedState}
      (was : worker.phase = .proposed tiers rollbacks proposal)
      (accepted :
        (commitAttempt cfg engine tiers rollbacks proposal).1 = .committed)
      (same : SharedState.SameWork
        (engine.shared.addAssignments proposal.assignments) shared) :
      WorkerEffect cfg runtime engine worker (afterCommit cfg proposal) shared
  | requeued
      (was : worker.phase = .rejected) :
      WorkerEffect cfg runtime engine worker (.finished false)
        (engine.shared.requeuePendingRequestsFront worker.pending)
  | merged {delta : SwarmDelta σ}
      (was : worker.phase = .learning delta) :
      WorkerEffect cfg runtime engine worker (.finished true) engine.shared

/-- Workers and reservations agree. -/
structure SameReservations (before after : Engine σ) : Prop where
  workers_eq : after.workers = before.workers
  spawned_eq : after.spawned = before.spawned
  selecting_eq : after.selecting = before.selecting
  activeProfiles_eq :
    after.scheduler.activeProfiles = before.scheduler.activeProfiles

theorem SameReservations.refl (engine : Engine σ) :
    SameReservations engine engine :=
  ⟨rfl, rfl, rfl, rfl⟩

theorem sameReservations_storeLearned
    (engine : Engine σ) (worker : BatchWorker σ)
    (learned : OnlineSwarmState σ) :
    SameReservations engine (engine.storeLearned worker learned) :=
  ⟨rfl, rfl, rfl, rfl⟩

/-- What a worker's step does. -/
structure Moved (cfg : Config) (runtime : NumericRuntime σ)
    (engine : Engine σ) (worker : BatchWorker σ)
    (moved : BatchWorker σ × Engine σ) (phase : WorkerPhase σ) : Prop where
  worker_eq : moved.1 = worker.withPhase phase
  effect : WorkerEffect cfg runtime engine worker phase moved.2.shared
  reservations : SameReservations engine moved.2

theorem commitAttempt_cases
    (cfg : Config) (engine : Engine σ) (tiers : List CapacityTier)
    (rollbacks : ℕ) (proposal : SolverProposal σ) :
    ((commitAttempt cfg engine tiers rollbacks proposal).1 = .rolledBack ∧
        SharedState.SameWork engine.shared
          (commitAttempt cfg engine tiers rollbacks proposal).2) ∨
      ((commitAttempt cfg engine tiers rollbacks proposal).1 = .committed ∧
        (commitAttempt cfg engine tiers rollbacks proposal).2 =
          engine.shared.addAssignments proposal.assignments) :=
  SharedState.tryAddAssignmentsChecked_cases _ _ _ _ _

theorem sameWork_flagRolledBack
    (cfg : Config) (worker : BatchWorker σ) (rollbacks : ℕ)
    (shared : SharedState) :
    SharedState.SameWork shared
      (flagRolledBack cfg worker rollbacks shared) := by
  unfold flagRolledBack
  split
  · exact SharedState.sameWork_markRequestsRolledBack _
  · exact .refl shared

section Inversion

variable {engine : Engine σ} {worker : BatchWorker σ}
variable {moved : BatchWorker σ × Engine σ}

private theorem enter_moved
    (taken : enter cfg engine worker = some moved) :
    ∃ phase, Moved cfg runtime engine worker moved phase := by
  unfold enter at taken
  split at taken
  · rename_i was
    cases taken
    refine ⟨_, rfl, ?_, ?_⟩
    · dsimp only
      split <;> exact .entered was
    · dsimp only
      split <;> exact ⟨rfl, rfl, rfl, rfl⟩
  · cases taken

/-- What a worker observes, by the kind of its strategy. -/
inductive ObserveEffect (cfg : Config) (runtime : NumericRuntime σ)
    (engine : Engine σ) (worker : BatchWorker σ) :
    BatchWorker σ × Engine σ → Prop where
  | batch {tiers : List CapacityTier} {rollbacks : ℕ}
      (kind : cfg.workerKind = .batch)
      (was : worker.phase = .ready tiers rollbacks) :
      ObserveEffect cfg runtime engine worker
        (worker.withPhase
          (.observed tiers rollbacks (.batch engine.shared.snapshotForSolver)),
          engine)
  | serialized {tiers : List CapacityTier} {rollbacks : ℕ}
      (kind : cfg.workerKind = .swarmSerialized)
      (was : worker.phase = .ready tiers rollbacks) :
      ObserveEffect cfg runtime engine worker
        (worker.withPhase
          (.observed tiers rollbacks (.swarm (swarmContext engine worker))),
          engine)
  | merge {tiers : List CapacityTier} {rollbacks : ℕ}
      {learned : OnlineSwarmState σ}
      (kind : cfg.workerKind = .swarmMerge)
      (was : worker.phase = .ready tiers rollbacks)
      (present :
        learnedState cfg runtime engine worker tiers = some learned) :
      ObserveEffect cfg runtime engine worker
        (worker.withPhase
          (.observed tiers rollbacks
            (.swarmClone (swarmContext engine worker) learned)),
          engine.storeLearned worker learned)

theorem observe_cases (taken : observe cfg runtime engine worker = some moved) :
    ObserveEffect cfg runtime engine worker moved := by
  unfold observe at taken
  split at taken
  · rename_i tiers rollbacks was
    split at taken
    · rename_i kind
      cases taken
      exact .batch kind was
    · rename_i kind
      cases taken
      exact .serialized kind was
    · rename_i kind
      split at taken
      · cases taken
      · obtain ⟨learned, present, rfl⟩ := Option.map_eq_some_iff.mp taken
        exact .merge kind was present
  · cases taken

/-- What a solve proposes, and where it stores what it has learned. -/
inductive SolveEffect (cfg : Config) (runtime : NumericRuntime σ)
    (oracle : SolveOracle) (engine : Engine σ) (worker : BatchWorker σ) :
    BatchWorker σ × Engine σ → Prop where
  | batch {tiers : List CapacityTier} {rollbacks : ℕ}
      {snapshot : SolverSnapshot} {result : BatchSolveResult}
      {recovery : RecoveryState}
      (was : worker.phase = .observed tiers rollbacks (.batch snapshot))
      (solved :
        (selectBatchSolver cfg.solver.solverStrategy).solve runtime oracle
          (batchInput cfg engine worker tiers snapshot) =
            some (result, recovery)) :
      SolveEffect cfg runtime oracle engine worker
        (worker.withPhase
          (afterSolve tiers rollbacks
            { assignments := result.assignments
              baselineSlotCounts := result.baselineSlotCounts
              context := some result.context
              delta := .none }),
          { engine with
            scheduler := { engine.scheduler with recovery := recovery } })
  | serialized {tiers : List CapacityTier} {rollbacks : ℕ}
      {ctx : SwarmContext} {learned : OnlineSwarmState σ}
      {solved : List Assignment × OnlineSwarmState σ}
      (was : worker.phase = .observed tiers rollbacks (.swarm ctx))
      (present :
        learnedState cfg runtime engine worker tiers = some learned)
      (answered :
        learned.solveBatch runtime worker.pending worker.slot
          worker.carbonForecast ctx (cfg.workerPolicy worker.pending tiers) =
            some solved) :
      SolveEffect cfg runtime oracle engine worker
        (worker.withPhase
          (afterSolve tiers rollbacks
            { assignments := ownedBy (batchProfileId worker.pending) solved.1
              baselineSlotCounts := ctx.slotCount
              context := none
              delta := .none }),
          engine.storeLearned worker solved.2)
  | merge {tiers : List CapacityTier} {rollbacks : ℕ}
      {ctx : SwarmContext} {learned : OnlineSwarmState σ}
      {solved : List Assignment × SwarmDelta σ}
      (was : worker.phase =
        .observed tiers rollbacks (.swarmClone ctx learned))
      (answered :
        learned.solveBatchMerge runtime worker.pending worker.slot
          worker.carbonForecast ctx (cfg.workerPolicy worker.pending tiers) =
            some solved) :
      SolveEffect cfg runtime oracle engine worker
        (worker.withPhase
          (afterSolve tiers rollbacks
            { assignments := ownedBy (batchProfileId worker.pending) solved.1
              baselineSlotCounts := ctx.slotCount
              context := none
              delta := solved.2 }),
          engine)

theorem solve_cases {oracle : SolveOracle}
    (taken : solve cfg runtime oracle engine worker = some moved) :
    SolveEffect cfg runtime oracle engine worker moved := by
  unfold solve at taken
  split at taken
  · rename_i tiers rollbacks snapshot was
    obtain ⟨solved, found, rfl⟩ := Option.map_eq_some_iff.mp taken
    exact .batch was found
  · rename_i tiers rollbacks ctx was
    split at taken
    · cases taken
    · obtain ⟨learned, present, found⟩ := Option.bind_eq_some_iff.mp taken
      obtain ⟨solved, answered, rfl⟩ := Option.map_eq_some_iff.mp found
      exact .serialized was present answered
  · rename_i tiers rollbacks ctx learned was
    obtain ⟨solved, answered, rfl⟩ := Option.map_eq_some_iff.mp taken
    exact .merge was answered
  · cases taken

private theorem observe_moved
    (taken : observe cfg runtime engine worker = some moved) :
    ∃ phase, Moved cfg runtime engine worker moved phase := by
  cases observe_cases taken with
  | batch kind was =>
      exact ⟨_, rfl, .observedBatch kind was, .refl engine⟩
  | serialized kind was =>
      exact ⟨_, rfl, .observedSwarm (by simp [kind]) was rfl, .refl engine⟩
  | merge kind was _ =>
      exact ⟨_, rfl, .observedSwarm (by simp [kind]) was rfl,
        sameReservations_storeLearned _ _ _⟩

private theorem solve_moved {oracle : SolveOracle}
    (taken : solve cfg runtime oracle engine worker = some moved) :
    ∃ phase, Moved cfg runtime engine worker moved phase := by
  cases solve_cases taken with
  | batch was solved =>
      exact ⟨_, rfl, .solvedBatch was solved, ⟨rfl, rfl, rfl, rfl⟩⟩
  | serialized was _ answered =>
      exact ⟨_, rfl, .solvedSwarm was rfl answered,
        sameReservations_storeLearned _ _ _⟩
  | @merge _ _ _ learned _ was found =>
      obtain ⟨solved, answered, same⟩ := learned.solveBatch_of_merge found
      refine ⟨_, rfl, ?_, .refl engine⟩
      dsimp only
      rw [← same]
      exact .solvedSwarm was rfl answered

private theorem commit_moved
    (taken : commit cfg engine worker = some moved) :
    ∃ phase, Moved cfg runtime engine worker moved phase := by
  unfold commit at taken
  split at taken
  · rename_i tiers rollbacks proposal was
    have outcome := commitAttempt_cases cfg engine tiers rollbacks proposal
    split at taken
    · rename_i shared attempt
      rw [attempt] at outcome
      cases taken
      rcases outcome with ⟨_, same⟩ | ⟨accepted, _⟩
      · exact ⟨_, rfl, .rolledBack was same, ⟨rfl, rfl, rfl, rfl⟩⟩
      · cases accepted
    · rename_i shared attempt
      have accepted :
          (commitAttempt cfg engine tiers rollbacks proposal).1 =
            .committed := by
        rw [attempt]
      rw [attempt] at outcome
      rcases outcome with ⟨refused, _⟩ | ⟨_, added⟩
      · cases refused
      · have same :
            SharedState.SameWork
              (engine.shared.addAssignments proposal.assignments)
              (flagRolledBack cfg worker rollbacks shared) := by
          rw [← added]
          exact sameWork_flagRolledBack cfg worker rollbacks shared
        cases taken
        refine ⟨_, rfl, ?_, ⟨rfl, rfl, rfl, rfl⟩⟩
        dsimp only
        exact .committed was accepted same
  · cases taken

private theorem requeue_moved
    (taken : requeue engine worker = some moved) :
    ∃ phase, Moved cfg runtime engine worker moved phase := by
  unfold requeue at taken
  split at taken
  · rename_i was
    cases taken
    exact ⟨_, rfl, .requeued was, ⟨rfl, rfl, rfl, rfl⟩⟩
  · cases taken

private theorem mergeLearned_moved
    (taken : mergeLearned engine worker = some moved) :
    ∃ phase, Moved cfg runtime engine worker moved phase := by
  unfold mergeLearned at taken
  split at taken
  · rename_i delta _ was
    cases taken
    exact ⟨_, rfl, .merged was, ⟨rfl, rfl, rfl, rfl⟩⟩
  · cases taken

/-- Inversion of the worker steps. -/
theorem workerMove_moved {move : WorkerMove}
    (taken : workerMove cfg runtime engine worker move = some moved) :
    ∃ phase, Moved cfg runtime engine worker moved phase := by
  cases move with
  | enter => exact enter_moved taken
  | observe => exact observe_moved taken
  | solve oracle => exact solve_moved taken
  | commit => exact commit_moved taken
  | requeue => exact requeue_moved taken
  | mergeLearned => exact mergeLearned_moved taken

/-- No worker touches the worker counter or the cursor. -/
theorem sameDispatch_of_move {move : WorkerMove}
    (taken : workerMove cfg runtime engine worker move = some moved) :
    moved.2.scheduler.activeWorkers = engine.scheduler.activeWorkers ∧
      moved.2.scheduler.lastDispatchedProfile =
        engine.scheduler.lastDispatchedProfile := by
  cases move with
  | enter =>
      simp only [workerMove, enter] at taken
      split at taken
      · cases taken
        dsimp only
        split <;> exact ⟨rfl, rfl⟩
      · cases taken
  | observe =>
      rw [workerMove] at taken
      cases observe_cases taken <;> exact ⟨rfl, rfl⟩
  | solve oracle =>
      rw [workerMove] at taken
      cases solve_cases taken <;> exact ⟨rfl, rfl⟩
  | commit =>
      simp only [workerMove, commit] at taken
      split at taken
      · split at taken <;> cases taken <;> exact ⟨rfl, rfl⟩
      · cases taken
  | requeue =>
      simp only [workerMove, requeue] at taken
      split at taken <;> cases taken
      exact ⟨rfl, rfl⟩
  | mergeLearned =>
      simp only [workerMove, mergeLearned] at taken
      split at taken <;> cases taken
      exact ⟨rfl, rfl⟩

end Inversion

/-! ## Steps of the whole engine -/

/-- The requests an action hands to the scheduler. -/
def Action.received : Action → List Request
  | .addRequest request => [request]
  | .addRequests requests => requests
  | _ => []

/-- The action replaces a predicted error by a measured one. -/
def Action.correctsError : Action → Bool
  | .correctAssignmentError _ _ => true
  | _ => false

/-- A correction leaves the place of an assignment alone. -/
structure KeepsPlace (change : Assignment → Assignment) : Prop where
  requestId_eq : ∀ assignment,
    (change assignment).requestId = assignment.requestId
  scheduledSlot_eq : ∀ assignment,
    (change assignment).scheduledSlot = assignment.scheduledSlot
  qosProfileId_eq : ∀ assignment,
    (change assignment).qosProfileId = assignment.qosProfileId

/-- Everything a step of the engine can do. -/
inductive StepEffect (cfg : Config) (runtime : NumericRuntime σ)
    (engine : Engine σ) : Action → Engine σ → Prop where
  | queued {action : Action} {next : Engine σ}
      (pending_eq :
        next.shared.pending = engine.shared.pending ++ action.received)
      (assignments_eq : next.shared.assignments = engine.shared.assignments)
      (totalReceived_eq :
        next.shared.totalReceived =
          engine.shared.totalReceived + action.received.length)
      (reservations : SameReservations engine next) :
      StepEffect cfg runtime engine action next
  | corrected {action : Action} {next : Engine σ} {requestId : ℕ}
      {change : Assignment → Assignment}
      (nothing : action.received = [])
      (pending_eq : next.shared.pending = engine.shared.pending)
      (assignments_eq :
        next.shared.assignments =
          engine.shared.assignments.adjust requestId change)
      (totalReceived_eq :
        next.shared.totalReceived = engine.shared.totalReceived)
      (place : KeepsPlace change)
      (error_eq : action.correctsError = false →
        ∀ assignment, (change assignment).error = assignment.error)
      (reservations : SameReservations engine next) :
      StepEffect cfg runtime engine action next
  | selected {elapsedSlots : ℕ} {flush : Bool} {carbonForecast : List ℚ}
      {selection : ProfileSelection}
      (free : engine.selecting = none)
      (slot_eq : selection.slot = dispatchSlot cfg elapsedSlots)
      (inactive : selection.profileId ∉ engine.scheduler.activeProfiles) :
      StepEffect cfg runtime engine
        (.selectProfile elapsedSlots flush carbonForecast)
        { engine with selecting := some selection }
  | unclaimed {selection : ProfileSelection} {next : Engine σ}
      (picked : engine.selecting = some selection)
      (pending_perm : next.shared.pending.Perm engine.shared.pending)
      (assignments_eq : next.shared.assignments = engine.shared.assignments)
      (totalReceived_eq :
        next.shared.totalReceived = engine.shared.totalReceived)
      (reservations :
        SameReservations { engine with selecting := none } next) :
      StepEffect cfg runtime engine .claimBatch next
  | claimed {selection : ProfileSelection} {claimed : List Request}
      {next : Engine σ}
      (picked : engine.selecting = some selection)
      (someRequest : claimed ≠ [])
      (own : ∀ request ∈ claimed, request.qosProfileId = selection.profileId)
      (pending_perm :
        (claimed ++ next.shared.pending).Perm engine.shared.pending)
      (assignments_eq : next.shared.assignments = engine.shared.assignments)
      (totalReceived_eq :
        next.shared.totalReceived = engine.shared.totalReceived)
      (workers_eq :
        next.workers =
          engine.workers.insert engine.spawned (spawnWorker selection claimed))
      (spawned_eq : next.spawned = engine.spawned + 1)
      (selecting_eq : next.selecting = none)
      (activeProfiles_eq :
        next.scheduler.activeProfiles =
          engine.scheduler.activeProfiles.insert selection.profileId) :
      StepEffect cfg runtime engine .claimBatch next
  | worked {workerId : ℕ} {move : WorkerMove} {worker : BatchWorker σ}
      {phase : WorkerPhase σ} {next : Engine σ}
      (found : engine.workers.lookup workerId = some worker)
      (effect : WorkerEffect cfg runtime engine worker phase next.shared)
      (workers_eq :
        next.workers = engine.workers.insert workerId (worker.withPhase phase))
      (spawned_eq : next.spawned = engine.spawned)
      (selecting_eq : next.selecting = engine.selecting)
      (activeProfiles_eq :
        next.scheduler.activeProfiles = engine.scheduler.activeProfiles) :
      StepEffect cfg runtime engine (.work workerId move) next
  | released {workerId : ℕ} {worker : BatchWorker σ} {scheduled : Bool}
      {next : Engine σ}
      (found : engine.workers.lookup workerId = some worker)
      (was : worker.phase = .finished scheduled)
      (free : engine.selecting = none)
      (shared_eq : next.shared = engine.shared)
      (workers_eq : next.workers = engine.workers.erase workerId)
      (spawned_eq : next.spawned = engine.spawned)
      (selecting_eq : next.selecting = none)
      (activeProfiles_eq :
        next.scheduler.activeProfiles =
          engine.scheduler.activeProfiles.erase worker.profileId) :
      StepEffect cfg runtime engine (.release workerId) next

section StepInversion

variable {engine next : Engine σ}

private theorem queued_of_sameWork
    {action : Action} (nothing : action.received = [])
    {shared : SharedState}
    (same : SharedState.SameWork engine.shared shared) :
    StepEffect cfg runtime engine action (engine.withShared shared) :=
  .queued (by rw [nothing, List.append_nil]; exact same.pending_eq)
    same.assignments_eq (by rw [nothing]; exact same.totalReceived_eq)
    ⟨rfl, rfl, rfl, rfl⟩

private theorem mem_of_nextProfileToDispatch
    {pendingByProfile : List (QosProfileId × ℕ)}
    {scheduler : SchedulerMutableState σ} {slot : ℤ} {minPending : ℕ}
    {chosen : QosProfileId × ℕ}
    (picked : nextProfileToDispatch pendingByProfile scheduler slot minPending =
      some chosen) :
    dispatchable scheduler slot minPending chosen = true := by
  have member := List.mem_of_getElem? picked
  rw [List.mem_insertionSort] at member
  exact (List.mem_filter.mp member).2

private theorem selectProfile_effect
    {elapsedSlots : ℕ} {flush : Bool} {carbonForecast : List ℚ}
    (taken : selectProfile cfg elapsedSlots flush carbonForecast engine =
      some next) :
    StepEffect cfg runtime engine
      (.selectProfile elapsedSlots flush carbonForecast) next := by
  unfold selectProfile at taken
  dsimp only at taken
  split at taken
  · cases taken
  · rename_i idle
    obtain ⟨chosen, picked, rfl⟩ := Option.map_eq_some_iff.mp taken
    have allowed := mem_of_nextProfileToDispatch picked
    simp only [dispatchable, Bool.and_eq_true, decide_eq_true_eq] at allowed
    have free : engine.selecting = none := by
      simp only [Bool.or_eq_true, not_or] at idle
      simpa using idle.1
    exact .selected free rfl allowed.1.2

private theorem claimBatch_effect
    (taken : claimBatch cfg engine = some next) :
    StepEffect cfg runtime engine .claimBatch next := by
  obtain ⟨selection, picked, claimed⟩ := Option.map_eq_some_iff.mp taken
  obtain ⟨keeps, own⟩ := SharedState.splitClaim_spec selection.profileId
    (min selection.profilePendingCount cfg.solver.batchSize)
    engine.shared.pending
  dsimp only [SharedState.claimPendingRequestsForProfile] at claimed
  split at claimed
  · rename_i empty
    subst claimed
    rw [List.isEmpty_iff.mp empty, List.nil_append] at keeps
    exact .unclaimed picked keeps rfl rfl ⟨rfl, rfl, rfl, rfl⟩
  · rename_i nonempty
    split at claimed
    · subst claimed
      exact .unclaimed picked keeps rfl rfl ⟨rfl, rfl, rfl, rfl⟩
    · subst claimed
      exact .claimed picked (by simpa using nonempty) own keeps rfl rfl rfl rfl
        rfl rfl

private theorem release_effect {workerId : ℕ} {worker : BatchWorker σ}
    (found : engine.workers.lookup workerId = some worker)
    (taken : release engine workerId worker = some next) :
    StepEffect cfg runtime engine (.release workerId) next := by
  unfold release at taken
  split at taken
  · rename_i scheduled free was
    cases taken
    exact .released found was free rfl rfl rfl free rfl
  · cases taken

/-- Only a commit leaves the proposed phase. -/
theorem move_eq_commit_of_proposed
    {worker : BatchWorker σ} {move : WorkerMove}
    {moved : BatchWorker σ × Engine σ} {tiers : List CapacityTier}
    {rollbacks : ℕ} {proposal : SolverProposal σ}
    (was : worker.phase = .proposed tiers rollbacks proposal)
    (taken : workerMove cfg runtime engine worker move = some moved) :
    move = .commit := by
  cases move with
  | commit => rfl
  | enter =>
      rw [workerMove, enter, was] at taken
      cases free : engine.selecting <;> simp [free] at taken
  | observe =>
      rw [workerMove, observe, was] at taken
      simp at taken
  | solve oracle =>
      rw [workerMove, solve, was] at taken
      simp at taken
  | requeue =>
      rw [workerMove, requeue, was] at taken
      simp at taken
  | mergeLearned =>
      rw [workerMove, mergeLearned, was] at taken
      cases free : engine.selecting <;> simp [free] at taken

theorem commit_of_proposed
    {worker : BatchWorker σ} {move : WorkerMove}
    {moved : BatchWorker σ × Engine σ} {tiers : List CapacityTier}
    {rollbacks : ℕ} {proposal : SolverProposal σ}
    (was : worker.phase = .proposed tiers rollbacks proposal)
    (taken : workerMove cfg runtime engine worker move = some moved) :
    commit cfg engine worker = some moved := by
  have commits := move_eq_commit_of_proposed was taken
  subst commits
  exact taken

/-- Inversion of the step function. -/
theorem step_effect {action : Action}
    (taken : step cfg runtime engine action = some next) :
    StepEffect cfg runtime engine action next := by
  cases action with
  | addRequest request =>
      cases taken
      exact .queued rfl rfl rfl ⟨rfl, rfl, rfl, rfl⟩
  | addRequests requests =>
      cases taken
      exact .queued rfl rfl rfl ⟨rfl, rfl, rfl, rfl⟩
  | setCurrentSlot slot =>
      cases taken
      exact queued_of_sameWork rfl (SharedState.sameWork_setCurrentSlot slot)
  | initializeCapacityTiers tiers =>
      rw [step] at taken
      split at taken
      · cases taken
      · cases taken
        exact queued_of_sameWork rfl
          (SharedState.sameWork_initializeCapacityTiers tiers)
  | replaceCapacityTiers tiers =>
      rw [step] at taken
      split at taken
      · cases taken
      · cases taken
        exact queued_of_sameWork rfl
          (SharedState.sameWork_replaceCapacityTiers tiers)
  | correctAssignmentError requestId actualError =>
      cases taken
      exact .corrected rfl
        (SharedState.correctAssignmentError_pending requestId actualError)
        (SharedState.correctAssignmentError_assignments requestId actualError)
        (SharedState.correctAssignmentError_totalReceived requestId
          actualError)
        ⟨fun _ => rfl, fun _ => rfl, fun _ => rfl⟩ (fun kept => by cases kept)
        ⟨rfl, rfl, rfl, rfl⟩
  | correctAssignmentCarbonCost requestId actualCarbonCost =>
      cases taken
      exact .corrected rfl
        (SharedState.correctAssignmentCarbonCost_pending requestId
          actualCarbonCost)
        (SharedState.correctAssignmentCarbonCost_assignments requestId
          actualCarbonCost)
        (SharedState.correctAssignmentCarbonCost_totalReceived requestId
          actualCarbonCost)
        ⟨fun _ => rfl, fun _ => rfl, fun _ => rfl⟩ (fun _ _ => rfl)
        ⟨rfl, rfl, rfl, rfl⟩
  | selectProfile elapsedSlots flush carbonForecast =>
      exact selectProfile_effect taken
  | claimBatch => exact claimBatch_effect taken
  | work workerId move =>
      obtain ⟨worker, found, moves⟩ := Option.bind_eq_some_iff.mp taken
      obtain ⟨moved, performed, rfl⟩ := Option.map_eq_some_iff.mp moves
      obtain ⟨phase, worker_eq, effect, reservations⟩ :=
        workerMove_moved performed
      refine .worked found effect ?_ reservations.spawned_eq
        reservations.selecting_eq reservations.activeProfiles_eq
      rw [worker_eq, reservations.workers_eq]
  | release workerId =>
      obtain ⟨worker, found, released⟩ := Option.bind_eq_some_iff.mp taken
      exact release_effect found released

end StepInversion

end Engine

end Carbonshift
