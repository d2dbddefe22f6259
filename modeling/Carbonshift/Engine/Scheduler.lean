import Carbonshift.Engine.OnlineSwarmMerge
import Carbonshift.Engine.Solve
import Carbonshift.Library.Transition

/-!
# Batch scheduler

The main loop claims profile-homogeneous batches and spawns one worker per
batch.  A worker solves against a snapshot of the committed state, commits the
proposal through the rollback check, and starts over when it is refused.

Every action below is one critical section of the source: it takes a lock
once, so a run of the scheduler is a list of actions in any order.  A worker
that panics takes no further action.
-/

namespace Carbonshift

/-! ## Strategies and policies -/

/-- Does the algorithm keep learned state between batches? -/
def isOnlineSwarmStrategy (strategy : String) : Bool :=
  normalisedName strategy == "bandit" || normalisedName strategy == "ant_colony"

namespace Config

/-- Which batch worker runs. -/
inductive WorkerKind where
  | batch
  | swarmSerialized
  | swarmMerge
  deriving DecidableEq, Repr

def workerKind (cfg : Config) : WorkerKind :=
  if isOnlineSwarmStrategy cfg.solver.solverStrategy then
    if cfg.swarm.mode = "merge" then .swarmMerge else .swarmSerialized
  else
    .batch

/-- Serialized swarm solves run one at a time. -/
def maxWorkers (cfg : Config) : ℕ :=
  if cfg.workerKind = .swarmSerialized then
    1
  else
    cfg.solver.maxBatchSolverParallelism

/-- Durations of the global flavours; the last flavour of a name counts. -/
def flavourDurationByName (cfg : Config) : Dictionary String ℚ :=
  Dictionary.ofPairs
    (cfg.flavours.reverse.map fun flavour => (flavour.name, flavour.duration))

/-- The policy a batch is solved under: that of its first request's profile,
with the ladder the worker holds. -/
def workerPolicy (cfg : Config) (pending : List Request)
    (tiers : List CapacityTier) : AssignmentPolicy :=
  let policy :=
    match pending.head?.bind Request.qosProfile with
    | some profile => cfg.assignmentPolicyForProfile profile
    | none => cfg.assignmentPolicy
  { policy with capacityTiers := tiers }

/-- Is the commit of a batch with so many rollbacks unconditional? -/
def forceCommit (cfg : Config) (rollbacks : ℕ) : Bool :=
  if cfg.workerKind = .swarmSerialized then
    decide (cfg.solver.rollbackMaxConsecutive = 0)
  else
    decide (cfg.solver.rollbackMaxConsecutive = 0) ||
      decide (cfg.solver.rollbackMaxConsecutive ≤ rollbacks)

end Config

/-! ## Scheduler state -/

/-- Scheduler state shared between the main loop and the workers. -/
structure SchedulerMutableState (σ : Type) where
  activeWorkers : ℕ
  /-- Revision of the ladder the learned state was priced with. -/
  capacityTierRevision : ℕ
  /-- Only one solve may be in flight for a profile. -/
  activeProfiles : List QosProfileId
  /-- Slot and queue length of each profile's last failure. -/
  lastInfeasible : Dictionary QosProfileId (ℤ × ℕ)
  /-- Round-robin cursor. -/
  lastDispatchedProfile : Option QosProfileId
  recovery : RecoveryState
  swarmStates : Dictionary QosProfileId (OnlineSwarmState σ)

/-- What a worker reads before it solves. -/
inductive SolverView (σ : Type) where
  | batch (snapshot : SolverSnapshot)
  | swarm (ctx : SwarmContext)
  | swarmClone (ctx : SwarmContext) (learned : OnlineSwarmState σ)

/-- What a solve proposes to commit. -/
structure SolverProposal (σ : Type) where
  assignments : List Assignment
  /-- Occupancy the solve started from. -/
  baselineSlotCounts : Dictionary ℤ ℤ
  /-- Diagnostics of a batch strategy. -/
  context : Option SolveContext
  /-- Learned contribution of a merge solve. -/
  delta : SwarmDelta σ

/-- Progress of a batch worker.  From `ready` to `learning` it holds the read
guard of the ladder. -/
inductive WorkerPhase (σ : Type) where
  | claimed
  | ready (tiers : List CapacityTier) (rollbacks : ℕ)
  | observed (tiers : List CapacityTier) (rollbacks : ℕ) (view : SolverView σ)
  | proposed (tiers : List CapacityTier) (rollbacks : ℕ)
      (proposal : SolverProposal σ)
  /-- The batch goes back to the queue. -/
  | rejected
  /-- Committed; the learned contribution is still to be merged. -/
  | learning (delta : SwarmDelta σ)
  | finished (scheduled : Bool)

namespace WorkerPhase

variable {σ : Type}

/-- The worker holds the read guard of the ladder. -/
def holdsTierGuard : WorkerPhase σ → Bool
  | .claimed => false
  | .finished _ => false
  | _ => true

/-- The batch is neither committed nor back in the queue. -/
def ownsBatch : WorkerPhase σ → Bool
  | .learning _ => false
  | .finished _ => false
  | _ => true

end WorkerPhase

/-- A batch and what its worker is spawned with. -/
structure ClaimedBatch where
  slot : ℤ
  pending : List Request
  profileId : QosProfileId
  /-- Queue length of the profile when the batch was claimed. -/
  profilePendingCount : ℕ
  carbonForecast : List ℚ

structure BatchWorker (σ : Type) extends ClaimedBatch where
  phase : WorkerPhase σ

namespace BatchWorker

variable {σ : Type}

def withPhase (worker : BatchWorker σ) (phase : WorkerPhase σ) :
    BatchWorker σ :=
  { worker with phase := phase }

/-- The requests in flight. -/
def inFlight (worker : BatchWorker σ) : List Request :=
  if worker.phase.ownsBatch then worker.pending else []

end BatchWorker

/-- A profile picked by the main loop, which holds the scheduler mutex until
it has claimed the batch. -/
structure ProfileSelection where
  slot : ℤ
  minPending : ℕ
  profileId : QosProfileId
  profilePendingCount : ℕ
  carbonForecast : List ℚ

structure Engine (σ : Type) where
  shared : SharedState
  scheduler : SchedulerMutableState σ
  selecting : Option ProfileSelection
  workers : Dictionary ℕ (BatchWorker σ)
  /-- Number of workers spawned so far. -/
  spawned : ℕ

namespace Engine

variable {σ : Type}

/-- The engine before the first request. -/
def new (cfg : Config) : Engine σ where
  shared := SharedState.new.initializeCapacityTiers cfg.capacityTiers
  scheduler :=
    { activeWorkers := 0
      capacityTierRevision := 0
      activeProfiles := []
      lastInfeasible := ∅
      lastDispatchedProfile := none
      recovery := ∅
      swarmStates := ∅ }
  selecting := none
  workers := ∅
  spawned := 0

/-! ## Dispatch -/

section Dispatch

variable (cfg : Config)

/-- Enough pending work, no active solve, and not just retried. -/
def dispatchable (scheduler : SchedulerMutableState σ) (slot : ℤ)
    (minPending : ℕ) (entry : QosProfileId × ℕ) : Bool :=
  decide (minPending ≤ entry.2) &&
    decide (entry.1 ∉ scheduler.activeProfiles) &&
    decide (scheduler.lastInfeasible.lookup entry.1 ≠ some (slot, entry.2))

/-- The next dispatchable profile after the cursor, in profile order. -/
def nextProfileToDispatch (pendingByProfile : List (QosProfileId × ℕ))
    (scheduler : SchedulerMutableState σ) (slot : ℤ) (minPending : ℕ) :
    Option (QosProfileId × ℕ) :=
  let eligible :=
    (pendingByProfile.filter
      (dispatchable scheduler slot minPending)).insertionSort
        fun left right => left.1 ≤ right.1
  let nextIndex :=
    (scheduler.lastDispatchedProfile.bind fun cursor =>
      eligible.findIdx? fun entry => !decide (entry.1 ≤ cursor)).getD 0
  eligible[nextIndex]?

/-- The slot of a dispatch pass, clamped to the last slot of the horizon. -/
def dispatchSlot (elapsedSlots : ℕ) : ℤ :=
  min (elapsedSlots : ℤ) (cfg.totalSlots - 1)

/-- Pick a profile, keeping the scheduler mutex. -/
def selectProfile (elapsedSlots : ℕ) (flush : Bool) (carbonForecast : List ℚ)
    (engine : Engine σ) : Option (Engine σ) :=
  let slot := dispatchSlot cfg elapsedSlots
  let minPending := if flush then 1 else cfg.solver.batchSize
  if engine.selecting.isSome ||
      decide (cfg.maxWorkers ≤ engine.scheduler.activeWorkers) then
    none
  else
    (nextProfileToDispatch engine.shared.pendingProfileCounts engine.scheduler
      slot minPending).map fun chosen =>
        { engine with
          selecting :=
            some
              { slot := slot
                minPending := minPending
                profileId := chosen.1
                profilePendingCount := chosen.2
                carbonForecast := carbonForecast } }

/-- The worker of a claimed batch. -/
def spawnWorker (selection : ProfileSelection) (claimed : List Request) :
    BatchWorker σ where
  slot := selection.slot
  pending := claimed
  profileId := selection.profileId
  profilePendingCount := selection.profilePendingCount
  carbonForecast := selection.carbonForecast
  phase := .claimed

/-- Claim a batch of the picked profile and release the mutex. -/
def claimBatch (engine : Engine σ) : Option (Engine σ) :=
  engine.selecting.map fun selection =>
    let claim := engine.shared.claimPendingRequestsForProfile
      selection.profileId
      (min selection.profilePendingCount cfg.solver.batchSize)
    if claim.1.isEmpty then
      { engine with shared := claim.2, selecting := none }
    else if claim.1.length < selection.minPending then
      { engine with
        shared := claim.2.requeuePendingRequestsFront claim.1
        selecting := none }
    else
      { engine with
        shared := claim.2
        scheduler :=
          { engine.scheduler with
            lastDispatchedProfile := some selection.profileId
            activeProfiles :=
              engine.scheduler.activeProfiles.insert selection.profileId
            activeWorkers := engine.scheduler.activeWorkers + 1 }
        selecting := none
        workers :=
          engine.workers.insert engine.spawned (spawnWorker selection claim.1)
        spawned := engine.spawned + 1 }

end Dispatch

/-! ## Worker steps -/

section Worker

variable (cfg : Config) (runtime : NumericRuntime σ)

/-- Take the read guard; learned costs of another ladder are discarded. -/
def enter (engine : Engine σ) (worker : BatchWorker σ) :
    Option (BatchWorker σ × Engine σ) :=
  match engine.selecting, worker.phase with
  | none, .claimed =>
      some
        (worker.withPhase
          (.ready (engine.shared.capacityTiers.getD cfg.capacityTiers) 0),
          if engine.scheduler.capacityTierRevision ≠
              engine.shared.capacityTierRevision then
            { engine with
              scheduler :=
                { engine.scheduler with
                  swarmStates := ∅
                  capacityTierRevision := engine.shared.capacityTierRevision } }
          else
            engine)
  | _, _ => none

/-- The learned state of the worker's profile, created on first use. -/
def learnedState (engine : Engine σ) (worker : BatchWorker σ)
    (tiers : List CapacityTier) : Option (OnlineSwarmState σ) :=
  (engine.scheduler.swarmStates.lookup (batchProfileId worker.pending)).or
    (OnlineSwarmState.fromConfig runtime cfg.solver cfg.swarm
      (cfg.workerPolicy worker.pending tiers) worker.carbonForecast)

/-- Store the learned state of the worker's profile. -/
def storeLearned (engine : Engine σ) (worker : BatchWorker σ)
    (learned : OnlineSwarmState σ) : Engine σ :=
  { engine with
    scheduler :=
      { engine.scheduler with
        swarmStates :=
          engine.scheduler.swarmStates.insert (batchProfileId worker.pending)
            learned } }

def swarmContext (engine : Engine σ) (worker : BatchWorker σ) : SwarmContext :=
  engine.shared.swarmContextSnapshotForProfile
    (some (batchProfileId worker.pending))

/-- Read the committed state; a merge solve also clones the learned state
under the mutex. -/
def observe (engine : Engine σ) (worker : BatchWorker σ) :
    Option (BatchWorker σ × Engine σ) :=
  match worker.phase with
  | .ready tiers rollbacks =>
      match cfg.workerKind with
      | .batch =>
          some
            (worker.withPhase
              (.observed tiers rollbacks
                (.batch engine.shared.snapshotForSolver)),
              engine)
      | .swarmSerialized =>
          some
            (worker.withPhase
              (.observed tiers rollbacks (.swarm (swarmContext engine worker))),
              engine)
      | .swarmMerge =>
          if engine.selecting.isSome then
            none
          else
            (learnedState cfg runtime engine worker tiers).map fun learned =>
              (worker.withPhase
                (.observed tiers rollbacks
                  (.swarmClone (swarmContext engine worker) learned)),
                engine.storeLearned worker learned)
  | _ => none

/-- The input of a batch strategy. -/
def batchInput (engine : Engine σ) (worker : BatchWorker σ)
    (tiers : List CapacityTier) (snapshot : SolverSnapshot) :
    BatchSolveContext where
  currentSlot := worker.slot
  pending := worker.pending
  snapshot := snapshot
  assignment := cfg.workerPolicy worker.pending tiers
  solverConfig := cfg.solver
  simulationConfig := cfg.simulation
  recoveryConfig := cfg.infeasibility
  recoveryState := engine.scheduler.recovery
  carbonForecast := worker.carbonForecast
  flavourDurationByName := cfg.flavourDurationByName

/-- Swarm assignments are counted for the batch's profile. -/
def ownedBy (profileId : QosProfileId) (assignments : List Assignment) :
    List Assignment :=
  assignments.map fun assignment =>
    { assignment with qosProfileId := profileId }

/-- An empty proposal sends the batch back to the queue. -/
def afterSolve (tiers : List CapacityTier) (rollbacks : ℕ)
    (proposal : SolverProposal σ) : WorkerPhase σ :=
  if proposal.assignments.isEmpty then
    .rejected
  else
    .proposed tiers rollbacks proposal

/-- Solve against what was observed; `none` is a panic. -/
def solve (oracle : SolveOracle) (engine : Engine σ) (worker : BatchWorker σ) :
    Option (BatchWorker σ × Engine σ) :=
  match worker.phase with
  | .observed tiers rollbacks (.batch snapshot) =>
      ((selectBatchSolver cfg.solver.solverStrategy).solve runtime oracle
        (batchInput cfg engine worker tiers snapshot)).map fun solved =>
          (worker.withPhase
            (afterSolve tiers rollbacks
              { assignments := solved.1.assignments
                baselineSlotCounts := solved.1.baselineSlotCounts
                context := some solved.1.context
                delta := .none }),
            { engine with
              scheduler := { engine.scheduler with recovery := solved.2 } })
  | .observed tiers rollbacks (.swarm ctx) =>
      if engine.selecting.isSome then
        none
      else
        (learnedState cfg runtime engine worker tiers).bind fun learned =>
          (learned.solveBatch runtime worker.pending worker.slot
            worker.carbonForecast ctx
            (cfg.workerPolicy worker.pending tiers)).map fun solved =>
              (worker.withPhase
                (afterSolve tiers rollbacks
                  { assignments :=
                      ownedBy (batchProfileId worker.pending) solved.1
                    baselineSlotCounts := ctx.slotCount
                    context := none
                    delta := .none }),
                engine.storeLearned worker solved.2)
  | .observed tiers rollbacks (.swarmClone ctx learned) =>
      (learned.solveBatchMerge runtime worker.pending worker.slot
        worker.carbonForecast ctx
        (cfg.workerPolicy worker.pending tiers)).map fun solved =>
          (worker.withPhase
            (afterSolve tiers rollbacks
              { assignments := ownedBy (batchProfileId worker.pending) solved.1
                baselineSlotCounts := ctx.slotCount
                context := none
                delta := solved.2 }),
            engine)
  | _ => none

/-- Occupancy the proposal expects after its commit, in the slots it uses. -/
def expectedPerSlot (baselineSlotCounts : Dictionary ℤ ℤ)
    (assignments : List Assignment) : Dictionary ℤ ℤ :=
  Dictionary.ofPairs
    ((assignments.map Assignment.scheduledSlot).dedup.map fun slot =>
      (slot,
        baselineSlotCounts.getD slot 0 + slotOccupancy assignments slot))

/-- Where a committed worker goes on. -/
def afterCommit (proposal : SolverProposal σ) : WorkerPhase σ :=
  if cfg.workerKind = .swarmMerge then
    .learning proposal.delta
  else
    .finished true

/-- Where a rolled-back worker goes on: a serialized swarm batch gives up. -/
def afterRollback (tiers : List CapacityTier) (rollbacks : ℕ) :
    WorkerPhase σ :=
  if cfg.workerKind = .swarmSerialized then
    .rejected
  else
    .ready tiers (rollbacks + 1)

/-- The batch strategies flag what they commit after a rollback. -/
def flagRolledBack (worker : BatchWorker σ) (rollbacks : ℕ)
    (shared : SharedState) : SharedState :=
  if cfg.workerKind = .batch ∧ 0 < rollbacks then
    shared.markRequestsRolledBack (requestIds worker.pending)
  else
    shared

/-- The rollback-checked commit of a proposal. -/
def commitAttempt (engine : Engine σ) (tiers : List CapacityTier)
    (rollbacks : ℕ) (proposal : SolverProposal σ) :
    CommitOutcome × SharedState :=
  engine.shared.tryAddAssignmentsChecked proposal.assignments
    (expectedPerSlot proposal.baselineSlotCounts proposal.assignments)
    tiers (cfg.forceCommit rollbacks) rollbacks

/-- Attempt the commit and go on accordingly. -/
def commit (engine : Engine σ) (worker : BatchWorker σ) :
    Option (BatchWorker σ × Engine σ) :=
  match worker.phase with
  | .proposed tiers rollbacks proposal =>
      match commitAttempt cfg engine tiers rollbacks proposal with
      | (.rolledBack, shared) =>
          some
            (worker.withPhase (afterRollback cfg tiers rollbacks),
              { engine with shared := shared })
      | (.committed, shared) =>
          some
            (worker.withPhase (afterCommit cfg proposal),
              { engine with
                shared := flagRolledBack cfg worker rollbacks shared })
  | _ => none

/-- Put a rejected batch back to the front of the queue. -/
def requeue (engine : Engine σ) (worker : BatchWorker σ) :
    Option (BatchWorker σ × Engine σ) :=
  match worker.phase with
  | .rejected =>
      some
        (worker.withPhase (.finished false),
          { engine with
            shared :=
              engine.shared.requeuePendingRequestsFront worker.pending })
  | _ => none

/-- Merge the learned contribution of a committed batch. -/
def mergeLearned (engine : Engine σ) (worker : BatchWorker σ) :
    Option (BatchWorker σ × Engine σ) :=
  match engine.selecting, worker.phase with
  | none, .learning delta =>
      some
        (worker.withPhase (.finished true),
          { engine with
            scheduler :=
              { engine.scheduler with
                swarmStates :=
                  engine.scheduler.swarmStates.adjust
                    (batchProfileId worker.pending)
                    fun learned => learned.mergeDelta delta } })
  | _, _ => none

/-- Release the reservations of a finished worker. -/
def release (engine : Engine σ) (workerId : ℕ) (worker : BatchWorker σ) :
    Option (Engine σ) :=
  match engine.selecting, worker.phase with
  | none, .finished scheduled =>
      some
        { engine with
          scheduler :=
            { engine.scheduler with
              activeWorkers := engine.scheduler.activeWorkers - 1
              activeProfiles :=
                engine.scheduler.activeProfiles.erase worker.profileId
              lastInfeasible :=
                if scheduled then
                  engine.scheduler.lastInfeasible.erase worker.profileId
                else
                  engine.scheduler.lastInfeasible.insert worker.profileId
                    (worker.slot, worker.profilePendingCount) }
          workers := engine.workers.erase workerId }
  | _, _ => none

/-- A step of a worker between its claim and its release. -/
inductive WorkerMove where
  | enter
  | observe
  | solve (oracle : SolveOracle)
  | commit
  | requeue
  | mergeLearned

/-- Perform a worker's step. -/
def workerMove (engine : Engine σ) (worker : BatchWorker σ) :
    WorkerMove → Option (BatchWorker σ × Engine σ)
  | .enter => enter cfg engine worker
  | .observe => observe cfg runtime engine worker
  | .solve oracle => solve cfg runtime oracle engine worker
  | .commit => commit cfg engine worker
  | .requeue => requeue engine worker
  | .mergeLearned => mergeLearned engine worker

end Worker

/-! ## The transition system -/

inductive Action where
  | addRequest (request : Request)
  | addRequests (requests : List Request)
  | setCurrentSlot (slot : ℤ)
  | initializeCapacityTiers (tiers : List CapacityTier)
  | replaceCapacityTiers (tiers : List CapacityTier)
  | correctAssignmentError (requestId : ℕ) (actualError : ℚ)
  | correctAssignmentCarbonCost (requestId : ℕ) (actualCarbonCost : ℚ)
  | selectProfile (elapsedSlots : ℕ) (flush : Bool) (carbonForecast : List ℚ)
  | claimBatch
  | work (workerId : ℕ) (move : WorkerMove)
  | release (workerId : ℕ)

/-- Does a worker hold the read guard of the ladder? -/
def tierGuardHeld (engine : Engine σ) : Bool :=
  engine.workers.values.any fun worker => worker.phase.holdsTierGuard

def withShared (engine : Engine σ) (shared : SharedState) : Engine σ :=
  { engine with shared := shared }

/-- One step of the scheduler; the tier setters wait for the read guards. -/
def step (cfg : Config) (runtime : NumericRuntime σ) (engine : Engine σ) :
    Action → Option (Engine σ)
  | .addRequest request =>
      some (engine.withShared (engine.shared.addRequest request))
  | .addRequests requests =>
      some (engine.withShared (engine.shared.addRequests requests))
  | .setCurrentSlot slot =>
      some (engine.withShared (engine.shared.setCurrentSlot slot))
  | .initializeCapacityTiers tiers =>
      if engine.tierGuardHeld then
        none
      else
        some (engine.withShared (engine.shared.initializeCapacityTiers tiers))
  | .replaceCapacityTiers tiers =>
      if engine.tierGuardHeld then
        none
      else
        some (engine.withShared (engine.shared.replaceCapacityTiers tiers))
  | .correctAssignmentError requestId actualError =>
      some (engine.withShared
        (engine.shared.correctAssignmentError requestId actualError))
  | .correctAssignmentCarbonCost requestId actualCarbonCost =>
      some (engine.withShared
        (engine.shared.correctAssignmentCarbonCost requestId
          actualCarbonCost).2)
  | .selectProfile elapsedSlots flush carbonForecast =>
      selectProfile cfg elapsedSlots flush carbonForecast engine
  | .claimBatch => claimBatch cfg engine
  | .work workerId move =>
      (engine.workers.lookup workerId).bind fun worker =>
        (workerMove cfg runtime engine worker move).map fun moved =>
          { moved.2 with workers := moved.2.workers.insert workerId moved.1 }
  | .release workerId =>
      (engine.workers.lookup workerId).bind fun worker =>
        release engine workerId worker

end Engine

end Carbonshift
