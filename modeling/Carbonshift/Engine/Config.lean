import Carbonshift.Engine.Requests

/-!
# Configuration

The settings the scheduler and its solvers read, grouped as in the source, and
the assignment policy a batch is solved under.
-/

namespace Carbonshift

/-- Settings for batching, solver selection and solver execution. -/
structure SolverConfig where
  batchSize : ℕ
  /-- `"dp"`, `"bandit"`, `"ant_colony"` or `"greedy_singleton"`. -/
  solverStrategy : String
  dpPruningMethod : String
  /-- Prune only batches at least this large; 0 never prunes. -/
  dpPruningMinBatchSize : ℕ
  dpPruningK : ℕ
  dpTimeout : ℚ
  /-- Are future assignments pinned as baseline load? -/
  dpLockFutureAssignments : Bool
  /-- Rollbacks before a batch is forced in; 0 forces every commit. -/
  rollbackMaxConsecutive : ℕ
  maxBatchSolverParallelism : ℕ
  deriving Repr

/-- Settings of the expected workload. -/
structure SimulationConfig where
  predictedRequestsPerSlot : ℚ
  requestRateStdFactor : ℚ
  deriving Repr

/-- Settings for synthetic prehistory and recovery. -/
structure InfeasibilityConfig where
  prehistoryUseVirtualPast : Bool
  prehistoryErrorRatioOfThreshold : ℚ
  forecastErrorRatioOfThreshold : ℚ
  prehistoryStochasticCounts : Bool
  prehistoryRandomSeed : ℕ
  /-- `"min_error_greedy"`, `"carryover"` or `"forecast"`. -/
  recoveryMode : String
  mockInfluence : ℚ
  mockErrorPerRequest : Option ℚ
  mockInfluenceDecayStep : ℚ
  deriving Repr

/-- Hyperparameters and concurrency mode of the online swarm solvers. -/
structure SwarmConfig where
  /-- `"serialized"` or `"merge"`. -/
  mode : String
  banditEpsilon : ℚ
  banditInitialQ : ℚ
  banditSeed : ℕ
  acoNAnts : ℕ
  acoNIterations : ℕ
  acoAlpha : ℚ
  acoBeta : ℚ
  acoRho : ℚ
  acoQ : ℚ
  acoTau0 : ℚ
  acoSeed : ℕ
  deriving Repr

/-! ## Default groups -/

def SolverConfig.default : SolverConfig where
  batchSize := 4
  solverStrategy := "dp"
  dpPruningMethod := "beam"
  dpPruningMinBatchSize := 8
  dpPruningK := 1200
  dpTimeout := 30
  dpLockFutureAssignments := true
  rollbackMaxConsecutive := 0
  maxBatchSolverParallelism := 12

def SimulationConfig.default : SimulationConfig where
  predictedRequestsPerSlot := 60
  requestRateStdFactor := 1 / 2

def InfeasibilityConfig.default : InfeasibilityConfig where
  prehistoryUseVirtualPast := false
  prehistoryErrorRatioOfThreshold := 1
  forecastErrorRatioOfThreshold := 1
  prehistoryStochasticCounts := true
  prehistoryRandomSeed := 4242
  recoveryMode := "carryover"
  mockInfluence := 4 / 5
  mockErrorPerRequest := none
  mockInfluenceDecayStep := 3 / 20

def SwarmConfig.default : SwarmConfig where
  mode := "serialized"
  banditEpsilon := 3 / 20
  banditInitialQ := 10
  banditSeed := 42
  acoNAnts := 10
  acoNIterations := 3
  acoAlpha := 1
  acoBeta := 2
  acoRho := 3 / 10
  acoQ := 1
  acoTau0 := 1
  acoSeed := 42

/-! ## The whole configuration -/

structure Config where
  solver : SolverConfig
  simulation : SimulationConfig
  infeasibility : InfeasibilityConfig
  swarm : SwarmConfig
  /-- Slots of the planning horizon. -/
  totalSlots : ℤ
  flavours : List Flavour
  carbonCostDurationScale : ℚ
  maxErrorThreshold : ℚ
  errorWindowPast : ℤ
  errorWindowFuture : ℤ
  errorWindowPastDecaySlots : ℤ
  assignmentMaxFutureSlots : ℤ
  globalErrorConstraintEnabled : Bool
  globalErrorConstraintHard : Bool
  capacityTiers : List CapacityTier
  deriving Repr

def Config.default : Config where
  solver := .default
  simulation := .default
  infeasibility := .default
  swarm := .default
  totalSlots := 24
  flavours :=
    [{ name := "Accurate", error := 0, duration := 60 },
      { name := "Balanced", error := 5 / 2, duration := 30 },
      { name := "Fast", error := 5, duration := 10 }]
  carbonCostDurationScale := 1 / 3600
  maxErrorThreshold := 4
  errorWindowPast := 12
  errorWindowFuture := 14
  errorWindowPastDecaySlots := 12
  assignmentMaxFutureSlots := 14
  globalErrorConstraintEnabled := true
  globalErrorConstraintHard := true
  capacityTiers :=
    [{ maxRequests := some 30, multiplier := 1 },
      { maxRequests := some 50, multiplier := 3 / 2 },
      { maxRequests := some 80, multiplier := 2 },
      { maxRequests := none, multiplier := 5 }]

/-- The part of the settings that decides assignments. -/
structure AssignmentPolicy where
  flavours : List Flavour
  capacityTiers : List CapacityTier
  totalSlots : ℤ
  carbonCostDurationScale : ℚ
  maxErrorThreshold : ℚ
  errorWindowPast : ℤ
  errorWindowFuture : ℤ
  errorWindowPastDecaySlots : ℤ
  assignmentMaxFutureSlots : ℤ
  globalErrorConstraintEnabled : Bool
  globalErrorConstraintHard : Bool
  deriving Repr

namespace Config

/-- The policy of a profile's batches; horizon, cost scale, tiers and the
future limit stay global. -/
def assignmentPolicyForProfile (cfg : Config) (profile : QosProfile) :
    AssignmentPolicy where
  flavours := profile.flavours
  capacityTiers := cfg.capacityTiers
  totalSlots := cfg.totalSlots
  carbonCostDurationScale := cfg.carbonCostDurationScale
  maxErrorThreshold := profile.maxErrorThreshold
  errorWindowPast := profile.errorWindow.pastSlots
  errorWindowFuture := profile.errorWindow.futureSlots
  errorWindowPastDecaySlots := profile.errorWindow.pastDecaySlots
  assignmentMaxFutureSlots := cfg.assignmentMaxFutureSlots
  globalErrorConstraintEnabled := profile.cumulativeError.enabled
  globalErrorConstraintHard := profile.cumulativeError.hard

/-- The policy of unprofiled requests. -/
def assignmentPolicy (cfg : Config) : AssignmentPolicy where
  flavours := cfg.flavours
  capacityTiers := cfg.capacityTiers
  totalSlots := cfg.totalSlots
  carbonCostDurationScale := cfg.carbonCostDurationScale
  maxErrorThreshold := cfg.maxErrorThreshold
  errorWindowPast := cfg.errorWindowPast
  errorWindowFuture := cfg.errorWindowFuture
  errorWindowPastDecaySlots := cfg.errorWindowPastDecaySlots
  assignmentMaxFutureSlots := cfg.assignmentMaxFutureSlots
  globalErrorConstraintEnabled := cfg.globalErrorConstraintEnabled
  globalErrorConstraintHard := cfg.globalErrorConstraintHard

/-- The policy a request brings. -/
def requestPolicy (cfg : Config) (request : Request) : AssignmentPolicy :=
  match request.qosProfile with
  | some profile => cfg.assignmentPolicyForProfile profile
  | none => cfg.assignmentPolicy

end Config

end Carbonshift
