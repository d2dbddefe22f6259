import Carbonshift.Engine.DpSolver
import Carbonshift.Engine.Runtime
import Carbonshift.Engine.SharedState

/-!
# Infeasibility recovery

The error baseline of a solve, its optional extensions by decayed or virtual
history, and the mock pool each profile keeps between solves.
-/

namespace Carbonshift

structure PersistentMockPool where
  slot : Option ℤ
  mode : Option String
  remaining : ℤ
  error : ℚ
  deriving DecidableEq, Repr

structure MockInfluenceState where
  base : ℚ
  effective : ℚ
  aboveThresholdStreak : ℤ
  lastEvalSlot : Option ℤ
  deriving DecidableEq, Repr

structure RecoveryData where
  mockPool : PersistentMockPool
  mockInfluence : MockInfluenceState
  deriving DecidableEq, Repr

/-- The first recovery record of a profile. -/
def RecoveryData.new (baseInfluence : ℚ) : RecoveryData where
  mockPool := { slot := none, mode := none, remaining := 0, error := 0 }
  mockInfluence :=
    { base := baseInfluence
      effective := baseInfluence
      aboveThresholdStreak := 0
      lastEvalSlot := none }

/-- Recovery data per profile, created at first use. -/
abbrev RecoveryState := Dictionary QosProfileId RecoveryData

/-- Weighted error history before the current batch. -/
structure ErrorBaseline where
  errorSum : ℚ
  requestCount : ℚ
  averageError : ℚ
  deriving DecidableEq, Repr

def ErrorBaseline.new (errorSum requestCount : ℚ) : ErrorBaseline where
  errorSum := errorSum
  requestCount := requestCount
  averageError := if 0 < requestCount then errorSum / requestCount else 0

/-! ## Baseline extensions -/

section Baseline

variable (currentSlot : ℤ) (baseline : ErrorBaseline)
variable (assignment : AssignmentPolicy)

/-- Extend the baseline by linearly decayed slots before the window. -/
def augmentWithDecayedPast (profileId : QosProfileId)
    (snapshot : SolverSnapshot) (exclude : List ℕ) : ErrorBaseline :=
  let decaySlots := assignment.errorWindowPastDecaySlots.toNat
  if decaySlots = 0 then
    baseline
  else
    let weighted := (List.range decaySlots).map fun offset =>
      let index : ℤ := offset + 1
      let slot := currentSlot - assignment.errorWindowPast - index
      let errors :=
        ((snapshot.getProfileRequestsInSlot profileId slot).filter
          (fun placed => !exclude.contains placed.requestId)).map
            Assignment.error
      let weight : ℚ := (decaySlots - index + 1) / (decaySlots + 1)
      (errors.length * weight, errors.sum * weight)
    let weightedCount := (weighted.map Prod.fst).sum
    if weightedCount ≤ 0 then
      baseline
    else
      .new (baseline.errorSum + (weighted.map Prod.snd).sum)
        (baseline.requestCount + weightedCount)

/-- The seed of one virtual slot, in 64-bit arithmetic. -/
def prehistorySeed (base : ℕ) (missing offset : ℤ) : ℕ :=
  ((base + (currentSlot - (missing + offset))) % 2 ^ 64).toNat

/-- Synthesise the slots missing before startup. -/
def augmentWithVirtualPrehistory {σ : Type} (runtime : NumericRuntime σ)
    (simulation : SimulationConfig) (recovery : InfeasibilityConfig) :
    ErrorBaseline :=
  let missing := max (assignment.errorWindowPast - currentSlot) 0
  if !recovery.prehistoryUseVirtualPast || missing == 0 then
    baseline
  else
    let rate := simulation.predictedRequestsPerSlot
    let sigma := max (rate * simulation.requestRateStdFactor) 1
    let virtualAvgErr :=
      assignment.maxErrorThreshold * recovery.prehistoryErrorRatioOfThreshold
    let counts : List ℤ := (List.range missing.toNat).map fun (offset : ℕ) =>
      if recovery.prehistoryStochasticCounts then
        max (runtime.sampleNormal rate sigma
          (prehistorySeed currentSlot recovery.prehistoryRandomSeed missing
            offset)) 1
      else
        max (roundHalfAway rate) 1
    let virtualRequests : ℤ := counts.sum
    if virtualRequests ≤ 0 then
      baseline
    else
      .new (baseline.errorSum + virtualRequests * virtualAvgErr)
        (baseline.requestCount + virtualRequests)

end Baseline

/-! ## Mock pool -/

section MockPool

/-- The profile's record, fresh on first use. -/
def profileState (state : RecoveryState) (profileId : QosProfileId)
    (baseInfluence : ℚ) : RecoveryData :=
  state.getD profileId (.new baseInfluence)

/-- Configured influence, clamped to `[0, 1]`. -/
def baseInfluence (recovery : InfeasibilityConfig) : ℚ :=
  max 0 (min recovery.mockInfluence 1)

/-- Update the influence of synthetic history, at most once per slot. -/
def updateMockInfluence (state : RecoveryState) (slot : ℤ)
    (baselineAvg maxErrorThreshold : ℚ) (profileId : QosProfileId)
    (recovery : InfeasibilityConfig) : RecoveryState :=
  let base := baseInfluence recovery
  let data := profileState state profileId base
  if data.mockInfluence.lastEvalSlot = some slot then
    state.insert profileId data
  else
    let decay := max recovery.mockInfluenceDecayStep 0
    let streak :=
      if maxErrorThreshold < baselineAvg then
        data.mockInfluence.aboveThresholdStreak + 1
      else
        0
    let effective :=
      if maxErrorThreshold < baselineAvg then
        max (base - streak * decay) 0
      else
        base
    state.insert profileId
      { data with
        mockInfluence :=
          { base := base
            effective := effective
            aboveThresholdStreak := streak
            lastEvalSlot := some slot } }

/-- Configured mock error, or the estimate of the mode. -/
def resolveMockError (fallback : ℚ) (recovery : InfeasibilityConfig) : ℚ :=
  max (recovery.mockErrorPerRequest.getD fallback) 0

/-- Count and error of a new pool. -/
def computeMockSeed {σ : Type} (runtime : NumericRuntime σ) (slot : ℤ)
    (profileId : QosProfileId) (mode : String)
    (assignment : AssignmentPolicy) (simulation : SimulationConfig)
    (recovery : InfeasibilityConfig) (influence : ℚ)
    (snapshot : SolverSnapshot) : ℤ × ℚ :=
  let scaled := fun (count : ℤ) (error : ℚ) =>
    (max (if 0 < count then roundHalfAway (count * influence) else count) 0,
      max error 0)
  if mode = "carryover" then
    let droppedSlot := max (slot - assignment.errorWindowPast) 0 - 1
    let errors :=
      (snapshot.getProfileRequestsInSlot profileId droppedSlot).map
        Assignment.error
    if droppedSlot < 0 ∨ errors.length = 0 then
      (0, 0)
    else
      scaled errors.length
        (resolveMockError (errors.sum / errors.length) recovery)
  else if mode = "forecast" then
    let rate := simulation.predictedRequestsPerSlot
    let sigma := max (rate * simulation.requestRateStdFactor) 1
    let seed := ((recovery.prehistoryRandomSeed + slot) % 2 ^ 64).toNat
    scaled (max (runtime.sampleNormal rate sigma seed) 0)
      (resolveMockError
        (assignment.maxErrorThreshold *
          recovery.forecastErrorRatioOfThreshold)
        recovery)
  else
    (0, 0)

/-- The pool of this slot and mode, seeded on first use. -/
def getOrSeedMockPool {σ : Type} (runtime : NumericRuntime σ)
    (state : RecoveryState) (slot : ℤ) (profileId : QosProfileId)
    (mode : String) (assignment : AssignmentPolicy)
    (simulation : SimulationConfig) (recovery : InfeasibilityConfig)
    (snapshot : SolverSnapshot) : (ℤ × ℚ) × RecoveryState :=
  let data := profileState state profileId (baseInfluence recovery)
  if data.mockPool.slot = some slot ∧ data.mockPool.mode = some mode then
    ((data.mockPool.remaining, data.mockPool.error), state)
  else
    let seed := computeMockSeed runtime slot profileId mode assignment
      simulation recovery data.mockInfluence.effective snapshot
    let pool : PersistentMockPool :=
      { slot := some slot
        mode := some mode
        remaining := max seed.1 0
        error := max seed.2 0 }
    ((pool.remaining, pool.error),
      state.insert profileId { data with mockPool := pool })

/-- Clear a profile's pool, keeping its influence history. -/
def resetMockPool (state : RecoveryState) (profileId : QosProfileId) :
    RecoveryState :=
  state.adjust profileId fun data =>
    { data with
      mockPool := { slot := none, mode := none, remaining := 0, error := 0 } }

/-- Baseline and mock pool handed to the solver. -/
def applyInfeasibilityRecovery {σ : Type} (runtime : NumericRuntime σ)
    (state : RecoveryState) (currentSlot : ℤ) (baseline : ErrorBaseline)
    (profileId : QosProfileId) (assignment : AssignmentPolicy)
    (simulation : SimulationConfig) (recovery : InfeasibilityConfig)
    (snapshot : SolverSnapshot) :
    (ErrorBaseline × MockPool) × RecoveryState :=
  let mode := normalisedName recovery.recoveryMode
  let influenced := updateMockInfluence state currentSlot
    baseline.averageError assignment.maxErrorThreshold profileId recovery
  if mode = "min_error_greedy" then
    ((baseline, .default), resetMockPool influenced profileId)
  else
    let seeded := getOrSeedMockPool runtime influenced currentSlot profileId
      mode assignment simulation recovery snapshot
    if seeded.1.1 ≤ 0 ∨ seeded.1.2 ≤ 0 then
      ((baseline, .default), seeded.2)
    else
      ((.new (baseline.errorSum + seeded.1.1 * seeded.1.2)
          (baseline.requestCount + seeded.1.1),
        { initialCount := seeded.1.1, errorPerRequest := seeded.1.2 }),
        seeded.2)

/-- Record the mocks used by a solve in the pool of its slot and mode. -/
def consumeMockPool (state : RecoveryState) (slot : ℤ) (mode : String)
    (consumed : ℤ) (profileId : QosProfileId) (recoveryMode : String) :
    RecoveryState :=
  if normalisedName recoveryMode = "min_error_greedy" then
    state
  else
    state.adjust profileId fun data =>
      if data.mockPool.slot = some slot ∧ data.mockPool.mode = some mode then
        { data with
          mockPool :=
            { data.mockPool with
              remaining := max (data.mockPool.remaining - max consumed 0) 0 } }
      else
        data

end MockPool

end Carbonshift
