import Carbonshift.Engine.Config
import Carbonshift.Library.Iteration
import Mathlib.Data.List.Sort

/-!
# Shared scheduler state

The queue, the committed assignments and the error totals behind the engine's
mutex, and the operations that each take the lock once.
-/

namespace Carbonshift

/-- Cumulative error totals, of the fleet or of one profile. -/
structure GlobalErrorStats where
  errorSum : ℚ
  count : ℕ
  avg : ℚ
  deriving DecidableEq, Repr

namespace GlobalErrorStats

def default : GlobalErrorStats where
  errorSum := 0
  count := 0
  avg := 0

def refreshAverage (stats : GlobalErrorStats) : GlobalErrorStats :=
  { stats with avg := if 0 < stats.count then stats.errorSum / stats.count else 0 }

end GlobalErrorStats

structure WindowErrorStats where
  errorSum : ℚ
  count : ℕ
  average : ℚ
  deriving DecidableEq, Repr

/-- Error sum, count and average of a list of assignments. -/
def windowErrorStats (assignments : List Assignment) : WindowErrorStats :=
  let errorSum := (assignments.map Assignment.error).sum
  { errorSum := errorSum
    count := assignments.length
    average :=
      if 0 < assignments.length then errorSum / assignments.length else 0 }

inductive CommitOutcome where
  | committed
  | rolledBack
  deriving DecidableEq, Repr

/-- The multiplier lookup of the commit check. -/
def capacityMultiplierForCount (count : ℤ) (tiers : List CapacityTier) : ℚ :=
  getCapacityMultiplier tiers count

/-! ## Solver snapshot -/

/-- What a solver reads, captured in one lock acquisition. -/
structure SolverSnapshot where
  assignments : Dictionary ℕ Assignment
  globalErrorSum : ℚ
  globalAssignmentCount : ℕ
  profileErrorStats : Dictionary QosProfileId GlobalErrorStats

namespace SolverSnapshot

variable (snapshot : SolverSnapshot)

/-- Assignments scheduled at or after the slot, in the map's order. -/
def getFutureAssignments (order : IterationOrder Assignment)
    (currentSlot : ℤ) : List Assignment :=
  (order.arrange snapshot.assignments.values).filter fun assignment =>
    decide (currentSlot ≤ assignment.scheduledSlot)

def getGlobalErrorStats : GlobalErrorStats :=
  GlobalErrorStats.refreshAverage
    { errorSum := snapshot.globalErrorSum
      count := snapshot.globalAssignmentCount
      avg := 0 }

def getProfileErrorStats (profileId : QosProfileId) : GlobalErrorStats :=
  snapshot.profileErrorStats.getD profileId .default

/-- Is the assignment counted in the profile's window statistics? -/
def inProfileWindow (profileId : QosProfileId)
    (centerSlot windowPast windowFuture : ℤ) (exclude : List ℕ)
    (assignment : Assignment) : Bool :=
  decide (assignment.qosProfileId = profileId) &&
    !exclude.contains assignment.requestId &&
    decide (centerSlot - windowPast ≤ assignment.scheduledSlot) &&
    decide (assignment.scheduledSlot ≤ centerSlot + windowFuture)

/-- Window statistics of the assignments of one profile. -/
def getProfileWindowErrorStats (profileId : QosProfileId)
    (centerSlot windowPast windowFuture : ℤ) (exclude : List ℕ) :
    WindowErrorStats :=
  windowErrorStats
    (snapshot.assignments.values.filter
      (inProfileWindow profileId centerSlot windowPast windowFuture exclude))

/-- A profile's assignments in one slot. -/
def getProfileRequestsInSlot (profileId : QosProfileId) (slot : ℤ) :
    List Assignment :=
  snapshot.assignments.values.filter fun assignment =>
    decide (assignment.qosProfileId = profileId) &&
      decide (assignment.scheduledSlot = slot)

end SolverSnapshot

/-- Committed state as the online swarm solvers see it. -/
structure SwarmContext where
  slotCount : Dictionary ℤ ℤ
  slotErrors : Dictionary ℤ (List ℚ)
  globalErrorSum : ℚ
  globalCount : ℕ

/-! ## The lock-guarded state -/

structure SharedState where
  /-- Requests waiting for a batch. -/
  pending : List Request
  assignments : Dictionary ℕ Assignment
  currentSlot : ℤ
  totalReceived : ℕ
  totalScheduled : ℕ
  globalErrorSum : ℚ
  globalAssignmentCount : ℕ
  profileErrorStats : Dictionary QosProfileId GlobalErrorStats
  totalRollbacks : ℕ
  maxConsecutiveRollbacksSeen : ℕ
  rolledBackRequestIds : List ℕ
  /-- The global ladder; `none` before a constructor installs one. -/
  capacityTiers : Option (List CapacityTier)
  capacityTierRevision : ℕ

/-- Number of assignments in one slot. -/
def slotOccupancy (assignments : List Assignment) (slot : ℤ) : ℕ :=
  assignments.countP fun assignment => assignment.scheduledSlot = slot

namespace SharedState

def new : SharedState where
  pending := []
  assignments := ∅
  currentSlot := 0
  totalReceived := 0
  totalScheduled := 0
  globalErrorSum := 0
  globalAssignmentCount := 0
  profileErrorStats := ∅
  totalRollbacks := 0
  maxConsecutiveRollbacksSeen := 0
  rolledBackRequestIds := []
  capacityTiers := none
  capacityTierRevision := 0

variable (state : SharedState)

/-! ### Capacity tiers -/

/-- Install the initial ladder unless one is already there. -/
def initializeCapacityTiers (tiers : List CapacityTier) : SharedState :=
  match state.capacityTiers with
  | none => { state with capacityTiers := some tiers }
  | some _ => state

def replaceCapacityTiers (tiers : List CapacityTier) : SharedState :=
  { state with
    capacityTiers := some tiers
    capacityTierRevision := state.capacityTierRevision + 1 }

/-! ### Request queue -/

def addRequest (request : Request) : SharedState :=
  { state with
    pending := state.pending ++ [request]
    totalReceived := state.totalReceived + 1 }

def addRequests (requests : List Request) : SharedState :=
  { state with
    pending := state.pending ++ requests
    totalReceived := state.totalReceived + requests.length }

/-- Pending requests per profile, in profile order. -/
def pendingProfileCounts : List (QosProfileId × ℕ) :=
  ((state.pending.map Request.qosProfileId).dedup.insertionSort (· ≤ ·)).map
    fun profileId =>
      (profileId,
        state.pending.countP fun request => request.qosProfileId = profileId)

/-- Split off the first `count` requests of a profile, keeping the order of
both parts. -/
def splitClaim (profileId : QosProfileId) :
    ℕ → List Request → List Request × List Request
  | _, [] => ([], [])
  | 0, request :: rest => ([], request :: rest)
  | count + 1, request :: rest =>
      if request.qosProfileId = profileId then
        let parts := splitClaim profileId count rest
        (request :: parts.1, parts.2)
      else
        let parts := splitClaim profileId (count + 1) rest
        (parts.1, request :: parts.2)

/-- Claim at most `count` requests of one profile. -/
def claimPendingRequestsForProfile (profileId : QosProfileId) (count : ℕ) :
    List Request × SharedState :=
  let parts := splitClaim profileId count state.pending
  (parts.1, { state with pending := parts.2 })

/-- Return requests to the front of the queue. -/
def requeuePendingRequestsFront (requests : List Request) : SharedState :=
  { state with pending := requests ++ state.pending }

/-! ### Assignments -/

/-- Record one decision.  A request's budget identity is fixed by its first
commitment, and only that one counts in the totals. -/
def recordAssignment (assignment : Assignment) : SharedState :=
  match state.assignments.lookup assignment.requestId with
  | some previous =>
      { state with
        profileErrorStats :=
          state.profileErrorStats.adjust previous.qosProfileId
            GlobalErrorStats.refreshAverage
        assignments :=
          state.assignments.insert assignment.requestId
            { assignment with qosProfileId := previous.qosProfileId } }
  | none =>
      { state with
        totalScheduled := state.totalScheduled + 1
        globalErrorSum := state.globalErrorSum + assignment.error
        globalAssignmentCount := state.globalAssignmentCount + 1
        profileErrorStats :=
          state.profileErrorStats.upsert assignment.qosProfileId .default
            fun stats => GlobalErrorStats.refreshAverage
              { stats with
                errorSum := stats.errorSum + assignment.error
                count := stats.count + 1 }
        assignments :=
          state.assignments.insert assignment.requestId assignment }

/-- Record a batch of decisions. -/
def addAssignments (assignments : List Assignment) : SharedState :=
  assignments.foldl recordAssignment state

def snapshotForSolver : SolverSnapshot where
  assignments := state.assignments
  globalErrorSum := state.globalErrorSum
  globalAssignmentCount := state.globalAssignmentCount
  profileErrorStats := state.profileErrorStats

def getProfileWindowErrorStats (profileId : QosProfileId)
    (centerSlot windowPast windowFuture : ℤ) (exclude : List ℕ) :
    WindowErrorStats :=
  state.snapshotForSolver.getProfileWindowErrorStats profileId centerSlot
    windowPast windowFuture exclude

/-- Count the assignments of every slot. -/
def countSlots (assignments : List Assignment) : Dictionary ℤ ℤ :=
  assignments.foldl
    (fun counts assignment =>
      counts.upsert assignment.scheduledSlot 0 (· + 1))
    ∅

/-- Global occupancy and the error history of one profile, or of the fleet
when no profile is given. -/
def swarmContextSnapshotForProfile (profileId : Option QosProfileId) :
    SwarmContext :=
  let totals : ℚ × ℕ :=
    match profileId with
    | some owner =>
        let stats := state.profileErrorStats.getD owner .default
        (stats.errorSum, stats.count)
    | none => (state.globalErrorSum, state.globalAssignmentCount)
  { slotCount := countSlots state.assignments.values
    slotErrors :=
      state.assignments.values.foldl
        (fun errors assignment =>
          if profileId.all fun owner => assignment.qosProfileId = owner then
            errors.upsert assignment.scheduledSlot [] (· ++ [assignment.error])
          else
            errors)
        ∅
    globalErrorSum := totals.1
    globalCount := totals.2 }

/-- Replace a committed assignment's predicted error by the measured one. -/
def correctAssignmentError (requestId : ℕ) (actualError : ℚ) : SharedState :=
  match state.assignments.lookup requestId with
  | none => state
  | some assignment =>
      let delta := actualError - assignment.error
      { state with
        assignments :=
          state.assignments.insert requestId
            { assignment with error := actualError }
        globalErrorSum := state.globalErrorSum + delta
        profileErrorStats :=
          state.profileErrorStats.adjust assignment.qosProfileId
            fun stats => GlobalErrorStats.refreshAverage
              { stats with errorSum := stats.errorSum + delta } }

/-- Replace a committed assignment's predicted carbon cost; returns the new
cost if there is such an assignment. -/
def correctAssignmentCarbonCost (requestId : ℕ) (actualCarbonCost : ℚ) :
    Option ℚ × SharedState :=
  match state.assignments.lookup requestId with
  | none => (none, state)
  | some assignment =>
      (some actualCarbonCost,
        { state with
          assignments :=
            state.assignments.insert requestId
              { assignment with carbonCost := actualCarbonCost } })

def setCurrentSlot (slot : ℤ) : SharedState :=
  { state with currentSlot := slot }

/-! ### Rollback-checked commit -/

/-- Would the slot land in a higher tier than the solver expected? -/
def breachesTier (assignments : List Assignment) (tiers : List CapacityTier)
    (slot expected : ℤ) : Bool :=
  let currentBefore : ℤ := slotOccupancy state.assignments.values slot
  let batchAdds : ℤ := slotOccupancy assignments slot
  let actualAfter := currentBefore + batchAdds
  decide (expected < actualAfter) &&
    decide (capacityMultiplierForCount expected tiers <
      capacityMultiplierForCount actualAfter tiers)

/-- Commit the assignments unless a slot breaches its tier; a forced commit
skips the check. -/
def tryAddAssignmentsChecked (assignments : List Assignment)
    (expectedPerSlot : Dictionary ℤ ℤ) (tiers : List CapacityTier)
    (forceCommit : Bool) (consecutiveBefore : ℕ) :
    CommitOutcome × SharedState :=
  if !forceCommit && expectedPerSlot.toPairs.any (fun entry =>
      state.breachesTier assignments tiers entry.1 entry.2) then
    (.rolledBack,
      { state with
        totalRollbacks := state.totalRollbacks + 1
        maxConsecutiveRollbacksSeen :=
          max state.maxConsecutiveRollbacksSeen (consecutiveBefore + 1) })
  else
    (.committed, state.addAssignments assignments)

def markRequestsRolledBack (requestIds : List ℕ) : SharedState :=
  { state with
    rolledBackRequestIds :=
      requestIds.foldl (fun known id => known.insert id)
        state.rolledBackRequestIds }

end SharedState

end Carbonshift
