import Carbonshift.Engine.Commits
import Carbonshift.Library.DictionarySums
import Mathlib.Tactic.Linarith

/-!
# Error totals

The totals are kept up to date by every commit and correction instead of being
computed from the assignments.  The counts always agree with the assignments;
the sums do so up to what replanned requests leave behind.
-/

namespace Carbonshift

/-! ## Errors of a profile -/

/-- Number of assignments of one profile. -/
def profileCount (profileId : QosProfileId) (assignments : List Assignment) :
    ℕ :=
  assignments.countP fun assignment => assignment.qosProfileId = profileId

/-- Sum of the errors of one profile's assignments. -/
def profileErrorSum (profileId : QosProfileId)
    (assignments : List Assignment) : ℚ :=
  (assignments.map fun assignment =>
    if assignment.qosProfileId = profileId then assignment.error else 0).sum

/-- Sum of all errors. -/
def totalErrorSum (assignments : List Assignment) : ℚ :=
  (assignments.map Assignment.error).sum

namespace SharedState

/-! ## Operations -/

/-- The public operations, each one critical section. -/
inductive Operation where
  | addRequest (request : Request)
  | addRequests (requests : List Request)
  | claimPendingRequestsForProfile (profileId : QosProfileId) (count : ℕ)
  | requeuePendingRequestsFront (requests : List Request)
  | addAssignments (assignments : List Assignment)
  | tryAddAssignmentsChecked (assignments : List Assignment)
      (expectedPerSlot : Dictionary ℤ ℤ) (tiers : List CapacityTier)
      (forceCommit : Bool) (consecutiveBefore : ℕ)
  | correctAssignmentError (requestId : ℕ) (actualError : ℚ)
  | correctAssignmentCarbonCost (requestId : ℕ) (actualCarbonCost : ℚ)
  | markRequestsRolledBack (requestIds : List ℕ)
  | setCurrentSlot (slot : ℤ)
  | initializeCapacityTiers (tiers : List CapacityTier)
  | replaceCapacityTiers (tiers : List CapacityTier)

/-- The state after an operation. -/
def perform (state : SharedState) : Operation → SharedState
  | .addRequest request => state.addRequest request
  | .addRequests requests => state.addRequests requests
  | .claimPendingRequestsForProfile profileId count =>
      (state.claimPendingRequestsForProfile profileId count).2
  | .requeuePendingRequestsFront requests =>
      state.requeuePendingRequestsFront requests
  | .addAssignments assignments => state.addAssignments assignments
  | .tryAddAssignmentsChecked assignments expectedPerSlot tiers forceCommit
      consecutiveBefore =>
      (state.tryAddAssignmentsChecked assignments expectedPerSlot tiers
        forceCommit consecutiveBefore).2
  | .correctAssignmentError requestId actualError =>
      state.correctAssignmentError requestId actualError
  | .correctAssignmentCarbonCost requestId actualCarbonCost =>
      (state.correctAssignmentCarbonCost requestId actualCarbonCost).2
  | .markRequestsRolledBack requestIds =>
      state.markRequestsRolledBack requestIds
  | .setCurrentSlot slot => state.setCurrentSlot slot
  | .initializeCapacityTiers tiers => state.initializeCapacityTiers tiers
  | .replaceCapacityTiers tiers => state.replaceCapacityTiers tiers

/-- The state after a sequence of operations on a new state. -/
def performAll (operations : List Operation) : SharedState :=
  operations.foldl perform new

/-- The assignments an operation records. -/
def recorded (state : SharedState) : Operation → List Assignment
  | .addAssignments assignments => assignments
  | .tryAddAssignmentsChecked assignments expectedPerSlot tiers forceCommit
      consecutiveBefore =>
      match (state.tryAddAssignmentsChecked assignments expectedPerSlot tiers
          forceCommit consecutiveBefore).1 with
      | .committed => assignments
      | .rolledBack => []
  | _ => []

/-- The error totals and the assignments are the same. -/
structure SameTotals (before after : SharedState) : Prop where
  assignments_eq : after.assignments = before.assignments
  totalScheduled_eq : after.totalScheduled = before.totalScheduled
  globalErrorSum_eq : after.globalErrorSum = before.globalErrorSum
  globalAssignmentCount_eq :
    after.globalAssignmentCount = before.globalAssignmentCount
  profileErrorStats_eq : after.profileErrorStats = before.profileErrorStats

variable {state : SharedState}

/-- What an operation does to the totals, and the assignments it records. -/
inductive TotalsEffect (state : SharedState) :
    SharedState → List Assignment → Prop where
  | same {after : SharedState} (same : SameTotals state after) :
      TotalsEffect state after []
  | recorded (assignments : List Assignment) :
      TotalsEffect state (state.addAssignments assignments) assignments
  | corrected (requestId : ℕ) (actualError : ℚ) :
      TotalsEffect state
        (state.correctAssignmentError requestId actualError) []
  | recosted (requestId : ℕ) (actualCarbonCost : ℚ) :
      TotalsEffect state
        (state.correctAssignmentCarbonCost requestId actualCarbonCost).2 []

theorem perform_effect (state : SharedState) (operation : Operation) :
    TotalsEffect state (state.perform operation)
      (state.recorded operation) := by
  cases operation with
  | addRequest request => exact .same ⟨rfl, rfl, rfl, rfl, rfl⟩
  | addRequests requests => exact .same ⟨rfl, rfl, rfl, rfl, rfl⟩
  | claimPendingRequestsForProfile profileId count =>
      exact .same ⟨rfl, rfl, rfl, rfl, rfl⟩
  | requeuePendingRequestsFront requests =>
      exact .same ⟨rfl, rfl, rfl, rfl, rfl⟩
  | addAssignments assignments => exact .recorded assignments
  | tryAddAssignmentsChecked assignments expectedPerSlot tiers forceCommit
      consecutiveBefore =>
      rw [perform, recorded, tryAddAssignmentsChecked]
      split
      · exact .same ⟨rfl, rfl, rfl, rfl, rfl⟩
      · exact .recorded assignments
  | correctAssignmentError requestId actualError =>
      exact .corrected requestId actualError
  | correctAssignmentCarbonCost requestId actualCarbonCost =>
      exact .recosted requestId actualCarbonCost
  | markRequestsRolledBack requestIds => exact .same ⟨rfl, rfl, rfl, rfl, rfl⟩
  | setCurrentSlot slot => exact .same ⟨rfl, rfl, rfl, rfl, rfl⟩
  | initializeCapacityTiers tiers =>
      rw [perform, initializeCapacityTiers]
      split <;> exact .same ⟨rfl, rfl, rfl, rfl, rfl⟩
  | replaceCapacityTiers tiers => exact .same ⟨rfl, rfl, rfl, rfl, rfl⟩

/-! ## Counts, sums and averages -/

/-- The totals agree with the assignments and with each other. -/
structure AggregatesAgree (state : SharedState) : Prop where
  scheduled : state.totalScheduled = state.assignments.keys.length
  assigned : state.globalAssignmentCount = state.assignments.keys.length
  profileCounts :
    (state.profileErrorStats.values.map GlobalErrorStats.count).sum =
      state.globalAssignmentCount
  profileCount : ∀ profileId,
    (state.profileErrorStats.getD profileId .default).count =
      Carbonshift.profileCount profileId state.assignments.values
  errorSums :
    (state.profileErrorStats.values.map GlobalErrorStats.errorSum).sum =
      state.globalErrorSum
  averages : ∀ profileId stats,
    state.profileErrorStats.lookup profileId = some stats →
      0 < stats.count ∧ stats.avg = stats.errorSum / stats.count

/-- The stored average is that of the stored sum and count. -/
private def Averaged (stats : GlobalErrorStats) : Prop :=
  0 < stats.count ∧ stats.avg = stats.errorSum / stats.count

private theorem averaged_refreshAverage {stats : GlobalErrorStats}
    (positive : 0 < stats.count) : Averaged stats.refreshAverage := by
  refine ⟨positive, ?_⟩
  rw [GlobalErrorStats.refreshAverage, if_pos positive]

private theorem averaged_adjust
    {table : Dictionary QosProfileId GlobalErrorStats}
    (change : GlobalErrorStats → GlobalErrorStats)
    (each : ∀ profileId stats, table.lookup profileId = some stats →
      Averaged stats)
    (keeps : ∀ stats, Averaged stats → Averaged (change stats))
    (profileId : QosProfileId) :
    ∀ other stats, (table.adjust profileId change).lookup other = some stats →
      Averaged stats := by
  intro other stats found
  by_cases here : other = profileId
  · subst here
    rw [Dictionary.lookup_adjust_self, Option.map_eq_some_iff] at found
    obtain ⟨earlier, stored, rfl⟩ := found
    exact keeps earlier (each other earlier stored)
  · rw [Dictionary.lookup_adjust_of_ne here] at found
    exact each other stats found

private theorem length_keys_insert_of_absent
    {table : Dictionary ℕ Assignment} {requestId : ℕ}
    (absent : requestId ∉ table) (assignment : Assignment) :
    (table.insert requestId assignment).keys.length = table.keys.length + 1 := by
  rw [AList.keys_insert, List.erase_of_not_mem absent, List.length_cons]

theorem recordAssignment_of_lookup {assignment previous : Assignment}
    (found : state.assignments.lookup assignment.requestId = some previous) :
    state.recordAssignment assignment =
      { state with
        profileErrorStats :=
          state.profileErrorStats.adjust previous.qosProfileId
            GlobalErrorStats.refreshAverage
        assignments :=
          state.assignments.insert assignment.requestId
            { assignment with qosProfileId := previous.qosProfileId } } := by
  rw [recordAssignment, found]

/-- The totals of a profile with one more assignment. -/
def counted (assignment : Assignment) (stats : GlobalErrorStats) :
    GlobalErrorStats :=
  GlobalErrorStats.refreshAverage
    { stats with
      errorSum := stats.errorSum + assignment.error
      count := stats.count + 1 }

theorem recordAssignment_of_missing {assignment : Assignment}
    (missing : state.assignments.lookup assignment.requestId = none) :
    state.recordAssignment assignment =
      { state with
        totalScheduled := state.totalScheduled + 1
        globalErrorSum := state.globalErrorSum + assignment.error
        globalAssignmentCount := state.globalAssignmentCount + 1
        profileErrorStats :=
          state.profileErrorStats.upsert assignment.qosProfileId .default
            (counted assignment)
        assignments :=
          state.assignments.insert assignment.requestId assignment } := by
  rw [recordAssignment, missing]
  rfl

/-- The totals of a profile whose error sum moved. -/
def moved (delta : ℚ) (stats : GlobalErrorStats) : GlobalErrorStats :=
  GlobalErrorStats.refreshAverage
    { stats with errorSum := stats.errorSum + delta }

theorem correctAssignmentError_of_lookup
    {requestId : ℕ} {assignment : Assignment} {actualError : ℚ}
    (found : state.assignments.lookup requestId = some assignment) :
    state.correctAssignmentError requestId actualError =
      { state with
        assignments :=
          state.assignments.adjust requestId fun earlier =>
            { earlier with error := actualError }
        globalErrorSum :=
          state.globalErrorSum + (actualError - assignment.error)
        profileErrorStats :=
          state.profileErrorStats.adjust assignment.qosProfileId
            (moved (actualError - assignment.error)) } := by
  rw [correctAssignmentError, Dictionary.adjust, found]
  rfl

theorem correctAssignmentCarbonCost_eq
    (requestId : ℕ) (actualCarbonCost : ℚ) :
    (state.correctAssignmentCarbonCost requestId actualCarbonCost).2 =
      { state with
        assignments :=
          state.assignments.adjust requestId fun earlier =>
            { earlier with carbonCost := actualCarbonCost } } := by
  rw [correctAssignmentCarbonCost, Dictionary.adjust]
  cases state.assignments.lookup requestId <;> rfl

/-- Adjusting an assignment moves it to no other profile. -/
private theorem profileCount_adjust
    (update : Assignment → Assignment)
    (keeps : ∀ assignment,
      (update assignment).qosProfileId = assignment.qosProfileId)
    (assignments : Dictionary ℕ Assignment) (requestId : ℕ)
    (profileId : QosProfileId) :
    profileCount profileId (assignments.adjust requestId update).values =
      profileCount profileId assignments.values := by
  have same := (Dictionary.map_values_adjust_perm keeps assignments
    requestId).countP_eq fun owner => decide (owner = profileId)
  rw [List.countP_map, List.countP_map] at same
  exact same

namespace AggregatesAgree

theorem new : AggregatesAgree SharedState.new :=
  ⟨rfl, rfl, rfl, fun _ => rfl, rfl, fun _ _ found => by cases found⟩

/-- Replacing an assignment keeps its profile, and all counts with it. -/
private theorem replace
    (agree : AggregatesAgree state) {assignment previous : Assignment}
    (found : state.assignments.lookup assignment.requestId = some previous) :
    AggregatesAgree (state.recordAssignment assignment) := by
  have keys : ((state.assignments.insert assignment.requestId
      { assignment with qosProfileId := previous.qosProfileId }).keys).length =
        state.assignments.keys.length := by
    rw [AList.keys_insert]
    exact (List.perm_cons_erase (AList.mem_keys.mp
      (Dictionary.mem_of_lookup found))).symm.length_eq
  obtain ⟨others, before, after⟩ := Dictionary.values_insert_of_lookup found
    { assignment with qosProfileId := previous.qosProfileId }
  have sameCount : ∀ stats : GlobalErrorStats,
      stats.refreshAverage.count = stats.count := fun _ => rfl
  have sameSum : ∀ stats : GlobalErrorStats,
      stats.refreshAverage.errorSum = stats.errorSum := fun _ => rfl
  rw [recordAssignment_of_lookup found]
  refine ⟨agree.scheduled.trans keys.symm, agree.assigned.trans keys.symm, ?_,
    fun profileId => ?_, ?_, ?_⟩
  · exact (Dictionary.map_values_adjust_perm sameCount _ _).sum_eq.trans
      agree.profileCounts
  · dsimp only
    rw [Dictionary.map_getD_adjust sameCount, agree.profileCount,
      Carbonshift.profileCount, Carbonshift.profileCount, after,
      before.countP_eq, List.countP_cons, List.countP_cons]
  · exact (Dictionary.map_values_adjust_perm sameSum _ _).sum_eq.trans
      agree.errorSums
  · exact averaged_adjust GlobalErrorStats.refreshAverage agree.averages
      (fun _ averaged => averaged_refreshAverage averaged.1) _

/-- A new assignment counts once, for its own profile. -/
private theorem add
    (agree : AggregatesAgree state) {assignment : Assignment}
    (missing : state.assignments.lookup assignment.requestId = none) :
    AggregatesAgree (state.recordAssignment assignment) := by
  have absent : assignment.requestId ∉ state.assignments :=
    AList.lookup_eq_none.mp missing
  have keys := length_keys_insert_of_absent absent assignment
  have none_ : GlobalErrorStats.default.count = 0 := rfl
  have nothing : GlobalErrorStats.default.errorSum = 0 := rfl
  rw [recordAssignment_of_missing missing]
  refine ⟨?_, ?_, ?_, fun profileId => ?_, ?_, ?_⟩
  · exact (congrArg (· + 1) agree.scheduled).trans keys.symm
  · exact (congrArg (· + 1) agree.assigned).trans keys.symm
  · have sums := Dictionary.sum_map_upsert none_ state.profileErrorStats
      assignment.qosProfileId (counted assignment)
    rw [agree.profileCounts] at sums
    simp only [counted, GlobalErrorStats.refreshAverage] at sums ⊢
    omega
  · dsimp only
    rw [Carbonshift.profileCount, Dictionary.values_insert_of_absent absent,
      List.countP_cons, ← Carbonshift.profileCount, ← agree.profileCount]
    by_cases own : profileId = assignment.qosProfileId
    · subst own
      rw [Dictionary.getD_upsert_self]
      simp [counted, GlobalErrorStats.refreshAverage]
    · rw [Dictionary.getD_upsert_of_ne own]
      simp [Ne.symm own]
  · have sums := Dictionary.sum_map_upsert nothing state.profileErrorStats
      assignment.qosProfileId (counted assignment)
    rw [agree.errorSums] at sums
    simp only [counted, GlobalErrorStats.refreshAverage] at sums ⊢
    linarith
  · intro profileId stats found
    by_cases own : profileId = assignment.qosProfileId
    · subst own
      rw [Dictionary.upsert, AList.lookup_insert] at found
      cases found
      exact averaged_refreshAverage (Nat.succ_pos _)
    · rw [Dictionary.upsert, AList.lookup_insert_ne own] at found
      exact agree.averages profileId stats found

private theorem addAssignments
    (agree : AggregatesAgree state) (assignments : List Assignment) :
    AggregatesAgree (state.addAssignments assignments) := by
  induction assignments generalizing state with
  | nil => exact agree
  | cons assignment rest inductionHypothesis =>
      rw [addAssignments_cons]
      refine inductionHypothesis ?_
      cases found : state.assignments.lookup assignment.requestId with
      | none => exact agree.add found
      | some previous => exact agree.replace found

/-- A profile with an assignment has an entry of its own. -/
theorem exists_stats
    (agree : AggregatesAgree state) {requestId : ℕ} {assignment : Assignment}
    (found : state.assignments.lookup requestId = some assignment) :
    ∃ stats,
      state.profileErrorStats.lookup assignment.qosProfileId = some stats := by
  have counts := agree.profileCount assignment.qosProfileId
  have counted : 0 < Carbonshift.profileCount assignment.qosProfileId
      state.assignments.values :=
    List.countP_pos_iff.mpr
      ⟨assignment, Dictionary.mem_values_iff.mpr ⟨requestId, found⟩, by simp⟩
  cases stored :
      state.profileErrorStats.lookup assignment.qosProfileId with
  | some stats => exact ⟨stats, rfl⟩
  | none =>
      rw [Dictionary.getD, stored] at counts
      have absent : GlobalErrorStats.default.count = 0 := rfl
      simp only [Option.getD_none] at counts
      omega

/-- A correction moves a sum of the fleet and of one profile alike. -/
private theorem correctAssignmentError
    (agree : AggregatesAgree state) (requestId : ℕ) (actualError : ℚ) :
    AggregatesAgree (state.correctAssignmentError requestId actualError) := by
  cases found : state.assignments.lookup requestId with
  | none =>
      rw [SharedState.correctAssignmentError, found]
      exact agree
  | some assignment =>
      obtain ⟨stats, stored⟩ := agree.exists_stats found
      have sums := Dictionary.sum_map_adjust stored GlobalErrorStats.errorSum
        (moved (actualError - assignment.error))
      have sameCount : ∀ stats : GlobalErrorStats,
          (moved (actualError - assignment.error) stats).count =
            stats.count := fun _ => rfl
      have keys := Dictionary.keys_adjust_perm state.assignments requestId
        fun earlier => { earlier with error := actualError }
      rw [agree.errorSums] at sums
      rw [correctAssignmentError_of_lookup found]
      refine ⟨?_, ?_, ?_, fun profileId => ?_, ?_, ?_⟩
      · exact agree.scheduled.trans keys.length_eq.symm
      · exact agree.assigned.trans keys.length_eq.symm
      · exact (Dictionary.map_values_adjust_perm sameCount _ _).sum_eq.trans
          agree.profileCounts
      · dsimp only
        rw [Dictionary.map_getD_adjust sameCount, agree.profileCount]
        exact (profileCount_adjust
          (fun earlier => { earlier with error := actualError })
          (fun _ => rfl) _ _ _).symm
      · simp only [moved, GlobalErrorStats.refreshAverage] at sums ⊢
        linarith
      · exact averaged_adjust (moved (actualError - assignment.error))
          agree.averages
          (fun _ averaged => averaged_refreshAverage averaged.1) _

/-- A cost is no part of the totals. -/
private theorem correctAssignmentCarbonCost
    (agree : AggregatesAgree state) (requestId : ℕ) (actualCarbonCost : ℚ) :
    AggregatesAgree
      (state.correctAssignmentCarbonCost requestId actualCarbonCost).2 := by
  have keys := Dictionary.keys_adjust_perm state.assignments requestId
    fun earlier => { earlier with carbonCost := actualCarbonCost }
  rw [correctAssignmentCarbonCost_eq]
  refine ⟨agree.scheduled.trans keys.length_eq.symm,
    agree.assigned.trans keys.length_eq.symm, agree.profileCounts,
    fun profileId => ?_, agree.errorSums, agree.averages⟩
  exact (agree.profileCount profileId).trans
    (profileCount_adjust
      (fun earlier => { earlier with carbonCost := actualCarbonCost })
      (fun _ => rfl) _ _ _).symm

theorem of_same
    {after : SharedState} (agree : AggregatesAgree state)
    (same : SameTotals state after) : AggregatesAgree after := by
  obtain ⟨assignments, scheduled, errorSum, count, stats⟩ := same
  constructor
  · rw [scheduled, assignments]
    exact agree.scheduled
  · rw [count, assignments]
    exact agree.assigned
  · rw [stats, count]
    exact agree.profileCounts
  · rw [stats, assignments]
    exact agree.profileCount
  · rw [stats, errorSum]
    exact agree.errorSums
  · rw [stats]
    exact agree.averages

theorem step
    {after : SharedState} {assignments : List Assignment}
    (agree : AggregatesAgree state)
    (effect : TotalsEffect state after assignments) :
    AggregatesAgree after := by
  cases effect with
  | same same => exact agree.of_same same
  | recorded => exact agree.addAssignments assignments
  | corrected requestId actualError =>
      exact agree.correctAssignmentError requestId actualError
  | recosted requestId actualCarbonCost =>
      exact agree.correctAssignmentCarbonCost requestId actualCarbonCost

theorem of_foldl
    (agree : AggregatesAgree state) (operations : List Operation) :
    AggregatesAgree (operations.foldl perform state) := by
  induction operations generalizing state with
  | nil => exact agree
  | cons operation rest inductionHypothesis =>
      exact inductionHypothesis (agree.step (perform_effect state operation))

end AggregatesAgree

/-- The counts, the error sums and the stored averages agree with the
assignments after any operations. -/
theorem performAll_aggregates_agree (operations : List Operation) :
    AggregatesAgree (performAll operations) :=
  AggregatesAgree.new.of_foldl operations

end SharedState

end Carbonshift
