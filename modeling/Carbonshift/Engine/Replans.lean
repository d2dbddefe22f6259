import Carbonshift.Engine.Aggregates
import Mathlib.Tactic.Ring

/-!
# Replanned errors

Replacing an assignment leaves the error sums alone, while its correction
subtracts the error stored last.  The sums therefore keep the difference of
every replaced error.
-/

namespace Carbonshift

namespace SharedState

/-! ## Errors left behind -/

/-- The error a profile's sum keeps when an assignment is replaced. -/
def replacedError (profileId : QosProfileId) (state : SharedState)
    (assignment : Assignment) : ℚ :=
  match state.assignments.lookup assignment.requestId with
  | some previous =>
      if previous.qosProfileId = profileId then
        previous.error - assignment.error
      else
        0
  | none => 0

/-- The errors a profile's sum keeps when assignments are recorded. -/
def replacedErrors (profileId : QosProfileId) :
    SharedState → List Assignment → ℚ
  | _, [] => 0
  | state, assignment :: rest =>
      state.replacedError profileId assignment +
        replacedErrors profileId (state.recordAssignment assignment) rest

/-- Stored less replacing errors over all replacements of a sequence of
operations. -/
def replanningLoss (profileId : QosProfileId) :
    SharedState → List Operation → ℚ
  | _, [] => 0
  | state, operation :: rest =>
      replacedErrors profileId state (state.recorded operation) +
        replanningLoss profileId (state.perform operation) rest

/-- The identifiers whose latest assignment awaits its measured error. -/
def awaitingCorrection : SharedState → List ℕ → List Operation → List ℕ
  | _, awaiting, [] => awaiting
  | state, awaiting, operation :: rest =>
      let added := assignmentIds (state.recorded operation) ++ awaiting
      awaitingCorrection (state.perform operation)
        (match operation with
        | .correctAssignmentError requestId _ =>
            added.filter fun waiting => decide (waiting ≠ requestId)
        | _ => added)
        rest

/-- Every error sum is the sum of the stored errors. -/
structure ErrorSumsAgree (state : SharedState) : Prop where
  fleet : state.globalErrorSum = totalErrorSum state.assignments.values
  profiles : ∀ profileId,
    (state.profileErrorStats.getD profileId .default).errorSum =
      profileErrorSum profileId state.assignments.values

/-- What a profile's error sum exceeds the stored errors by. -/
def excess (profileId : QosProfileId) (state : SharedState) : ℚ :=
  (state.profileErrorStats.getD profileId .default).errorSum -
    profileErrorSum profileId state.assignments.values

variable {state : SharedState} {profileId : QosProfileId}

/-! ## One operation -/

/-- The error an assignment counts for in a profile. -/
private def countedError (profileId : QosProfileId) (assignment : Assignment) :
    ℚ :=
  if assignment.qosProfileId = profileId then assignment.error else 0

private theorem profileErrorSum_eq (assignments : List Assignment) :
    profileErrorSum profileId assignments =
      (assignments.map (countedError profileId)).sum := rfl

private theorem countedError_of_eq {assignment : Assignment}
    (own : assignment.qosProfileId = profileId) :
    countedError profileId assignment = assignment.error := if_pos own

private theorem countedError_of_ne {assignment : Assignment}
    (other : assignment.qosProfileId ≠ profileId) :
    countedError profileId assignment = 0 := if_neg other

private theorem excess_recordAssignment (assignment : Assignment) :
    excess profileId (state.recordAssignment assignment) =
      excess profileId state + replacedError profileId state assignment := by
  have sameSum : ∀ stats : GlobalErrorStats,
      stats.refreshAverage.errorSum = stats.errorSum := fun _ => rfl
  cases found : state.assignments.lookup assignment.requestId with
  | some previous =>
      have sums := Dictionary.sum_map_insert_of_lookup found
        (countedError profileId)
        { assignment with qosProfileId := previous.qosProfileId }
      rw [recordAssignment_of_lookup found]
      simp only [excess, replacedError, found, profileErrorSum_eq]
      rw [Dictionary.map_getD_adjust sameSum]
      by_cases own : previous.qosProfileId = profileId
      · have replacing : countedError profileId
            { assignment with qosProfileId := previous.qosProfileId } =
              assignment.error := countedError_of_eq own
        rw [countedError_of_eq own, replacing] at sums
        rw [if_pos own]
        linarith
      · have replacing : countedError profileId
            { assignment with qosProfileId := previous.qosProfileId } = 0 :=
          countedError_of_ne own
        rw [countedError_of_ne own, replacing] at sums
        rw [if_neg own]
        linarith
  | none =>
      have sums := Dictionary.sum_map_insert_of_absent
        (AList.lookup_eq_none.mp found) (countedError profileId) assignment
      rw [recordAssignment_of_missing found]
      simp only [excess, replacedError, found, profileErrorSum_eq, sums]
      by_cases own : assignment.qosProfileId = profileId
      · subst own
        rw [Dictionary.getD_upsert_self, countedError_of_eq rfl, counted,
          GlobalErrorStats.refreshAverage]
        ring
      · rw [Dictionary.getD_upsert_of_ne (Ne.symm own),
          countedError_of_ne own]
        ring

private theorem excess_addAssignments (assignments : List Assignment) :
    excess profileId (state.addAssignments assignments) =
      excess profileId state + replacedErrors profileId state assignments := by
  induction assignments generalizing state with
  | nil => exact (add_zero _).symm
  | cons assignment rest inductionHypothesis =>
      rw [addAssignments_cons, inductionHypothesis, excess_recordAssignment,
        replacedErrors, add_assoc]

/-- A correction moves the sum and the stored error by the same amount. -/
private theorem excess_correctAssignmentError
    (agree : AggregatesAgree state) (requestId : ℕ) (actualError : ℚ) :
    excess profileId (state.correctAssignmentError requestId actualError) =
      excess profileId state := by
  cases found : state.assignments.lookup requestId with
  | none => rw [correctAssignmentError, found]
  | some assignment =>
      obtain ⟨stats, stored⟩ := agree.exists_stats found
      have sums := Dictionary.sum_map_adjust found (countedError profileId)
        fun earlier => { earlier with error := actualError }
      rw [correctAssignmentError_of_lookup found]
      simp only [excess, profileErrorSum_eq]
      by_cases own : assignment.qosProfileId = profileId
      · have measured : countedError profileId
            { assignment with error := actualError } = actualError :=
          countedError_of_eq own
        have movedSum : (moved (actualError - assignment.error) stats).errorSum =
            stats.errorSum + (actualError - assignment.error) := rfl
        rw [countedError_of_eq own, measured] at sums
        subst own
        rw [Dictionary.getD_adjust_self stored,
          Dictionary.getD_of_lookup stored, movedSum]
        linarith
      · rw [Dictionary.getD_adjust_of_ne (Ne.symm own)]
        have measured : countedError profileId
            { assignment with error := actualError } = 0 :=
          countedError_of_ne own
        rw [countedError_of_ne own, measured] at sums
        linarith

private theorem excess_correctAssignmentCarbonCost
    (requestId : ℕ) (actualCarbonCost : ℚ) :
    excess profileId
        (state.correctAssignmentCarbonCost requestId actualCarbonCost).2 =
      excess profileId state := by
  have unchanged : ∀ assignment : Assignment,
      countedError profileId { assignment with carbonCost := actualCarbonCost } =
        countedError profileId assignment := fun _ => rfl
  rw [correctAssignmentCarbonCost_eq, excess, excess]
  exact congrArg _ (Dictionary.map_values_adjust_perm unchanged
    state.assignments requestId).sum_eq

/-- Only replaced assignments change what a sum exceeds the errors by. -/
theorem excess_step
    {after : SharedState} {assignments : List Assignment}
    (agree : AggregatesAgree state)
    (effect : TotalsEffect state after assignments) :
    excess profileId after =
      excess profileId state + replacedErrors profileId state assignments := by
  cases effect with
  | same same =>
      rw [replacedErrors, add_zero, excess, excess,
        same.profileErrorStats_eq, same.assignments_eq]
  | recorded => exact excess_addAssignments assignments
  | corrected requestId actualError =>
      rw [replacedErrors, add_zero,
        excess_correctAssignmentError agree requestId actualError]
  | recosted requestId actualCarbonCost =>
      rw [replacedErrors, add_zero,
        excess_correctAssignmentCarbonCost requestId actualCarbonCost]

private theorem excess_foldl
    (agree : AggregatesAgree state) (operations : List Operation) :
    excess profileId (operations.foldl perform state) =
      excess profileId state + replanningLoss profileId state operations := by
  induction operations generalizing state with
  | nil => exact (add_zero _).symm
  | cons operation rest inductionHypothesis =>
      have effect := perform_effect state operation
      rw [List.foldl_cons, inductionHypothesis (agree.step effect),
        excess_step agree effect, replanningLoss, add_assoc]

/-! ## All sums -/

/-- The sum of the fleet agrees as soon as that of every profile does. -/
private theorem fleet_of_profiles
    (agree : AggregatesAgree state)
    (profiles : ∀ profileId,
      (state.profileErrorStats.getD profileId .default).errorSum =
        profileErrorSum profileId state.assignments.values) :
    state.globalErrorSum = totalErrorSum state.assignments.values := by
  have covered : ∀ assignment ∈ state.assignments.values,
      assignment.qosProfileId ∈ state.profileErrorStats.keys := by
    intro assignment member
    obtain ⟨requestId, found⟩ := Dictionary.mem_values_iff.mp member
    obtain ⟨stats, stored⟩ := agree.exists_stats found
    exact AList.mem_keys.mp (Dictionary.mem_of_lookup stored)
  calc state.globalErrorSum
      = (state.profileErrorStats.values.map GlobalErrorStats.errorSum).sum :=
        agree.errorSums.symm
    _ = (state.profileErrorStats.keys.map fun profileId =>
          profileErrorSum profileId state.assignments.values).sum := by
        rw [Dictionary.map_values_eq_map_keys _ _ .default]
        exact congrArg List.sum (List.map_congr_left fun key _ => profiles key)
    _ = totalErrorSum state.assignments.values :=
        List.sum_map_sum_groups Assignment.qosProfileId Assignment.error
          (AList.keys_nodup _) covered

/-- After any operations the error sums agree with the stored errors exactly
when the errors replaced by replanning cancel in every profile. -/
theorem error_sums_agree_iff_no_loss (operations : List Operation) :
    ErrorSumsAgree (performAll operations) ↔
      ∀ profileId, replanningLoss profileId new operations = 0 := by
  have agree := performAll_aggregates_agree operations
  have loss : ∀ profileId, excess profileId (performAll operations) =
      replanningLoss profileId new operations := by
    intro profileId
    have start : excess profileId new = 0 := sub_self (0 : ℚ)
    rw [performAll, excess_foldl AggregatesAgree.new, start, zero_add]
  constructor
  · intro sums profileId
    rw [← loss, excess, sums.profiles, sub_self]
  · intro lossless
    have profiles := fun profileId =>
      sub_eq_zero.mp ((loss profileId).trans (lossless profileId))
    exact ⟨fleet_of_profiles agree profiles, profiles⟩

/-- One request, planned at error 4, replanned at error 0 and measured at
error 3. -/
def replannedRun : List Operation :=
  [.addAssignments [.new 1 0 "Fast" 1 4 10 none none],
    .addAssignments [.new 1 1 "Accurate" 1 0 60 none none],
    .correctAssignmentError 1 3]

/-- A replanned and then measured request leaves a wrong error sum behind. -/
theorem replanned_error_sums_differ :
    ¬ ∀ operations : List Operation,
        awaitingCorrection new [] operations = [] →
          ErrorSumsAgree (performAll operations) := by
  intro agree
  have sums := (agree replannedRun (by decide +kernel)).fleet
  exact absurd sums (by decide +kernel)

end SharedState

end Carbonshift
