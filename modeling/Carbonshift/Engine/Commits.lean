import Carbonshift.Engine.SharedState
import Carbonshift.Library.Ranking

/-!
# What the operations on the shared state change

Commits and corrections touch only the assignment map and the error totals.
A commit leaves the identifiers it does not mention alone, never changes the
profile a request counts for, and adds every new identifier exactly once.
-/

namespace Carbonshift

namespace SharedState

/-- The queue, the assignment map and the number of received requests agree. -/
structure SameWork (before after : SharedState) : Prop where
  pending_eq : after.pending = before.pending
  assignments_eq : after.assignments = before.assignments
  totalReceived_eq : after.totalReceived = before.totalReceived

variable {state : SharedState}

theorem SameWork.refl (state : SharedState) : SameWork state state :=
  ⟨rfl, rfl, rfl⟩

theorem sameWork_setCurrentSlot (slot : ℤ) :
    SameWork state (state.setCurrentSlot slot) := ⟨rfl, rfl, rfl⟩

theorem sameWork_initializeCapacityTiers (tiers : List CapacityTier) :
    SameWork state (state.initializeCapacityTiers tiers) := by
  unfold initializeCapacityTiers
  split
  · exact ⟨rfl, rfl, rfl⟩
  · exact SameWork.refl state

theorem sameWork_replaceCapacityTiers (tiers : List CapacityTier) :
    SameWork state (state.replaceCapacityTiers tiers) := ⟨rfl, rfl, rfl⟩

theorem sameWork_markRequestsRolledBack (requestIds : List ℕ) :
    SameWork state (state.markRequestsRolledBack requestIds) := ⟨rfl, rfl, rfl⟩

/-! ## Claims -/

/-- A claim splits the queue, loses nothing, and takes only the profile's
requests. -/
theorem splitClaim_spec (profileId : QosProfileId) (count : ℕ)
    (requests : List Request) :
    ((splitClaim profileId count requests).1 ++
        (splitClaim profileId count requests).2).Perm requests ∧
      ∀ request ∈ (splitClaim profileId count requests).1,
        request.qosProfileId = profileId := by
  induction requests generalizing count with
  | nil => cases count <;> exact ⟨List.Perm.refl _, by simp [splitClaim]⟩
  | cons request rest inductionHypothesis =>
      cases count with
      | zero => exact ⟨List.Perm.refl _, by simp [splitClaim]⟩
      | succ count =>
          rw [splitClaim]
          split
          · rename_i matching
            obtain ⟨keeps, own⟩ := inductionHypothesis count
            exact ⟨keeps.cons request,
              List.forall_mem_cons.mpr ⟨matching, own⟩⟩
          · obtain ⟨keeps, own⟩ := inductionHypothesis (count + 1)
            exact ⟨List.perm_middle.trans (keeps.cons request), own⟩

/-! ## Recording assignments -/

/-- The stored form of a decision: its profile is that of the first
commitment. -/
def stored (state : SharedState) (assignment : Assignment) : Assignment :=
  match state.assignments.lookup assignment.requestId with
  | some previous =>
      { assignment with qosProfileId := previous.qosProfileId }
  | none => assignment

theorem recordAssignment_assignments (assignment : Assignment) :
    (state.recordAssignment assignment).assignments =
      state.assignments.insert assignment.requestId (state.stored assignment) := by
  unfold recordAssignment stored
  cases state.assignments.lookup assignment.requestId <;> rfl

@[simp]
theorem recordAssignment_pending (assignment : Assignment) :
    (state.recordAssignment assignment).pending = state.pending := by
  unfold recordAssignment
  split <;> rfl

@[simp]
theorem recordAssignment_totalReceived (assignment : Assignment) :
    (state.recordAssignment assignment).totalReceived =
      state.totalReceived := by
  unfold recordAssignment
  split <;> rfl

@[simp]
theorem addAssignments_nil : state.addAssignments [] = state := rfl

@[simp]
theorem addAssignments_cons (assignment : Assignment)
    (assignments : List Assignment) :
    state.addAssignments (assignment :: assignments) =
      (state.recordAssignment assignment).addAssignments assignments := rfl

@[simp]
theorem addAssignments_pending (assignments : List Assignment) :
    (state.addAssignments assignments).pending = state.pending := by
  induction assignments generalizing state with
  | nil => rfl
  | cons assignment rest inductionHypothesis =>
      rw [addAssignments_cons, inductionHypothesis, recordAssignment_pending]

@[simp]
theorem addAssignments_totalReceived (assignments : List Assignment) :
    (state.addAssignments assignments).totalReceived =
      state.totalReceived := by
  induction assignments generalizing state with
  | nil => rfl
  | cons assignment rest inductionHypothesis =>
      rw [addAssignments_cons, inductionHypothesis,
        recordAssignment_totalReceived]

/-- Exactly the committed identifiers are added to the map. -/
theorem mem_addAssignments_iff
    {assignments : List Assignment} {requestId : ℕ} :
    requestId ∈ (state.addAssignments assignments).assignments ↔
      requestId ∈ assignmentIds assignments ∨
        requestId ∈ state.assignments := by
  induction assignments generalizing state with
  | nil => simp
  | cons assignment rest inductionHypothesis =>
      rw [addAssignments_cons, inductionHypothesis,
        recordAssignment_assignments, AList.mem_insert]
      simp only [assignmentIds, List.map_cons, List.mem_cons]
      tauto

/-- A commit leaves the identifiers it does not mention alone. -/
theorem lookup_addAssignments_of_absent
    {assignments : List Assignment} {requestId : ℕ}
    (absent : requestId ∉ assignmentIds assignments) :
    (state.addAssignments assignments).assignments.lookup requestId =
      state.assignments.lookup requestId := by
  induction assignments generalizing state with
  | nil => rfl
  | cons assignment rest inductionHypothesis =>
      simp only [assignmentIds, List.map_cons, List.mem_cons,
        not_or] at absent
      rw [addAssignments_cons, inductionHypothesis absent.2,
        recordAssignment_assignments, AList.lookup_insert_ne absent.1]

/-- A stored request keeps its profile. -/
theorem lookup_addAssignments_of_lookup
    {assignments : List Assignment} {requestId : ℕ} {previous : Assignment}
    (found : state.assignments.lookup requestId = some previous) :
    ∃ assignment,
      (state.addAssignments assignments).assignments.lookup requestId =
          some assignment ∧
        assignment.qosProfileId = previous.qosProfileId := by
  induction assignments generalizing state previous with
  | nil => exact ⟨previous, found, rfl⟩
  | cons assignment rest inductionHypothesis =>
      rw [addAssignments_cons]
      by_cases here : assignment.requestId = requestId
      · subst here
        have recorded :
            (state.recordAssignment assignment).assignments.lookup
              assignment.requestId = some (state.stored assignment) := by
          rw [recordAssignment_assignments, AList.lookup_insert]
        obtain ⟨last, lookedUp, profile⟩ := inductionHypothesis recorded
        refine ⟨last, lookedUp, ?_⟩
        rw [profile, stored, found]
      · exact inductionHypothesis
          (by rw [recordAssignment_assignments,
            AList.lookup_insert_ne (Ne.symm here), found])

/-- New assignments are stored as they are. -/
theorem lookup_addAssignments_of_fresh
    {assignments : List Assignment}
    (unique : (assignmentIds assignments).Nodup)
    (fresh : ∀ requestId ∈ assignmentIds assignments,
      requestId ∉ state.assignments)
    {assignment : Assignment} (member : assignment ∈ assignments) :
    (state.addAssignments assignments).assignments.lookup
      assignment.requestId = some assignment := by
  induction assignments generalizing state with
  | nil => cases member
  | cons first rest inductionHypothesis =>
      have distinct := List.nodup_cons.mp unique
      have absent := fresh first.requestId List.mem_cons_self
      rw [addAssignments_cons]
      rcases List.mem_cons.mp member with rfl | later
      · rw [lookup_addAssignments_of_absent distinct.1,
          recordAssignment_assignments, AList.lookup_insert, stored,
          AList.lookup_eq_none.mpr absent]
      · refine inductionHypothesis distinct.2 (fun requestId known => ?_) later
        rw [recordAssignment_assignments, AList.mem_insert]
        rintro (same | stored)
        · exact distinct.1 (same ▸ known)
        · exact fresh requestId (List.mem_cons_of_mem _ known) stored

/-- With new and distinct identifiers, a commit adds its decisions to the
stored ones. -/
theorem values_addAssignments
    {assignments : List Assignment}
    (unique : (assignmentIds assignments).Nodup)
    (fresh : ∀ requestId ∈ assignmentIds assignments,
      requestId ∉ state.assignments) :
    (state.addAssignments assignments).assignments.values.Perm
      (assignments ++ state.assignments.values) := by
  induction assignments generalizing state with
  | nil => exact List.Perm.refl _
  | cons assignment rest inductionHypothesis =>
      have distinct := List.nodup_cons.mp unique
      have absent := fresh assignment.requestId List.mem_cons_self
      have unstored : state.stored assignment = assignment := by
        unfold stored
        rw [AList.lookup_eq_none.mpr absent]
      have after :
          (state.recordAssignment assignment).assignments.values =
            assignment :: state.assignments.values := by
        rw [recordAssignment_assignments, unstored,
          Dictionary.values_insert_of_absent absent]
      rw [addAssignments_cons]
      refine (inductionHypothesis distinct.2 ?_).trans ?_
      · intro requestId member
        rw [recordAssignment_assignments, AList.mem_insert]
        rintro (same | known)
        · exact distinct.1 (same ▸ member)
        · exact fresh requestId (List.mem_cons_of_mem _ member) known
      · rw [after]
        exact List.perm_middle

/-! ## The checked commit -/

/-- A refused commit changes no assignment, an accepted one adds them. -/
theorem tryAddAssignmentsChecked_cases
    (assignments : List Assignment) (expectedPerSlot : Dictionary ℤ ℤ)
    (tiers : List CapacityTier) (forceCommit : Bool) (consecutiveBefore : ℕ) :
    ((state.tryAddAssignmentsChecked assignments expectedPerSlot tiers
          forceCommit consecutiveBefore).1 = .rolledBack ∧
        SameWork state
          (state.tryAddAssignmentsChecked assignments expectedPerSlot tiers
            forceCommit consecutiveBefore).2) ∨
      ((state.tryAddAssignmentsChecked assignments expectedPerSlot tiers
          forceCommit consecutiveBefore).1 = .committed ∧
        (state.tryAddAssignmentsChecked assignments expectedPerSlot tiers
          forceCommit consecutiveBefore).2 =
          state.addAssignments assignments) := by
  unfold tryAddAssignmentsChecked
  split
  · exact Or.inl ⟨rfl, rfl, rfl, rfl⟩
  · exact Or.inr ⟨rfl, rfl⟩

/-- An accepted commit adds the assignments and nothing else. -/
theorem tryAddAssignmentsChecked_of_committed
    {assignments : List Assignment} {expectedPerSlot : Dictionary ℤ ℤ}
    {tiers : List CapacityTier} {forceCommit : Bool} {consecutiveBefore : ℕ}
    (accepted : (state.tryAddAssignmentsChecked assignments expectedPerSlot
      tiers forceCommit consecutiveBefore).1 = .committed) :
    state.tryAddAssignmentsChecked assignments expectedPerSlot tiers
        forceCommit consecutiveBefore =
      (.committed, state.addAssignments assignments) := by
  rcases state.tryAddAssignmentsChecked_cases assignments expectedPerSlot
      tiers forceCommit consecutiveBefore with ⟨refused, _⟩ | ⟨_, stored⟩
  · rw [accepted] at refused
    cases refused
  · exact Prod.ext accepted stored

/-- An accepted commit that was not forced breaches no expected tier. -/
theorem not_breachesTier_of_committed
    {assignments : List Assignment} {expectedPerSlot : Dictionary ℤ ℤ}
    {tiers : List CapacityTier} {consecutiveBefore : ℕ}
    (accepted : (state.tryAddAssignmentsChecked assignments expectedPerSlot
      tiers false consecutiveBefore).1 = .committed)
    {slot expected : ℤ}
    (found : expectedPerSlot.lookup slot = some expected) :
    state.breachesTier assignments tiers slot expected = false := by
  unfold tryAddAssignmentsChecked at accepted
  split at accepted
  · cases accepted
  · rename_i unbreached
    by_contra breached
    refine unbreached ?_
    rw [Bool.not_false, Bool.true_and, List.any_eq_true]
    exact ⟨(slot, expected), Dictionary.mem_toPairs_iff.mpr found,
      by simpa using breached⟩

/-! ## Corrections -/

theorem correctAssignmentError_assignments
    (requestId : ℕ) (actualError : ℚ) :
    (state.correctAssignmentError requestId actualError).assignments =
      state.assignments.adjust requestId fun assignment =>
        { assignment with error := actualError } := by
  unfold correctAssignmentError Dictionary.adjust
  cases state.assignments.lookup requestId <;> rfl

theorem correctAssignmentCarbonCost_assignments
    (requestId : ℕ) (actualCarbonCost : ℚ) :
    (state.correctAssignmentCarbonCost requestId
        actualCarbonCost).2.assignments =
      state.assignments.adjust requestId fun assignment =>
        { assignment with carbonCost := actualCarbonCost } := by
  unfold correctAssignmentCarbonCost Dictionary.adjust
  cases state.assignments.lookup requestId <;> rfl

@[simp]
theorem correctAssignmentError_pending (requestId : ℕ) (actualError : ℚ) :
    (state.correctAssignmentError requestId actualError).pending =
      state.pending := by
  unfold correctAssignmentError
  split <;> rfl

@[simp]
theorem correctAssignmentError_totalReceived
    (requestId : ℕ) (actualError : ℚ) :
    (state.correctAssignmentError requestId actualError).totalReceived =
      state.totalReceived := by
  unfold correctAssignmentError
  split <;> rfl

@[simp]
theorem correctAssignmentCarbonCost_pending
    (requestId : ℕ) (actualCarbonCost : ℚ) :
    (state.correctAssignmentCarbonCost requestId actualCarbonCost).2.pending =
      state.pending := by
  unfold correctAssignmentCarbonCost
  split <;> rfl

@[simp]
theorem correctAssignmentCarbonCost_totalReceived
    (requestId : ℕ) (actualCarbonCost : ℚ) :
    (state.correctAssignmentCarbonCost requestId
        actualCarbonCost).2.totalReceived = state.totalReceived := by
  unfold correctAssignmentCarbonCost
  split <;> rfl

end SharedState

end Carbonshift
