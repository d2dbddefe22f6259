import Carbonshift.Engine.Aggregates
import Carbonshift.Engine.Preparation
import Carbonshift.Engine.Scheduler

/-!
# What a tally counts

A batch prices its requests through a tally of the placements before it.  The
tally may have been carried along, or rebuilt from the committed state in the
order of a hash map: only the placements matter.
-/

namespace Carbonshift

/-- The errors that were placed in a slot. -/
def errorsIn (slot : ℤ) (assignments : List Assignment) : List ℚ :=
  (assignments.filter fun assignment =>
    decide (assignment.scheduledSlot = slot)).map Assignment.error

/-- The tally is that of the assignments, in whatever order they came. -/
structure SwarmTally.Counts (tally : SwarmTally)
    (assignments : List Assignment) : Prop where
  slotCount_eq : ∀ slot,
    tally.slotCount.getD slot 0 = slotOccupancy assignments slot
  slotErrors_perm : ∀ slot,
    (tally.slotErrors.getD slot []).Perm (errorsIn slot assignments)
  globalErrorSum_eq :
    tally.globalErrorSum = (assignments.map Assignment.error).sum
  globalCount_eq : tally.globalCount = assignments.length

namespace SwarmTally.Counts

variable {tally other : SwarmTally} {assignments : List Assignment}

/-- Placing an assignment counts it. -/
theorem place_assignment (counts : tally.Counts assignments)
    {assignment : Assignment} {slot : ℤ} {flavour : Flavour}
    (slot_eq : assignment.scheduledSlot = slot)
    (error_eq : assignment.error = flavour.error) :
    (tally.place slot flavour).Counts (assignments ++ [assignment]) := by
  subst slot_eq
  refine ⟨fun position => ?_, fun position => ?_, ?_, ?_⟩
  · rw [SwarmTally.place, slotOccupancy_append]
    by_cases here : position = assignment.scheduledSlot
    · subst here
      rw [Dictionary.getD_upsert_self, counts.slotCount_eq]
      simp [slotOccupancy]
    · rw [Dictionary.getD_upsert_of_ne here, counts.slotCount_eq]
      simp [slotOccupancy, Ne.symm here]
  · have errors : errorsIn position (assignments ++ [assignment]) =
        errorsIn position assignments ++
          if assignment.scheduledSlot = position then [flavour.error]
          else [] := by
      rw [errorsIn, List.filter_append, List.map_append]
      by_cases here : assignment.scheduledSlot = position
      · simp [here, errorsIn, error_eq]
      · simp [here, errorsIn]
    rw [SwarmTally.place, errors]
    by_cases here : position = assignment.scheduledSlot
    · subst here
      rw [Dictionary.getD_upsert_self, if_pos rfl]
      exact (counts.slotErrors_perm _).append_right _
    · rw [Dictionary.getD_upsert_of_ne here, if_neg (Ne.symm here),
        List.append_nil]
      exact counts.slotErrors_perm position
  · simp [SwarmTally.place, counts.globalErrorSum_eq, error_eq]
  · simp [SwarmTally.place, counts.globalCount_eq]

theorem place (counts : tally.Counts assignments) (request : Request)
    (slot : ℤ) (flavour : Flavour) (cost : ℚ) :
    (tally.place slot flavour).Counts
      (assignments ++ [makeAssignment request slot flavour cost]) :=
  counts.place_assignment rfl rfl

/-! ### Tallies of the same placements -/

theorem slotCost_eq (counts : tally.Counts assignments)
    (same : other.Counts assignments) (policy : AssignmentPolicy)
    (carbonForecast : List ℚ) (slot : ℤ) (flavour : Flavour) :
    slotCost policy carbonForecast tally slot flavour =
      slotCost policy carbonForecast other slot flavour := by
  unfold slotCost
  rw [counts.slotCount_eq, same.slotCount_eq]

theorem swarmFeasible_eq (counts : tally.Counts assignments)
    (same : other.Counts assignments) (policy : AssignmentPolicy) (slot : ℤ)
    (flavour : Flavour) :
    swarmFeasible policy tally slot flavour =
      swarmFeasible policy other slot flavour := by
  have perm : ∀ position, (tally.slotErrors.getD position []).Perm
      (other.slotErrors.getD position []) := fun position =>
    (counts.slotErrors_perm position).trans
      (same.slotErrors_perm position).symm
  have sums : ∀ position, (tally.slotErrors.getD position []).sum =
      (other.slotErrors.getD position []).sum := fun position =>
    (perm position).sum_eq
  have lengths : ∀ position, (tally.slotErrors.getD position []).length =
      (other.slotErrors.getD position []).length := fun position =>
    (perm position).length_eq
  unfold swarmFeasible
  simp only [List.map_map, Function.comp_def, sums, lengths,
    counts.globalErrorSum_eq, same.globalErrorSum_eq, counts.globalCount_eq,
    same.globalCount_eq]

/-- The flavour and its price depend on the counted placements only. -/
theorem pickFlavour_eq (counts : tally.Counts assignments)
    (same : other.Counts assignments) (policy : AssignmentPolicy)
    (carbonForecast : List ℚ) (slot : ℤ) (fallback : Flavour) :
    pickFlavour policy carbonForecast tally slot fallback =
      pickFlavour policy carbonForecast other slot fallback := by
  have feasible : swarmFeasible policy tally slot =
      swarmFeasible policy other slot :=
    funext (counts.swarmFeasible_eq same policy slot)
  have priced : slotCost policy carbonForecast tally slot =
      slotCost policy carbonForecast other slot :=
    funext (counts.slotCost_eq same policy carbonForecast slot)
  unfold pickFlavour pickFeasibleFlavour
  rw [feasible, priced]

/-- Reordering the assignments, or counting them for another profile, changes
no tally. -/
theorem of_perm_ownedBy {stored : List Assignment}
    (counts : tally.Counts stored) (profileId : QosProfileId)
    (same : stored.Perm (Engine.ownedBy profileId assignments)) :
    tally.Counts assignments := by
  refine ⟨fun slot => ?_, fun slot => ?_, ?_, ?_⟩
  · rw [counts.slotCount_eq, slotOccupancy, same.countP_eq, Engine.ownedBy,
      List.countP_map]
    rfl
  · refine (counts.slotErrors_perm slot).trans ?_
    refine ((same.filter _).map _).trans (List.Perm.of_eq ?_)
    rw [Engine.ownedBy, List.filter_map, List.map_map, errorsIn]
    rfl
  · rw [counts.globalErrorSum_eq, (same.map _).sum_eq, Engine.ownedBy,
      List.map_map]
    rfl
  · rw [counts.globalCount_eq, same.length_eq, Engine.ownedBy,
      List.length_map]

end SwarmTally.Counts

/-! ## The committed state of a single profile -/

/-- Exactly these assignments were committed, all for one profile. -/
structure CommittedFor (profileId : QosProfileId) (shared : SharedState)
    (assignments : List Assignment) : Prop where
  values_perm : shared.assignments.values.Perm
    (Engine.ownedBy profileId assignments)
  stored_iff : ∀ requestId,
    requestId ∈ shared.assignments ↔ requestId ∈ assignmentIds assignments
  errorSum_eq :
    (shared.profileErrorStats.getD profileId .default).errorSum =
      (assignments.map Assignment.error).sum
  count_eq :
    (shared.profileErrorStats.getD profileId .default).count =
      assignments.length

namespace CommittedFor

variable {profileId : QosProfileId} {shared : SharedState}
variable {assignments : List Assignment}

theorem new (profileId : QosProfileId) :
    CommittedFor profileId SharedState.new [] :=
  ⟨List.Perm.refl _, fun _ => by simp [SharedState.new], rfl, rfl⟩

/-- A first commitment is counted. -/
theorem record (committed : CommittedFor profileId shared assignments)
    {assignment : Assignment}
    (fresh : assignment.requestId ∉ assignmentIds assignments) :
    CommittedFor profileId
      (shared.recordAssignment { assignment with qosProfileId := profileId })
      (assignments ++ [assignment]) := by
  have absent : assignment.requestId ∉ shared.assignments := fun stored =>
    fresh ((committed.stored_iff _).mp stored)
  have missing : shared.assignments.lookup
      ({ assignment with qosProfileId := profileId } :
        Assignment).requestId = none :=
    AList.lookup_eq_none.mpr absent
  rw [SharedState.recordAssignment_of_missing missing]
  refine ⟨?_, fun requestId => ?_, ?_, ?_⟩
  · dsimp only
    rw [Dictionary.values_insert_of_absent absent, Engine.ownedBy,
      List.map_append]
    exact (committed.values_perm.cons _).trans
      (List.perm_append_singleton _ _).symm
  · dsimp only
    rw [AList.mem_insert, committed.stored_iff]
    simp [or_comm]
  · dsimp only
    rw [Dictionary.getD_upsert_self]
    simp [SharedState.counted, GlobalErrorStats.refreshAverage,
      committed.errorSum_eq]
  · dsimp only
    rw [Dictionary.getD_upsert_self]
    simp [SharedState.counted, GlobalErrorStats.refreshAverage,
      committed.count_eq]

/-- A commit adds its assignments to those before it. -/
theorem addAssignments (committed : CommittedFor profileId shared assignments)
    (more : List Assignment)
    (distinct : (assignmentIds (assignments ++ more)).Nodup) :
    CommittedFor profileId
      (shared.addAssignments (Engine.ownedBy profileId more))
      (assignments ++ more) := by
  induction more generalizing shared assignments with
  | nil =>
      rw [List.append_nil]
      exact committed
  | cons assignment rest inductionHypothesis =>
      have fresh : assignment.requestId ∉ assignmentIds assignments := by
        rw [assignmentIds, List.map_append] at distinct
        intro earlier
        exact List.disjoint_of_nodup_append distinct earlier
          List.mem_cons_self
      rw [List.append_cons] at distinct ⊢
      exact inductionHypothesis (committed.record fresh) distinct

/-- The errors that the snapshot collects for a slot. -/
private theorem getD_foldl_errors (owner : QosProfileId)
    (assignments : List Assignment)
    (owned : ∀ assignment ∈ assignments, assignment.qosProfileId = owner)
    (errors : Dictionary ℤ (List ℚ)) (slot : ℤ) :
    (assignments.foldl
        (fun errors assignment =>
          if (some owner).all fun owner =>
              assignment.qosProfileId = owner then
            errors.upsert assignment.scheduledSlot [] (· ++ [assignment.error])
          else
            errors)
        errors).getD slot [] =
      errors.getD slot [] ++ errorsIn slot assignments := by
  induction assignments generalizing errors with
  | nil => simp [errorsIn]
  | cons assignment rest inductionHypothesis =>
      have own : assignment.qosProfileId = owner :=
        owned assignment List.mem_cons_self
      rw [List.foldl_cons, inductionHypothesis fun other member =>
        owned other (List.mem_cons_of_mem _ member)]
      simp only [own, Option.all_some, decide_true, if_true]
      by_cases here : assignment.scheduledSlot = slot
      · subst here
        rw [Dictionary.getD_upsert_self]
        simp [errorsIn]
      · rw [Dictionary.getD_upsert_of_ne (Ne.symm here)]
        simp [errorsIn, here]

/-- The snapshot tallies what was committed. -/
theorem counts (committed : CommittedFor profileId shared assignments) :
    (shared.swarmContextSnapshotForProfile
      (some profileId)).tally.Counts assignments := by
  have owned : ∀ assignment ∈ shared.assignments.values,
      assignment.qosProfileId = profileId := by
    intro assignment member
    obtain ⟨_, _, rfl⟩ :=
      List.mem_map.mp (committed.values_perm.mem_iff.mp member)
    rfl
  have stored : (shared.swarmContextSnapshotForProfile
      (some profileId)).tally.Counts shared.assignments.values := by
    refine ⟨fun slot => ?_, fun slot => ?_, ?_, ?_⟩
    · exact getD_countSlots _ slot
    · exact List.Perm.of_eq (getD_foldl_errors profileId _ owned ∅ slot)
    · refine committed.errorSum_eq.trans ?_
      rw [(committed.values_perm.map _).sum_eq, Engine.ownedBy, List.map_map]
      rfl
    · refine committed.count_eq.trans ?_
      rw [committed.values_perm.length_eq, Engine.ownedBy, List.length_map]
  exact stored.of_perm_ownedBy profileId committed.values_perm

end CommittedFor

end Carbonshift
