import Carbonshift.Engine.Solve
import Carbonshift.Library.Ranking

/-!
# What the preamble hands to a strategy

The requests of a prepared batch are its pending requests, followed by the
future assignments that may move.  Everything else in the future is baseline
load, and every request keeps the flavours of its own profile.
-/

namespace Carbonshift

/-! ## Occupancy -/

theorem slotOccupancy_eq_of_perm
    {assignments others : List Assignment} (same : assignments.Perm others)
    (slot : ℤ) : slotOccupancy assignments slot = slotOccupancy others slot :=
  same.countP_eq _

theorem slotOccupancy_append (assignments others : List Assignment) (slot : ℤ) :
    slotOccupancy (assignments ++ others) slot =
      slotOccupancy assignments slot + slotOccupancy others slot :=
  List.countP_append

theorem slotOccupancy_cons
    (assignment : Assignment) (assignments : List Assignment) (slot : ℤ) :
    slotOccupancy (assignment :: assignments) slot =
      slotOccupancy assignments slot +
        if assignment.scheduledSlot = slot then 1 else 0 := by
  simp [slotOccupancy, List.countP_cons]

private theorem getD_foldl_upsert
    (assignments : List Assignment) (counts : Dictionary ℤ ℤ) (slot : ℤ) :
    (assignments.foldl
        (fun counts assignment =>
          counts.upsert assignment.scheduledSlot 0 (· + 1))
        counts).getD slot 0 =
      counts.getD slot 0 + slotOccupancy assignments slot := by
  induction assignments generalizing counts with
  | nil => simp [slotOccupancy]
  | cons assignment rest inductionHypothesis =>
      rw [List.foldl_cons, inductionHypothesis, slotOccupancy_cons]
      by_cases here : assignment.scheduledSlot = slot
      · subst here
        rw [Dictionary.getD_upsert_self]
        push_cast
        simp only [if_true]
        omega
      · rw [Dictionary.getD_upsert_of_ne (Ne.symm here)]
        simp [here]

/-- The counted slots are the occupancy. -/
@[simp]
theorem getD_countSlots (assignments : List Assignment) (slot : ℤ) :
    (SharedState.countSlots assignments).getD slot 0 =
      slotOccupancy assignments slot := by
  simp [SharedState.countSlots, getD_foldl_upsert]

/-! ## Flavours -/

theorem mem_of_mem_withinThresholdOrAll
    {threshold : ℚ} {flavours : List Flavour} {flavour : Flavour}
    (member : flavour ∈ withinThresholdOrAll threshold flavours) :
    flavour ∈ flavours := by
  unfold withinThresholdOrAll at member
  dsimp only at member
  split at member
  · exact member
  · exact (List.mem_filter.mp member).1

theorem withinThresholdOrAll_ne_nil
    {threshold : ℚ} {flavours : List Flavour} (offered : flavours ≠ []) :
    withinThresholdOrAll threshold flavours ≠ [] := by
  unfold withinThresholdOrAll
  dsimp only
  split
  · exact offered
  · rename_i nonempty
    exact List.isEmpty_eq_false_iff.mp (by simpa using nonempty)

/-- The flavours a request may be served with. -/
def AssignmentPolicy.offeredFlavours (policy : AssignmentPolicy)
    (request : Request) : List Flavour :=
  (request.qosProfile.map QosProfile.flavours).getD policy.flavours

namespace BatchSolveContext

variable {input : BatchSolveContext}

theorem mem_of_mem_restrictFlavours
    {flavours : List Flavour} {flavour : Flavour}
    (member : flavour ∈ input.restrictFlavours flavours) :
    flavour ∈ flavours := by
  unfold restrictFlavours at member
  split at member
  · exact mem_of_mem_withinThresholdOrAll member
  · exact member

theorem restrictFlavours_ne_nil
    {flavours : List Flavour} (offered : flavours ≠ []) :
    input.restrictFlavours flavours ≠ [] := by
  unfold restrictFlavours
  split
  · exact withinThresholdOrAll_ne_nil offered
  · exact offered

private def insertFlavours (input : BatchSolveContext)
    (table : Dictionary ℕ (List Flavour)) (request : Request) :
    Dictionary ℕ (List Flavour) :=
  match request.qosProfile with
  | none => table
  | some profile =>
      table.insert request.id (input.restrictFlavours profile.flavours)

private theorem lookup_insertFlavours_of_ne
    {table : Dictionary ℕ (List Flavour)} {request : Request} {requestId : ℕ}
    (different : request.id ≠ requestId) :
    (input.insertFlavours table request).lookup requestId =
      table.lookup requestId := by
  unfold insertFlavours
  split
  · rfl
  · exact AList.lookup_insert_ne (Ne.symm different)

private theorem lookup_foldl_insertFlavours_of_absent
    {requests : List Request} {table : Dictionary ℕ (List Flavour)}
    {requestId : ℕ} (absent : requestId ∉ requestIds requests) :
    (requests.foldl input.insertFlavours table).lookup requestId =
      table.lookup requestId := by
  induction requests generalizing table with
  | nil => rfl
  | cons request rest inductionHypothesis =>
      simp only [requestIds, List.map_cons, List.mem_cons, not_or] at absent
      rw [List.foldl_cons, inductionHypothesis absent.2,
        lookup_insertFlavours_of_ne (Ne.symm absent.1)]

private theorem lookup_foldl_insertFlavours
    {requests : List Request} (unique : (requestIds requests).Nodup)
    {request : Request} (member : request ∈ requests)
    {table : Dictionary ℕ (List Flavour)}
    (fresh : table.lookup request.id = none) :
    (requests.foldl input.insertFlavours table).lookup request.id =
      request.qosProfile.map fun profile =>
        input.restrictFlavours profile.flavours := by
  induction requests generalizing table with
  | nil => cases member
  | cons first rest inductionHypothesis =>
      have distinct := List.nodup_cons.mp unique
      rw [List.foldl_cons]
      rcases List.mem_cons.mp member with rfl | later
      · rw [lookup_foldl_insertFlavours_of_absent distinct.1]
        unfold insertFlavours
        cases request.qosProfile with
        | none => exact fresh
        | some profile => simp
      · refine inductionHypothesis distinct.2 later ?_
        have different : first.id ≠ request.id := by
          intro same
          exact distinct.1 (same ▸ List.mem_map.mpr ⟨request, later, rfl⟩)
        rw [lookup_insertFlavours_of_ne different, fresh]

theorem requestFlavours_eq_foldl :
    input.requestFlavours = input.pending.foldl input.insertFlavours ∅ := rfl

/-- A profile-backed request of the batch keeps its profile's flavours. -/
theorem lookup_requestFlavours
    (unique : (requestIds input.pending).Nodup)
    {request : Request} (member : request ∈ input.pending) :
    input.requestFlavours.lookup request.id =
      request.qosProfile.map fun profile =>
        input.restrictFlavours profile.flavours := by
  rw [requestFlavours_eq_foldl]
  exact lookup_foldl_insertFlavours unique member (AList.lookup_empty _)

private theorem profile_of_lookup_foldl
    {requests : List Request} {table : Dictionary ℕ (List Flavour)}
    {requestId : ℕ} {flavours : List Flavour}
    (found : (requests.foldl input.insertFlavours table).lookup requestId =
      some flavours) :
    table.lookup requestId = some flavours ∨
      ∃ request ∈ requests, ∃ profile,
        request.id = requestId ∧ request.qosProfile = some profile ∧
          flavours = input.restrictFlavours profile.flavours := by
  induction requests generalizing table with
  | nil => exact Or.inl found
  | cons first rest inductionHypothesis =>
      rw [List.foldl_cons] at found
      rcases inductionHypothesis found with
        inTable | ⟨request, member, profile, own⟩
      · by_cases here : first.id = requestId
        · unfold insertFlavours at inTable
          cases profiled : first.qosProfile with
          | none => exact Or.inl (by simpa [profiled] using inTable)
          | some profile =>
              simp only [profiled, here, AList.lookup_insert,
                Option.some.injEq] at inTable
              exact Or.inr ⟨first, List.mem_cons_self, profile, here, profiled,
                inTable.symm⟩
        · rw [lookup_insertFlavours_of_ne here] at inTable
          exact Or.inl inTable
      · exact Or.inr ⟨request, List.mem_cons_of_mem first member, profile, own⟩

/-- The overrides of the batch are those of its own requests' profiles. -/
theorem profile_of_lookup_requestFlavours
    {requestId : ℕ} {flavours : List Flavour}
    (found : input.requestFlavours.lookup requestId = some flavours) :
    ∃ request ∈ input.pending, ∃ profile,
      request.id = requestId ∧ request.qosProfile = some profile ∧
        flavours = input.restrictFlavours profile.flavours := by
  rw [requestFlavours_eq_foldl] at found
  rcases profile_of_lookup_foldl found with impossible | own
  · simp at impossible
  · exact own

/-- They are flavours that the request offers. -/
theorem offered_of_lookup_requestFlavours
    {requestId : ℕ} {flavours : List Flavour}
    (found : input.requestFlavours.lookup requestId = some flavours) :
    ∃ request ∈ input.pending,
      request.id = requestId ∧
        ∀ flavour ∈ flavours, flavour ∈ input.assignment.offeredFlavours request := by
  obtain ⟨request, member, profile, own, profiled, rfl⟩ :=
    profile_of_lookup_requestFlavours found
  refine ⟨request, member, own, fun flavour restricted => ?_⟩
  rw [AssignmentPolicy.offeredFlavours, profiled]
  exact mem_of_mem_restrictFlavours restricted

/-! ## Future assignments -/

theorem movableFuture_of_locked
    (locked : input.solverConfig.dpLockFutureAssignments = true)
    (order : IterationOrder Assignment) :
    input.movableFuture order = [] := by
  simp [movableFuture, locked]

/-- A movable assignment is a committed one of the batch's profile in the
current slot or later. -/
theorem mem_movableFuture
    {order : IterationOrder Assignment} {assignment : Assignment}
    (movable : assignment ∈ input.movableFuture order) :
    assignment ∈ input.snapshot.assignments.values ∧
      assignment.qosProfileId = batchProfileId input.pending ∧
      input.currentSlot ≤ assignment.scheduledSlot := by
  unfold movableFuture at movable
  split at movable
  · cases movable
  · simp only [sameProfileFuture, SolverSnapshot.getFutureAssignments,
      List.mem_filter, IterationOrder.mem_arrange, decide_eq_true_eq] at movable
    exact ⟨movable.1.1, movable.2, movable.1.2⟩

/-- The baseline of a solve is part of the committed occupancy. -/
theorem slotOccupancy_fixedFuture_le
    (order : IterationOrder Assignment) (slot : ℤ) :
    slotOccupancy (input.fixedFuture order) slot ≤
      slotOccupancy input.snapshot.assignments.values slot := by
  have split :
      (input.otherProfileFuture order ++ input.sameProfileFuture order).Perm
        (input.snapshot.getFutureAssignments order input.currentSlot) :=
    List.perm_append_comm.trans (List.filter_append_perm _ _)
  calc
    slotOccupancy (input.fixedFuture order) slot
        ≤ slotOccupancy
            (input.otherProfileFuture order ++ input.sameProfileFuture order)
            slot := by
          unfold fixedFuture
          split
          · exact le_rfl
          · exact (List.sublist_append_left _ _).countP_le
    _ = slotOccupancy
          (input.snapshot.getFutureAssignments order input.currentSlot) slot :=
        slotOccupancy_eq_of_perm split slot
    _ ≤ slotOccupancy (order.arrange input.snapshot.assignments.values) slot :=
        List.filter_sublist.countP_le
    _ = slotOccupancy input.snapshot.assignments.values slot :=
        slotOccupancy_eq_of_perm (order.perm _) slot

end BatchSolveContext

/-! ## The prepared batch -/

section Prepared

variable {σ : Type} {runtime : NumericRuntime σ}
variable {order : IterationOrder Assignment} {input : BatchSolveContext}

@[simp]
theorem prepareSolve_profileId :
    (prepareSolve runtime order input).1.profileId =
      batchProfileId input.pending := rfl

@[simp]
theorem prepareSolve_pendingIds :
    (prepareSolve runtime order input).1.pendingIds =
      (requestIds input.pending).toFinset := rfl

@[simp]
theorem prepareSolve_solveRequests :
    (prepareSolve runtime order input).1.solveRequests =
      input.pending.map input.solveRequestOf ++
        (input.movableFuture order).map input.movableRequestOf := rfl

@[simp]
theorem prepareSolve_assignmentCap :
    (prepareSolve runtime order input).1.assignmentCap =
      min (input.currentSlot + input.assignment.errorWindowFuture)
        (input.assignment.totalSlots - 1) := rfl

@[simp]
theorem prepareSolve_baselineSlotCounts :
    (prepareSolve runtime order input).1.baselineSlotCounts =
      SharedState.countSlots (input.fixedFuture order) := rfl

@[simp]
theorem prepareSolve_solverFlavours :
    (prepareSolve runtime order input).1.solverFlavours =
      input.restrictFlavours input.assignment.flavours := rfl

@[simp]
theorem prepareSolve_requestFlavours :
    (prepareSolve runtime order input).1.requestFlavours =
      input.requestFlavours := rfl

@[simp]
theorem prepareSolve_effectiveCapacityTiers :
    (prepareSolve runtime order input).1.effectiveCapacityTiers =
      input.assignment.capacityTiers := rfl

@[simp]
theorem prepareSolve_effectiveErrorThreshold :
    (prepareSolve runtime order input).1.effectiveErrorThreshold =
      input.assignment.maxErrorThreshold := rfl

end Prepared

/-! ## Solvers over the prepared batch -/

/-- The solver has these flavours and the policy's horizon, forecast and
scale. -/
structure BuiltSolver (input : BatchSolveContext) (flavours : List Flavour)
    (solver : DpSolver) : Prop where
  flavours_eq : solver.flavours = flavours
  windowSize_eq : solver.windowSize = input.assignment.totalSlots
  forecast_eq : solver.carbonForecast.val = input.carbonForecast
  scale_eq :
    solver.carbonCostScale = input.assignment.carbonCostDurationScale

theorem builtSolver_of_buildSolver
    {input : BatchSolveContext} {flavours : List Flavour} {pruning : String}
    {solver : DpSolver}
    (built : buildSolver flavours input.carbonForecast input.assignment
      input.solverConfig pruning = some solver) :
    BuiltSolver input flavours solver := by
  unfold buildSolver at built
  split at built
  · cases built
    exact ⟨rfl, rfl, rfl, rfl⟩
  · cases built

theorem buildSolver_isSome
    {carbonForecast : List ℚ} {assignment : AssignmentPolicy}
    (covers : carbonForecast.length = assignment.totalSlots.toNat)
    (flavours : List Flavour) (solverConfig : SolverConfig)
    (pruning : String) :
    ∃ solver,
      buildSolver flavours carbonForecast assignment solverConfig pruning =
        some solver := by
  simp [buildSolver, covers]

end Carbonshift
