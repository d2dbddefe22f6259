import Carbonshift.Engine.DpGuarantees
import Carbonshift.Engine.Preparation

/-!
# Which requests a batch solve covers

A batch solve is all or nothing: the DP places every request or none, the
greedy fallback leaves out the requests without a slot, and the coverage check
rejects what does not place the whole batch.
-/

namespace Carbonshift

/-! ## The greedy fallback -/

namespace DpSolver

variable {solver : DpSolver} {currentSlot : ℤ} {tiers : List CapacityTier}
variable {requestFlavours : Dictionary ℕ (List Flavour)}

/-- The slots the fallback considers for a request. -/
def fallbackFirst (currentSlot : ℤ) (request : SolveRequest) : ℤ :=
  max request.earliestSlot currentSlot

def fallbackLast (solver : DpSolver) (currentSlot : ℤ)
    (request : SolveRequest) : ℤ :=
  min (max request.deadlineSlot currentSlot) (solver.windowSize - 1)

/-- The fallback has a slot for the request. -/
def FallbackPlaceable (solver : DpSolver) (currentSlot : ℤ)
    (request : SolveRequest) : Prop :=
  fallbackFirst currentSlot request ≤ solver.fallbackLast currentSlot request

theorem mem_flavoursFor_of_fallback {request : SolveRequest}
    {flavour : Flavour}
    (longest : solver.fallbackFlavour requestFlavours request = some flavour) :
    flavour ∈ solver.flavoursFor request.requestId requestFlavours :=
  List.mem_reverse.mp (List.argmax_mem longest)

variable (solver currentSlot tiers requestFlavours) in
/-- The fallback's placements from the given occupancy on. -/
inductive PlacesGreedily :
    List ℤ → List SolveRequest → List RequestAssignment → Prop where
  | nil (counts : List ℤ) : PlacesGreedily counts [] []
  | skip {counts : List ℤ} {request : SolveRequest}
      {requests : List SolveRequest} {answer : List RequestAssignment}
      (unplaceable : ¬ solver.FallbackPlaceable currentSlot request)
      (rest : PlacesGreedily counts requests answer) :
      PlacesGreedily counts (request :: requests) answer
  | place {counts : List ℤ} {request : SolveRequest}
      {requests : List SolveRequest} {answer : List RequestAssignment}
      {flavour : Flavour} {slot : ℤ}
      (longest : solver.fallbackFlavour requestFlavours request = some flavour)
      (first_le : fallbackFirst currentSlot request ≤ slot)
      (le_last : slot ≤ solver.fallbackLast currentSlot request)
      (rest : PlacesGreedily (counts.modify slot.toNat (· + 1)) requests
        answer) :
      PlacesGreedily counts (request :: requests)
        ({ requestId := request.requestId
           flavourName := flavour.name
           slot := slot
           carbonCost := solver.incrementalCarbonCost slot flavour.duration
             (List.replicate solver.windowSize.toNat 0) counts tiers
           error := flavour.error } :: answer)

/-- A fallback step leaves the request out, or places it in one of its slots
with its longest flavour. -/
private theorem greedyStep_cases
    {placed next : List ℤ × List RequestAssignment} {request : SolveRequest}
    (stepped : solver.greedyStep currentSlot tiers requestFlavours placed
      request = some next) :
    (¬ solver.FallbackPlaceable currentSlot request ∧ next = placed) ∨
      ∃ flavour slot,
        solver.fallbackFlavour requestFlavours request = some flavour ∧
          fallbackFirst currentSlot request ≤ slot ∧
          slot ≤ solver.fallbackLast currentSlot request ∧
          next =
            (placed.1.modify slot.toNat (· + 1),
              placed.2 ++
                [{ requestId := request.requestId
                   flavourName := flavour.name
                   slot := slot
                   carbonCost := solver.incrementalCarbonCost slot
                     flavour.duration
                     (List.replicate solver.windowSize.toNat 0) placed.1 tiers
                   error := flavour.error }]) := by
  obtain ⟨flavour, longest, next_eq⟩ := Option.map_eq_some_iff.mp stepped
  cases cheapest :
      (slotRange (fallbackFirst currentSlot request)
        (solver.fallbackLast currentSlot request)).argmin
        fun slot => solver.incrementalCarbonCost slot flavour.duration
          (List.replicate solver.windowSize.toNat 0) placed.1 tiers with
  | none =>
      refine Or.inl ⟨fun ordered => ?_, ?_⟩
      · have inside := mem_slotRange.mpr ⟨le_rfl, ordered⟩
        rw [List.argmin_eq_none.mp cheapest] at inside
        cases inside
      · unfold fallbackFirst fallbackLast at cheapest
        simp only [cheapest] at next_eq
        exact next_eq.symm
  | some slot =>
      have bounds := mem_slotRange.mp (List.argmin_mem cheapest)
      unfold fallbackFirst fallbackLast at cheapest
      simp only [cheapest] at next_eq
      exact Or.inr
        ⟨flavour, slot, longest, bounds.1, bounds.2, next_eq.symm⟩

private theorem foldlM_greedyStep
    {requests : List SolveRequest}
    {placed final : List ℤ × List RequestAssignment}
    (folded : requests.foldlM
      (solver.greedyStep currentSlot tiers requestFlavours) placed =
        some final) :
    ∃ answer,
      solver.PlacesGreedily currentSlot tiers requestFlavours placed.1
          requests answer ∧
        final.2 = placed.2 ++ answer := by
  induction requests generalizing placed with
  | nil =>
      cases folded
      exact ⟨[], .nil _, (List.append_nil _).symm⟩
  | cons request rest inductionHypothesis =>
      rw [List.foldlM_cons] at folded
      obtain ⟨next, stepped, behind⟩ := Option.bind_eq_some_iff.mp folded
      obtain ⟨answer, places, solved⟩ := inductionHypothesis behind
      rcases greedyStep_cases stepped with
        ⟨unplaceable, rfl⟩ | ⟨flavour, slot, longest, lower, upper, rfl⟩
      · exact ⟨answer, .skip unplaceable places, solved⟩
      · refine ⟨_, .place longest lower upper places, ?_⟩
        rw [solved, List.append_assoc, List.singleton_append]

theorem greedyFallback_places
    {requests : List SolveRequest} {baseCounts : List ℤ}
    {answer : List RequestAssignment}
    (fellBack : solver.greedyFallback requests currentSlot tiers baseCounts
      requestFlavours = some answer) :
    solver.PlacesGreedily currentSlot tiers requestFlavours baseCounts
      requests answer := by
  obtain ⟨final, folded, rfl⟩ := Option.map_eq_some_iff.mp fellBack
  obtain ⟨placed, places, solved⟩ := foldlM_greedyStep folded
  rw [List.nil_append] at solved
  rw [solved]
  exact places

/-- The fallback panics at a request without a flavour only. -/
theorem greedyFallback_isSome
    {requests : List SolveRequest} (baseCounts : List ℤ)
    (offered : ∀ request ∈ requests,
      solver.flavoursFor request.requestId requestFlavours ≠ []) :
    ∃ answer,
      solver.greedyFallback requests currentSlot tiers baseCounts
        requestFlavours = some answer := by
  suffices folds : ∀ placed, ∃ final,
      requests.foldlM (solver.greedyStep currentSlot tiers requestFlavours)
        placed = some final by
    obtain ⟨final, folded⟩ := folds (baseCounts, [])
    exact ⟨final.2, Option.map_eq_some_iff.mpr ⟨final, folded, rfl⟩⟩
  induction requests with
  | nil => exact fun placed => ⟨placed, rfl⟩
  | cons request rest inductionHypothesis =>
      intro placed
      obtain ⟨here, behind⟩ := List.forall_mem_cons.mp offered
      cases longest : solver.fallbackFlavour requestFlavours request with
      | none =>
          exact absurd
            (List.reverse_eq_nil_iff.mp (List.argmax_eq_none.mp longest)) here
      | some flavour =>
          rw [List.foldlM_cons, greedyStep, longest]
          exact inductionHypothesis behind _

namespace PlacesGreedily

variable {counts : List ℤ} {requests : List SolveRequest}
variable {answer : List RequestAssignment}

/-- At most one placement per request, in request order. -/
theorem map_requestId_sublist
    (places : solver.PlacesGreedily currentSlot tiers requestFlavours counts
      requests answer) :
    (answer.map RequestAssignment.requestId).Sublist
      (requests.map SolveRequest.requestId) := by
  induction places with
  | nil counts => exact List.Sublist.refl _
  | skip _ _ inductionHypothesis => exact inductionHypothesis.cons _
  | place _ _ _ _ inductionHypothesis => exact inductionHypothesis.cons_cons _

theorem length_le
    (places : solver.PlacesGreedily currentSlot tiers requestFlavours counts
      requests answer) :
    answer.length ≤ requests.length := by
  simpa using places.map_requestId_sublist.length_le

/-- Every request is placed exactly when the fallback can place each. -/
theorem length_eq_iff
    (places : solver.PlacesGreedily currentSlot tiers requestFlavours counts
      requests answer) :
    answer.length = requests.length ↔
      ∀ request ∈ requests,
        solver.FallbackPlaceable currentSlot request := by
  induction places with
  | nil counts => simp
  | skip unplaceable rest _ =>
      have shorter := rest.length_le
      constructor
      · intro equal
        rw [List.length_cons] at equal
        omega
      · intro placeable
        exact absurd (placeable _ List.mem_cons_self) unplaceable
  | place _ first_le le_last _ inductionHypothesis =>
      have here : solver.FallbackPlaceable currentSlot _ :=
        first_le.trans le_last
      simp only [List.length_cons, Nat.add_right_cancel_iff,
        List.forall_mem_cons, inductionHypothesis, here, true_and]

/-- With every request placed, each one is in one of its slots. -/
theorem forall₂
    (places : solver.PlacesGreedily currentSlot tiers requestFlavours counts
      requests answer)
    (everyRequest : answer.length = requests.length) :
    List.Forall₂
      (fun request decision =>
        decision.requestId = request.requestId ∧
          fallbackFirst currentSlot request ≤ decision.slot ∧
          decision.slot ≤ solver.fallbackLast currentSlot request)
      requests answer := by
  induction places with
  | nil counts => exact List.Forall₂.nil
  | skip _ rest _ =>
      have shorter := rest.length_le
      rw [List.length_cons] at everyRequest
      omega
  | place _ first_le le_last _ inductionHypothesis =>
      exact List.Forall₂.cons ⟨rfl, first_le, le_last⟩
        (inductionHypothesis (Nat.succ.inj everyRequest))

end PlacesGreedily

end DpSolver

/-! ## The coverage check -/

section Completion

variable {σ : Type} {runtime : NumericRuntime σ}
variable {order : IterationOrder Assignment} {input : BatchSolveContext}
variable {greedySolver : DpSolver} {pruning : String}
variable {placed : List RequestAssignment} {recoveryState : RecoveryState}

@[simp]
theorem toAssignment_requestId (prep : PreparedSolve)
    (durations : Dictionary String ℚ) (decision : RequestAssignment) :
    (prep.toAssignment durations decision).requestId = decision.requestId := rfl

@[simp]
theorem toAssignment_scheduledSlot (prep : PreparedSolve)
    (durations : Dictionary String ℚ) (decision : RequestAssignment) :
    (prep.toAssignment durations decision).scheduledSlot = decision.slot := rfl

theorem assignmentIds_map_toAssignment (prep : PreparedSolve)
    (durations : Dictionary String ℚ) (decisions : List RequestAssignment) :
    assignmentIds (decisions.map (prep.toAssignment durations)) =
      decisions.map RequestAssignment.requestId := by
  simp [assignmentIds, Function.comp_def]

@[simp]
theorem finish_assignments (prep : PreparedSolve) (status mode : String)
    (assignments : List Assignment) :
    (prep.finish status mode assignments input recoveryState).1.assignments =
      assignments := rfl

@[simp]
theorem finish_status (prep : PreparedSolve) (status mode : String)
    (assignments : List Assignment) :
    (prep.finish status mode assignments input recoveryState).1.context.status =
      status := rfl

theorem map_requestId_solveRequests
    (runtime : NumericRuntime σ) (order : IterationOrder Assignment)
    (input : BatchSolveContext) :
    (prepareSolve runtime order input).1.solveRequests.map
        SolveRequest.requestId =
      requestIds input.pending ++ assignmentIds (input.movableFuture order) := by
  simp [requestIds, assignmentIds, Function.comp_def,
    BatchSolveContext.solveRequestOf, BatchSolveContext.movableRequestOf]

private theorem scheduledPendingIds_of_superset
    (superset : ∀ requestId ∈ requestIds input.pending,
      requestId ∈ placed.map RequestAssignment.requestId) :
    (prepareSolve runtime order input).1.scheduledPendingIds placed =
      (requestIds input.pending).toFinset := by
  ext requestId
  simp only [PreparedSolve.scheduledPendingIds, prepareSolve_pendingIds,
    List.mem_toFinset, List.mem_filter, decide_eq_true_eq]
  exact ⟨fun both => both.2, fun member => ⟨superset requestId member, member⟩⟩

private theorem countP_pendingIds
    (runtime : NumericRuntime σ) (order : IterationOrder Assignment)
    {decisions : List RequestAssignment}
    (inside : ∀ requestId ∈ decisions.map RequestAssignment.requestId,
      requestId ∈ requestIds input.pending) :
    (decisions.countP fun assignment =>
        assignment.requestId ∈
          (prepareSolve runtime order input).1.pendingIds) =
      decisions.length := by
  refine List.countP_eq_length.mpr fun decision member => ?_
  have known := inside decision.requestId (List.mem_map.mpr ⟨_, member, rfl⟩)
  simpa using known

/-- A placement of the whole batch needs no fallback. -/
theorem complete_of_superset
    (superset : ∀ requestId ∈ requestIds input.pending,
      requestId ∈ placed.map RequestAssignment.requestId) :
    (prepareSolve runtime order input).1.complete input greedySolver pruning
        placed recoveryState =
      some
        (if (placed.countP fun assignment =>
              assignment.requestId ∈
                (prepareSolve runtime order input).1.pendingIds) ≠
            (requestIds input.pending).toFinset.card then
          (.infeasible, recoveryState)
        else
          (prepareSolve runtime order input).1.finish "ok" ("dp_" ++ pruning)
            (placed.map ((prepareSolve runtime order input).1.toAssignment
              input.flavourDurationByName))
            input recoveryState) := by
  simp [PreparedSolve.complete, scheduledPendingIds_of_superset superset]

theorem unscheduled_nil :
    (prepareSolve runtime order input).1.unscheduled input [] =
      input.pending.map input.solveRequestOf := by
  simp [PreparedSolve.unscheduled, PreparedSolve.scheduledPendingIds]

/-- The occupancy before the fallback when the DP placed nothing. -/
def BatchSolveContext.baselineCounts (input : BatchSolveContext)
    (order : IterationOrder Assignment) : List ℤ :=
  (List.range input.assignment.totalSlots.toNat).map fun (slot : ℕ) =>
    (SharedState.countSlots (input.fixedFuture order)).getD (slot : ℤ) 0

private theorem card_pendingIds
    (runtime : NumericRuntime σ) (order : IterationOrder Assignment)
    (unique : (requestIds input.pending).Nodup) :
    (prepareSolve runtime order input).1.pendingIds.card =
      input.pending.length := by
  rw [prepareSolve_pendingIds, List.toFinset_card_of_nodup unique,
    List.length_map]

/-- Without placements of the DP, the fallback is due. -/
private theorem scheduledPendingIds_nil_missed
    (runtime : NumericRuntime σ) (order : IterationOrder Assignment)
    (unique : (requestIds input.pending).Nodup)
    (someRequest : input.pending ≠ []) :
    ((prepareSolve runtime order input).1.scheduledPendingIds []).card ≠
      (prepareSolve runtime order input).1.pendingIds.card := by
  rw [card_pendingIds runtime order unique]
  intro none
  exact someRequest (List.length_eq_zero_iff.mp none.symm)

section Unplaced

variable {decisions : List RequestAssignment}

theorem greedyPlacements_nil_places
    (fellBack : (prepareSolve runtime order input).1.greedyPlacements input
      greedySolver [] = some decisions) :
    greedySolver.PlacesGreedily input.currentSlot
      input.assignment.capacityTiers input.requestFlavours
      (input.baselineCounts order) (input.pending.map input.solveRequestOf)
      decisions := by
  unfold PreparedSolve.greedyPlacements at fellBack
  rw [unscheduled_nil] at fellBack
  exact DpSolver.greedyFallback_places fellBack

private theorem map_requestId_solveRequestOf :
    (input.pending.map input.solveRequestOf).map SolveRequest.requestId =
      requestIds input.pending := by
  simp [requestIds, Function.comp_def, BatchSolveContext.solveRequestOf]

private theorem greedyPlacements_nil_sublist
    (fellBack : (prepareSolve runtime order input).1.greedyPlacements input
      greedySolver [] = some decisions) :
    (decisions.map RequestAssignment.requestId).Sublist
      (requestIds input.pending) := by
  have sublist := (greedyPlacements_nil_places fellBack).map_requestId_sublist
  rwa [map_requestId_solveRequestOf] at sublist

/-- With unique identifiers, the fallback of an unplaced batch succeeds exactly
when it places every request. -/
theorem complete_of_nil
    (unique : (requestIds input.pending).Nodup)
    (someRequest : input.pending ≠ [])
    (fellBack : (prepareSolve runtime order input).1.greedyPlacements input
      greedySolver [] = some decisions) :
    (prepareSolve runtime order input).1.complete input greedySolver pruning
        [] recoveryState =
      some
        (if decisions.length ≠ input.pending.length then
          (.infeasible, recoveryState)
        else
          (prepareSolve runtime order input).1.finish
            "ok_greedy_after_infeasible" "greedy_after_infeasible"
            (decisions.map
              ((prepareSolve runtime order input).1.toAssignment
                input.flavourDurationByName))
            input recoveryState) := by
  have missed := scheduledPendingIds_nil_missed runtime order unique someRequest
  have covered := countP_pendingIds runtime order fun _ member =>
    (greedyPlacements_nil_sublist fellBack).subset member
  simp only [PreparedSolve.complete, missed, fellBack, Option.map_some,
    List.nil_append, ne_eq, not_false_eq_true, if_true]
  rw [covered, card_pendingIds runtime order unique]

/-- The fallback of an unplaced batch panics where its placements do. -/
theorem greedyPlacements_nil_isSome
    (unique : (requestIds input.pending).Nodup)
    (someRequest : input.pending ≠ [])
    {completed : BatchSolveResult × RecoveryState}
    (returned : (prepareSolve runtime order input).1.complete input
      greedySolver pruning [] recoveryState = some completed) :
    ∃ decisions,
      (prepareSolve runtime order input).1.greedyPlacements input greedySolver
        [] = some decisions := by
  have missed := scheduledPendingIds_nil_missed runtime order unique someRequest
  simp only [PreparedSolve.complete, missed, ne_eq, not_false_eq_true,
    if_true] at returned
  obtain ⟨_, placed, _⟩ := Option.map_eq_some_iff.mp returned
  obtain ⟨decisions, fellBack, _⟩ := Option.map_eq_some_iff.mp placed
  exact ⟨decisions, fellBack⟩

/-- A fallback that places every request keeps their order. -/
theorem greedyPlacements_nil_requestIds
    (fellBack : (prepareSolve runtime order input).1.greedyPlacements input
      greedySolver [] = some decisions)
    (complete : decisions.length = input.pending.length) :
    decisions.map RequestAssignment.requestId = requestIds input.pending := by
  refine (greedyPlacements_nil_sublist fellBack).eq_of_length ?_
  simpa using complete

end Unplaced

end Completion

/-! ## Outcomes of the DP pipeline -/

section Outcomes

variable {σ : Type} {runtime : NumericRuntime σ} {oracle : SolveOracle}
variable {input : BatchSolveContext}

/-- Everything the DP pipeline can answer. -/
inductive DpOutcome (runtime : NumericRuntime σ)
    (order : IterationOrder Assignment) (input : BatchSolveContext)
    (result : BatchSolveResult) : Prop where
  | infeasible
      (nothing : result.assignments = [])
      (status : result.context.status = "infeasible")
      (reason :
        (∃ greedySolver,
          BuiltSolver input input.assignment.flavours greedySolver ∧
            ¬ ∀ request ∈ input.pending,
              greedySolver.FallbackPlaceable input.currentSlot
                (input.solveRequestOf request)) ∨
          ∃ requestId ∈ requestIds input.pending,
            requestId ∈ assignmentIds (input.movableFuture order))
  | planned {solver : DpSolver} {placed : List RequestAssignment}
      {choices : List Choice}
      (built : BuiltSolver input
        (input.restrictFlavours input.assignment.flavours) solver)
      (answers : solver.AnswersBatch
        ((prepareSolve runtime order input).1.dpInput input) placed choices)
      (assignments_eq : result.assignments = placed.map
        ((prepareSolve runtime order input).1.toAssignment
          input.flavourDurationByName))
      (baseline_eq : result.baselineSlotCounts =
        SharedState.countSlots (input.fixedFuture order))
      (status : result.context.status = "ok")
  | fallback {greedySolver : DpSolver} {placed : List RequestAssignment}
      (built : BuiltSolver input input.assignment.flavours greedySolver)
      (places : greedySolver.PlacesGreedily input.currentSlot
        input.assignment.capacityTiers input.requestFlavours
        (input.baselineCounts order) (input.pending.map input.solveRequestOf)
        placed)
      (everyRequest : placed.map RequestAssignment.requestId =
        requestIds input.pending)
      (assignments_eq : result.assignments = placed.map
        ((prepareSolve runtime order input).1.toAssignment
          input.flavourDurationByName))
      (baseline_eq : result.baselineSlotCounts =
        SharedState.countSlots (input.fixedFuture order))
      (status : result.context.status = "ok_greedy_after_infeasible")

theorem countP_of_disjoint
    {order : IterationOrder Assignment} {placed : List RequestAssignment}
    (unique : (requestIds input.pending).Nodup)
    (placedIds : placed.map RequestAssignment.requestId =
      requestIds input.pending ++ assignmentIds (input.movableFuture order))
    (disjoint : ¬ ∃ requestId ∈ requestIds input.pending,
      requestId ∈ assignmentIds (input.movableFuture order)) :
    (placed.countP fun assignment =>
        assignment.requestId ∈
          (prepareSolve runtime order input).1.pendingIds) =
      (requestIds input.pending).toFinset.card := by
  have byId :
      (placed.countP fun assignment =>
          assignment.requestId ∈
            (prepareSolve runtime order input).1.pendingIds) =
        (placed.map RequestAssignment.requestId).countP fun requestId =>
          requestId ∈ (prepareSolve runtime order input).1.pendingIds := by
    rw [List.countP_map]
    rfl
  have own :
      ((requestIds input.pending).countP fun requestId =>
          requestId ∈ (prepareSolve runtime order input).1.pendingIds) =
        (requestIds input.pending).length :=
    List.countP_eq_length.mpr fun requestId member => by simpa using member
  have none :
      ((assignmentIds (input.movableFuture order)).countP fun requestId =>
          requestId ∈ (prepareSolve runtime order input).1.pendingIds) = 0 :=
    List.countP_eq_zero.mpr fun requestId movable pending =>
      disjoint ⟨requestId, by simpa using pending, movable⟩
  rw [byId, placedIds, List.countP_append, own, none,
    List.toFinset_card_of_nodup unique, Nat.add_zero]

/-- Inversion of the DP pipeline. -/
theorem solveDp_outcome
    (unique : (requestIds input.pending).Nodup)
    (someRequest : input.pending ≠ [])
    {result : BatchSolveResult} {recovery : RecoveryState}
    (solved : solveDp runtime oracle input = some (result, recovery)) :
    DpOutcome runtime oracle.futureOrder input result := by
  simp only [solveDp, Option.bind_eq_some_iff] at solved
  obtain ⟨solver, built, greedySolver, greedyBuilt, completed⟩ := solved
  have greedy := builtSolver_of_buildSolver greedyBuilt
  rcases DpSolver.solveBatch_cases solver
      ((prepareSolve runtime oracle.futureOrder input).1.dpInput input)
      oracle.search with empty | ⟨choices, answers⟩
  · rw [empty] at completed
    obtain ⟨decisions, fellBack⟩ :=
      greedyPlacements_nil_isSome unique someRequest completed
    have places := greedyPlacements_nil_places fellBack
    rw [complete_of_nil unique someRequest fellBack] at completed
    have finished := Option.some_inj.mp completed
    split at finished
    · rename_i missing
      cases finished
      refine .infeasible rfl rfl (Or.inl ⟨greedySolver, greedy, ?_⟩)
      intro placeable
      refine missing ?_
      rw [places.length_eq_iff.mpr (by simpa using placeable),
        List.length_map]
    · rename_i complete
      have everyRequest := not_not.mp complete
      have assignments := congrArg (fun pair => pair.1.assignments) finished
      have baseline := congrArg (fun pair => pair.1.baselineSlotCounts) finished
      have status := congrArg (fun pair => pair.1.context.status) finished
      exact .fallback greedy places
        (greedyPlacements_nil_requestIds fellBack everyRequest)
        assignments.symm baseline.symm status.symm
  · have placedIds := answers.map_requestId.trans
      (map_requestId_solveRequests runtime oracle.futureOrder input)
    rw [complete_of_superset (by
      intro requestId member
      rw [placedIds]
      exact List.mem_append_left _ member)] at completed
    have finished := Option.some_inj.mp completed
    split at finished
    · rename_i missing
      cases finished
      refine .infeasible rfl rfl (Or.inr ?_)
      by_contra disjoint
      exact missing (countP_of_disjoint unique placedIds disjoint)
    · have assignments := congrArg (fun pair => pair.1.assignments) finished
      have baseline := congrArg (fun pair => pair.1.baselineSlotCounts) finished
      have status := congrArg (fun pair => pair.1.context.status) finished
      exact .planned (builtSolver_of_buildSolver built) answers
        assignments.symm baseline.symm status.symm

end Outcomes

/-! ## Head-of-line blocking -/

section HeadOfLine

variable {σ : Type} {runtime : NumericRuntime σ} {oracle : SolveOracle}
variable {input : BatchSolveContext}

/-- The slots of a pending request. -/
def ownFirstSlot (input : BatchSolveContext) (request : Request) : ℤ :=
  max request.arrivalSlot input.currentSlot

def ownLastSlot (input : BatchSolveContext) (request : Request) : ℤ :=
  min (max request.deadlineSlot input.currentSlot)
    (min (input.currentSlot + input.assignment.errorWindowFuture)
      (input.assignment.totalSlots - 1))

def HasOwnSlot (input : BatchSolveContext) (request : Request) : Prop :=
  ownFirstSlot input request ≤ ownLastSlot input request

instance (request : Request) : Decidable (HasOwnSlot input request) :=
  inferInstanceAs (Decidable (_ ≤ _))

private theorem fallbackFirst_solveRequestOf (request : Request) :
    DpSolver.fallbackFirst input.currentSlot (input.solveRequestOf request) =
      ownFirstSlot input request := by
  simp [DpSolver.fallbackFirst, BatchSolveContext.solveRequestOf, ownFirstSlot]

/-- Within the horizon the fallback's slots are the request's own; past the
horizon there are none. -/
private theorem fallback_slots_iff
    {greedySolver : DpSolver}
    (built : BuiltSolver input input.assignment.flavours greedySolver)
    (someFuture : 0 ≤ input.assignment.errorWindowFuture)
    (request : Request) (slot : ℤ) :
    (DpSolver.fallbackFirst input.currentSlot
          (input.solveRequestOf request) ≤ slot ∧
        slot ≤ greedySolver.fallbackLast input.currentSlot
          (input.solveRequestOf request)) ↔
      ownFirstSlot input request ≤ slot ∧ slot ≤ ownLastSlot input request := by
  simp only [DpSolver.fallbackFirst, DpSolver.fallbackLast,
    built.windowSize_eq, BatchSolveContext.solveRequestOf,
    BatchSolveContext.capDeadline, ownFirstSlot, ownLastSlot]
  omega

private theorem placed_slots_own
    {solver : DpSolver} {flavours : List Flavour}
    {order : IterationOrder Assignment}
    (built : BuiltSolver input flavours solver)
    (someFuture : 0 ≤ input.assignment.errorWindowFuture)
    {request : Request} {choice : Choice}
    (legal : solver.LegalChoice
      ((prepareSolve runtime order input).1.dpInput input)
      (input.solveRequestOf request) choice) :
    ownFirstSlot input request ≤ choice.slot ∧
      choice.slot ≤ ownLastSlot input request := by
  have lower := legal.earliest_le
  have upper := legal.le_deadline
  simp only [DpSolver.earliestFor, DpSolver.deadlineFor,
    DpSolver.assignmentCap, PreparedSolve.dpInput, prepareSolve_assignmentCap,
    built.windowSize_eq, BatchSolveContext.solveRequestOf,
    BatchSolveContext.capDeadline, Option.getD_some] at lower upper
  unfold ownFirstSlot ownLastSlot
  omega

/-- The assignment serves the request in one of its own slots. -/
def ServesOwn (input : BatchSolveContext) (request : Request)
    (assignment : Assignment) : Prop :=
  assignment.requestId = request.id ∧
    ownFirstSlot input request ≤ assignment.scheduledSlot ∧
    assignment.scheduledSlot ≤ ownLastSlot input request

/-- Every request of the batch is assigned once, in one of its own slots. -/
def AssignsEvery (input : BatchSolveContext) (assignments : List Assignment) :
    Prop :=
  List.Forall₂ (ServesOwn input) input.pending assignments

private theorem solveRequests_of_locked
    (runtime : NumericRuntime σ)
    (locked : input.solverConfig.dpLockFutureAssignments = true)
    (order : IterationOrder Assignment) :
    (prepareSolve runtime order input).1.solveRequests =
      input.pending.map input.solveRequestOf := by
  simp [BatchSolveContext.movableFuture_of_locked locked]

private theorem assignsEvery_of_answersBatch
    {solver : DpSolver} {flavours : List Flavour}
    {order : IterationOrder Assignment}
    {placed : List RequestAssignment} {choices : List Choice}
    (locked : input.solverConfig.dpLockFutureAssignments = true)
    (built : BuiltSolver input flavours solver)
    (someFuture : 0 ≤ input.assignment.errorWindowFuture)
    (answers : solver.AnswersBatch
      ((prepareSolve runtime order input).1.dpInput input) placed choices) :
    AssignsEvery input
      (placed.map ((prepareSolve runtime order input).1.toAssignment
        input.flavourDurationByName)) := by
  have related := answers.forall₂
  rw [show ((prepareSolve runtime order input).1.dpInput input).requests =
    input.pending.map input.solveRequestOf from
      solveRequests_of_locked runtime locked order,
    List.forall₂_map_left_iff] at related
  refine List.forall₂_map_right_iff.mpr (related.imp ?_)
  rintro request decision ⟨choice, legal, carriesOut⟩
  have own := placed_slots_own built someFuture legal
  rw [← carriesOut.slot_eq] at own
  refine ⟨?_, own⟩
  rw [toAssignment_requestId, carriesOut.requestId_eq, legal.request_eq]
  rfl

private theorem assignsEvery_of_fallback
    {greedySolver : DpSolver} {order : IterationOrder Assignment}
    {placed : List RequestAssignment}
    (built : BuiltSolver input input.assignment.flavours greedySolver)
    (someFuture : 0 ≤ input.assignment.errorWindowFuture)
    (places : greedySolver.PlacesGreedily input.currentSlot
      input.assignment.capacityTiers input.requestFlavours
      (input.baselineCounts order) (input.pending.map input.solveRequestOf)
      placed)
    (everyRequest : placed.map RequestAssignment.requestId =
      requestIds input.pending) :
    AssignsEvery input
      (placed.map ((prepareSolve runtime order input).1.toAssignment
        input.flavourDurationByName)) := by
  have lengths := congrArg List.length everyRequest
  simp only [List.length_map] at lengths
  have related := places.forall₂ (by rw [lengths, List.length_map])
  rw [List.forall₂_map_left_iff] at related
  refine List.forall₂_map_right_iff.mpr (related.imp ?_)
  rintro request decision ⟨sameId, bounds⟩
  exact ⟨sameId, (fallback_slots_iff built someFuture request _).mp bounds⟩

private theorem AssignsEvery.hasOwnSlot
    {assignments : List Assignment} (every : AssignsEvery input assignments) :
    ∀ request ∈ input.pending, HasOwnSlot input request := by
  intro request member
  obtain ⟨assignment, _, _, lower, upper⟩ :=
    List.Forall₂.exists_left_of_mem every.flip member
  exact lower.trans upper

private theorem fallbackPlaceable_iff
    {greedySolver : DpSolver}
    (built : BuiltSolver input input.assignment.flavours greedySolver)
    (someFuture : 0 ≤ input.assignment.errorWindowFuture) (request : Request) :
    greedySolver.FallbackPlaceable input.currentSlot
        (input.solveRequestOf request) ↔
      HasOwnSlot input request := by
  have slots := fallback_slots_iff built someFuture request
  constructor
  · intro placeable
    have own := (slots _).mp ⟨le_rfl, placeable⟩
    exact own.1.trans own.2
  · intro own
    have first := (slots (ownFirstSlot input request)).mpr ⟨le_rfl, own⟩
    exact first.1.trans first.2

/-- Every request of the batch has an assignment in one of its own slots. -/
def ServesEach (input : BatchSolveContext) (assignments : List Assignment) :
    Prop :=
  ∀ request ∈ input.pending, ∃ assignment ∈ assignments,
    ServesOwn input request assignment

private theorem AssignsEvery.servesEach
    {assignments : List Assignment} (every : AssignsEvery input assignments) :
    ServesEach input assignments := by
  intro request member
  exact List.Forall₂.exists_left_of_mem every.flip member

/-- The search serves each request, also next to movable assignments. -/
private theorem servesEach_of_answersBatch
    {solver : DpSolver} {flavours : List Flavour}
    {order : IterationOrder Assignment}
    {placed : List RequestAssignment} {choices : List Choice}
    (built : BuiltSolver input flavours solver)
    (someFuture : 0 ≤ input.assignment.errorWindowFuture)
    (answers : solver.AnswersBatch
      ((prepareSolve runtime order input).1.dpInput input) placed choices) :
    ServesEach input
      (placed.map ((prepareSolve runtime order input).1.toAssignment
        input.flavourDurationByName)) := by
  intro request member
  have asked : input.solveRequestOf request ∈
      ((prepareSolve runtime order input).1.dpInput input).requests :=
    List.mem_append_left _ (List.mem_map_of_mem member)
  obtain ⟨decision, inAnswer, choice, legal, carriesOut⟩ :=
    List.Forall₂.exists_left_of_mem answers.forall₂.flip asked
  have own := placed_slots_own built someFuture legal
  rw [← carriesOut.slot_eq] at own
  refine ⟨_, List.mem_map_of_mem inAnswer, ?_, own⟩
  rw [toAssignment_requestId, carriesOut.requestId_eq, legal.request_eq]
  rfl

/-- The DP places nothing because of a request without a slot of its own, or it
serves each request. -/
theorem DpOutcome.servesEach
    {order : IterationOrder Assignment} {result : BatchSolveResult}
    (outcome : DpOutcome runtime order input result)
    (someFuture : 0 ≤ input.assignment.errorWindowFuture)
    (disjoint : ¬ ∃ requestId ∈ requestIds input.pending,
      requestId ∈ assignmentIds (input.movableFuture order)) :
    (result.assignments = [] ∧
        ∃ request ∈ input.pending, ¬ HasOwnSlot input request) ∨
      ServesEach input result.assignments := by
  cases outcome with
  | infeasible nothing _ reason =>
      rcases reason with ⟨greedySolver, built, missing⟩ | movable
      · refine Or.inl ⟨nothing, ?_⟩
        by_contra everyOwn
        refine missing fun request member => ?_
        rw [fallbackPlaceable_iff built someFuture]
        by_contra stranded
        exact everyOwn ⟨request, member, stranded⟩
      · exact absurd movable disjoint
  | planned built answers assignments_eq _ _ =>
      rw [assignments_eq]
      exact Or.inr (servesEach_of_answersBatch built someFuture answers)
  | fallback built places everyRequest assignments_eq _ _ =>
      rw [assignments_eq]
      exact Or.inr (assignsEvery_of_fallback built someFuture places
        everyRequest).servesEach

private theorem flavoursFor_ne_nil
    {greedySolver : DpSolver}
    (built : BuiltSolver input input.assignment.flavours greedySolver)
    (unique : (requestIds input.pending).Nodup)
    {request : Request} (member : request ∈ input.pending)
    (offered : input.assignment.offeredFlavours request ≠ []) :
    greedySolver.flavoursFor request.id input.requestFlavours ≠ [] := by
  unfold DpSolver.flavoursFor
  rw [BatchSolveContext.lookup_requestFlavours unique member, built.flavours_eq]
  unfold AssignmentPolicy.offeredFlavours at offered
  cases profiled : request.qosProfile with
  | none => simpa [profiled] using offered
  | some profile =>
      rw [profiled] at offered
      exact BatchSolveContext.restrictFlavours_ne_nil offered

/-- The pipeline panics at a request without a flavour only. -/
private theorem complete_isSome
    {greedySolver : DpSolver} (order : IterationOrder Assignment)
    (offered : ∀ request ∈ input.pending,
      greedySolver.flavoursFor request.id input.requestFlavours ≠ [])
    (pruning : String) (placed : List RequestAssignment)
    (recoveryState : RecoveryState) :
    ∃ completed,
      (prepareSolve runtime order input).1.complete input greedySolver pruning
        placed recoveryState = some completed := by
  have fallback : ∃ decisions,
      (prepareSolve runtime order input).1.greedyPlacements input greedySolver
        placed = some decisions := by
    refine DpSolver.greedyFallback_isSome _ fun request unscheduled => ?_
    obtain ⟨queued, left, rfl⟩ := List.mem_map.mp unscheduled
    exact offered queued (List.mem_filter.mp left).1
  obtain ⟨decisions, fellBack⟩ := fallback
  unfold PreparedSolve.complete
  dsimp only
  split
  · rw [fellBack]
    exact ⟨_, rfl⟩
  · exact ⟨_, rfl⟩

/-- The DP returns when the forecast covers the horizon and every request has
a flavour. -/
theorem solveDp_isSome
    (runtime : NumericRuntime σ) (oracle : SolveOracle)
    (offered : ∀ {greedySolver : DpSolver},
      BuiltSolver input input.assignment.flavours greedySolver →
        ∀ request ∈ input.pending,
          greedySolver.flavoursFor request.id input.requestFlavours ≠ [])
    (covers :
      input.carbonForecast.length = input.assignment.totalSlots.toNat) :
    ∃ result recovery,
      solveDp runtime oracle input = some (result, recovery) := by
  unfold solveDp
  obtain ⟨solver, built⟩ := buildSolver_isSome covers
    (prepareSolve runtime oracle.futureOrder input).1.solverFlavours
    input.solverConfig
    (getEffectivePruningMode input.pending.length input.solverConfig)
  obtain ⟨greedySolver, greedyBuilt⟩ := buildSolver_isSome covers
    input.assignment.flavours input.solverConfig "none"
  simp only [built, greedyBuilt, Option.bind_some]
  obtain ⟨completed, returned⟩ := complete_isSome oracle.futureOrder
    (offered (builtSolver_of_buildSolver greedyBuilt))
    (getEffectivePruningMode input.pending.length input.solverConfig) _ _
  exact ⟨completed.1, completed.2, returned⟩

/-- With locked future assignments, the batch is assigned in full when every
request has a slot of its own; a single request without one keeps the whole
batch pending. -/
theorem solveDp_assigns_all_or_nothing
    (runtime : NumericRuntime σ) (oracle : SolveOracle)
    (input : BatchSolveContext)
    (locked : input.solverConfig.dpLockFutureAssignments = true)
    (someRequest : input.pending ≠ [])
    (unique : (requestIds input.pending).Nodup)
    (someFuture : 0 ≤ input.assignment.errorWindowFuture)
    (offered : ∀ request ∈ input.pending,
      input.assignment.offeredFlavours request ≠ [])
    (covers :
      input.carbonForecast.length = input.assignment.totalSlots.toNat) :
    ∃ result recovery,
      solveDp runtime oracle input = some (result, recovery) ∧
        ((∀ request ∈ input.pending, HasOwnSlot input request) →
          AssignsEvery input result.assignments) ∧
        ((∃ request ∈ input.pending, ¬ HasOwnSlot input request) →
          result.assignments = []) := by
  obtain ⟨result, recovery, solved⟩ :=
    solveDp_isSome runtime oracle
      (fun built request member =>
        flavoursFor_ne_nil built unique member (offered request member))
      covers
  refine ⟨result, recovery, solved, ?_⟩
  cases solveDp_outcome unique someRequest solved with
  | infeasible nothing _ reason =>
      refine ⟨fun own => ?_, fun _ => nothing⟩
      rcases reason with ⟨greedySolver, built, missing⟩ | ⟨_, _, movable⟩
      · refine absurd (fun request member => ?_) missing
        exact (fallbackPlaceable_iff built someFuture request).mpr
          (own request member)
      · rw [BatchSolveContext.movableFuture_of_locked locked] at movable
        cases movable
  | planned built answers assignments_eq _ _ =>
      have every := assignsEvery_of_answersBatch locked built someFuture answers
      rw [← assignments_eq] at every
      refine ⟨fun _ => every, ?_⟩
      rintro ⟨request, member, stranded⟩
      exact absurd (every.hasOwnSlot request member) stranded
  | fallback built places everyRequest assignments_eq _ _ =>
      have every : AssignsEvery input result.assignments := by
        rw [assignments_eq]
        exact assignsEvery_of_fallback built someFuture places everyRequest
      refine ⟨fun _ => every, ?_⟩
      rintro ⟨request, member, stranded⟩
      exact absurd (every.hasOwnSlot request member) stranded

/-- The default configuration with a flat forecast and no history. -/
def defaultSolve (pending : List Request) : BatchSolveContext where
  currentSlot := 0
  pending := pending
  snapshot := SharedState.new.snapshotForSolver
  assignment := Config.default.assignmentPolicy
  solverConfig := .default
  simulationConfig := .default
  recoveryConfig := .default
  recoveryState := ∅
  carbonForecast := List.replicate 24 1
  flavourDurationByName := ∅

/-- Two requests with slots of their own are both assigned; with one that only
arrives at slot twenty, neither is. -/
theorem solveDp_assigns_all_or_nothing_default :
    (∃ result recovery,
      solveDp .least .steady (defaultSolve [.new 0 7 0 3, .new 0 8 1 1]) =
          some (result, recovery) ∧
        AssignsEvery (defaultSolve [.new 0 7 0 3, .new 0 8 1 1])
          result.assignments) ∧
      ∃ result recovery,
        solveDp .least .steady
            (defaultSolve [.new 0 7 0 3, .new 0 8 20 22]) =
            some (result, recovery) ∧
          result.assignments = [] := by
  constructor
  · obtain ⟨result, recovery, solved, every, _⟩ :=
      solveDp_assigns_all_or_nothing .least .steady
        (defaultSolve [.new 0 7 0 3, .new 0 8 1 1]) rfl (List.cons_ne_nil _ _)
        (by decide) (by decide) (by decide) rfl
    exact ⟨result, recovery, solved, every (by decide)⟩
  · obtain ⟨result, recovery, solved, _, nothing⟩ :=
      solveDp_assigns_all_or_nothing .least .steady
        (defaultSolve [.new 0 7 0 3, .new 0 8 20 22]) rfl
        (List.cons_ne_nil _ _) (by decide) (by decide) (by decide) rfl
    exact ⟨result, recovery, solved, nothing (by decide)⟩

/-- A request that only arrives at slot twenty blocks one that could use any
slot up to the third. -/
theorem solveDp_blocks_head_of_line :
    HasOwnSlot (defaultSolve [.new 0 7 0 3, .new 0 8 20 22]) (.new 0 7 0 3) ∧
      (solveDp .least .steady
        (defaultSolve [.new 0 7 0 3, .new 0 8 20 22])).map
          (fun solved => solved.1.assignments) = some [] := by
  decide +kernel

end HeadOfLine

end Carbonshift
