import Carbonshift.Engine.LockedCommits

/-!
# Nothing runs before it arrives

Every strategy places a request at or after its arrival slot.  So a slot that
no waiting request has arrived by takes no further assignment.
-/

namespace Carbonshift

/-- The assignment serves the request, and not before it has arrived. -/
def ServesArrived (request : Request) (assignment : Assignment) : Prop :=
  assignment.requestId = request.id ∧
    request.arrivalSlot ≤ assignment.scheduledSlot

/-! ## Batch strategies -/

section Batch

variable {σ : Type} {runtime : NumericRuntime σ} {oracle : SolveOracle}
variable {input : BatchSolveContext} {order : IterationOrder Assignment}

private theorem servesArrived_of_placesInTime
    {prep : PreparedSolve} {placed : List RequestAssignment}
    (places : List.Forall₂ (PlacesInTime input.currentSlot)
      (input.pending.map input.solveRequestOf) placed) :
    List.Forall₂ ServesArrived input.pending
      (placed.map (prep.toAssignment input.flavourDurationByName)) := by
  rw [List.forall₂_map_left_iff] at places
  refine List.forall₂_map_right_iff.mpr (places.imp ?_)
  rintro request decision ⟨sameId, first⟩
  refine ⟨sameId, ?_⟩
  have earliest := (le_max_left _ _).trans first
  exact (le_max_left _ _).trans earliest

private theorem solveRequests_eq_of_locked
    (runtime : NumericRuntime σ) (order : IterationOrder Assignment)
    (locked : input.solverConfig.dpLockFutureAssignments = true) :
    (prepareSolve runtime order input).1.solveRequests =
      input.pending.map input.solveRequestOf := by
  simp [BatchSolveContext.movableFuture_of_locked locked]

private theorem DpOutcome.servesArrived {result : BatchSolveResult}
    (outcome : DpOutcome runtime order input result)
    (locked : input.solverConfig.dpLockFutureAssignments = true) :
    result.assignments = [] ∨
      List.Forall₂ ServesArrived input.pending result.assignments := by
  cases outcome with
  | infeasible nothing _ _ => exact Or.inl nothing
  | planned built answers assignments_eq _ _ =>
      refine Or.inr ?_
      rw [assignments_eq]
      refine servesArrived_of_placesInTime ?_
      have related := answers.forall₂
      have requests : ((prepareSolve runtime order input).1.dpInput
          input).requests = input.pending.map input.solveRequestOf :=
        solveRequests_eq_of_locked runtime order locked
      rw [requests] at related
      refine related.imp ?_
      rintro request decision ⟨choice, legal, carriesOut⟩
      refine ⟨?_, ?_⟩
      · rw [carriesOut.requestId_eq, legal.request_eq]
      · rw [carriesOut.slot_eq]
        exact legal.earliest_le
  | fallback built places everyRequest assignments_eq _ _ =>
      refine Or.inr ?_
      rw [assignments_eq]
      refine servesArrived_of_placesInTime ?_
      have lengths := congrArg List.length everyRequest
      simp only [List.length_map] at lengths
      have related := places.forall₂ (by rw [lengths, List.length_map])
      exact related.imp fun _ _ placed => ⟨placed.1, placed.2.1⟩

private theorem solveGreedySingleton_servesArrived
    {result : BatchSolveResult} {recovery : RecoveryState}
    (locked : input.solverConfig.dpLockFutureAssignments = true)
    (solved : solveGreedySingleton runtime oracle input =
      some (result, recovery)) :
    result.assignments = [] ∨
      List.Forall₂ ServesArrived input.pending result.assignments := by
  obtain ⟨fallback, least, finished⟩ := Option.map_eq_some_iff.mp solved
  split at finished
  · cases finished
    exact Or.inl rfl
  · rename_i scan scanned
    obtain ⟨decisions, placed, places, _⟩ :=
      singletonScan_spec (List.argmin_mem least) scanned
    rw [List.nil_append] at placed
    rw [placed] at finished
    have assignments := congrArg (fun pair => pair.1.assignments) finished
    dsimp only [finish_assignments] at assignments
    rw [solveRequests_eq_of_locked runtime oracle.futureOrder locked] at places
    refine Or.inr ?_
    rw [← assignments]
    exact servesArrived_of_placesInTime (places.imp fun _ _ inside => inside.1)

/-- With locked future assignments, both batch strategies propose nothing, or
the batch in its order, each request from its arrival slot on. -/
theorem BatchSolver.solve_servesArrived
    {solver : BatchSolver}
    (locked : input.solverConfig.dpLockFutureAssignments = true)
    (unique : (requestIds input.pending).Nodup)
    (someRequest : input.pending ≠ [])
    {result : BatchSolveResult} {recovery : RecoveryState}
    (solved : solver.solve runtime oracle input = some (result, recovery)) :
    result.assignments = [] ∨
      List.Forall₂ ServesArrived input.pending result.assignments := by
  cases solver with
  | dp => exact (solveDp_outcome unique someRequest solved).servesArrived locked
  | greedySingleton =>
      exact solveGreedySingleton_servesArrived locked solved

end Batch

/-! ## Swarm strategies -/

theorem le_of_mem_candidateSlots
    {policy : AssignmentPolicy} {request : Request} {slot : ℤ}
    (candidate : slot ∈ candidateSlots policy request) :
    request.arrivalSlot ≤ slot :=
  (mem_slotRange.mp candidate).1

/-- A swarm solver proposes nothing, or the batch in its order, each request
from its arrival slot on. -/
theorem OnlineSwarmState.solveBatch_servesArrived
    {σ : Type} {runtime : NumericRuntime σ} {state : OnlineSwarmState σ}
    {pending : List Request} {slot : ℤ} {carbonForecast : List ℚ}
    {ctx : SwarmContext} {policy : AssignmentPolicy}
    {solved : List Assignment × OnlineSwarmState σ}
    (answered : state.solveBatch runtime pending slot carbonForecast ctx
      policy = some solved) :
    solved.1 = [] ∨ List.Forall₂ ServesArrived pending solved.1 := by
  rcases solveBatch_plans answered with nothing | plan
  · exact Or.inl nothing
  · refine Or.inr (plan.forall₂.imp ?_)
    rintro request assignment ⟨sameId, candidate⟩
    exact ⟨sameId, le_of_mem_candidateSlots candidate⟩

namespace Engine

variable {σ : Type} {cfg : Config} {runtime : NumericRuntime σ}
variable {engine : Engine σ} {known : List Request}

/-! ## Committed assignments -/

/-- A proposal serves its batch, each request from its arrival slot on. -/
def arrivalPromise (σ : Type) : PhasePromise σ where
  observed _ _ _ _ := True
  proposed _ batch _ proposal :=
    List.Forall₂ ServesArrived batch.pending proposal.assignments

private theorem servesArrived_ownedBy
    {profileId : QosProfileId} {pending : List Request}
    {assignments : List Assignment}
    (serves : List.Forall₂ ServesArrived pending assignments) :
    List.Forall₂ ServesArrived pending (ownedBy profileId assignments) :=
  List.forall₂_map_right_iff.mpr serves

private theorem arrival_rules
    (locked : cfg.solver.dpLockFutureAssignments = true)
    (settled : Settled cfg known engine) (correctsError : Bool) :
    (arrivalPromise σ).Rules cfg runtime engine correctsError where
  observesBatch _ _ _ := trivial
  observesSwarm _ _ _ _ := trivial
  solvesBatch := by
    intro workerId worker tiers _ snapshot oracle result _ found was solved
      nonempty _
    have batch := settled.reserved.wellFormed found
    have unique :=
      (uncommitted_of_owns settled.heldDistinct found (by rw [was]; rfl)).1
    rcases BatchSolver.solve_servesArrived locked unique batch.someRequest
      solved with nothing | serves
    · exact absurd nothing nonempty
    · exact serves
  solvesSwarm := by
    intro _ _ _ _ _ _ _ _ _ _ _ _ answered nonempty _
    rcases OnlineSwarmState.solveBatch_servesArrived answered
      with nothing | serves
    · exact absurd nothing nonempty
    · exact servesArrived_ownedBy serves
  stable _ _ _ holds := ⟨holds.observed, holds.proposed⟩

/-- Every committed assignment serves a known request that has arrived by
then. -/
def ServesKnown (known : List Request) (engine : Engine σ) : Prop :=
  ∀ assignment ∈ engine.shared.assignments.values,
    ∃ request ∈ known, ServesArrived request assignment

private theorem ServesKnown.step
    (settled : Settled cfg known engine)
    (promise : (arrivalPromise σ).Kept engine)
    (serves : ServesKnown known engine)
    {correctsError : Bool} {next : Engine σ} {committer : Option ℕ}
    (change : AssignmentsChange engine correctsError next.shared.assignments
      committer) :
    ServesKnown known next := by
  intro assignment member
  cases change with
  | same assignments_eq =>
      rw [assignments_eq] at member
      exact serves assignment member
  | @corrected requestId change place _ assignments_eq =>
      rw [assignments_eq] at member
      have same := Dictionary.map_values_adjust_perm
        (f := fun stored => (stored.requestId, stored.scheduledSlot))
        (fun stored => Prod.ext (place.requestId_eq stored)
          (place.scheduledSlot_eq stored))
        engine.shared.assignments requestId
      obtain ⟨earlier, stored, kept⟩ :=
        List.mem_map.mp (same.subset (List.mem_map_of_mem member))
      obtain ⟨sameId, sameSlot⟩ := Prod.ext_iff.mp kept
      obtain ⟨request, isKnown, servesId, arrived⟩ := serves earlier stored
      exact ⟨request, isKnown, sameId.symm.trans servesId,
        arrived.trans sameSlot.le⟩
  | @committed workerId worker _ _ proposal found was assignments_eq =>
      rw [assignments_eq] at member
      rcases List.mem_append.mp
        ((settled.values_of_commit found was).subset member) with new | old
      · obtain ⟨request, inBatch, arrived⟩ := List.Forall₂.exists_left_of_mem
          ((promise workerId worker found).proposed was) new
        exact ⟨request, (settled.reserved.wellFormed found).known request
          inBatch, arrived⟩
      · exact serves assignment old

/-- In every run with locked future assignments, no request is assigned to a
slot before its arrival. -/
theorem servesKnown_of_run
    (locked : cfg.solver.dpLockFutureAssignments = true)
    {actions : List Action}
    (unique : (requestIds (receivedBy actions)).Nodup)
    (reached : Transition.run (step cfg runtime) (new cfg) actions =
      some engine) :
    Settled cfg (receivedBy actions) engine ∧
      ServesKnown (receivedBy actions) engine := by
  have kept := Settled.run_induction (Or.inl locked)
    (fun _ => True)
    (fun history state => (arrivalPromise σ).Kept state ∧
      ServesKnown (receivedBy history) state)
    ⟨PhasePromise.kept_new _ cfg, fun _ member => (List.not_mem_nil member).elim⟩
    ?_ (fun _ _ => trivial) unique reached
  · exact ⟨kept.1, kept.2.2⟩
  · rintro history state action next _ _ settled ⟨promise, serves⟩ taken
    obtain ⟨_, change⟩ := (step_effect taken).assignmentsChange
    refine ⟨(arrival_rules locked settled _).kept_of_step promise taken, ?_⟩
    intro assignment member
    obtain ⟨request, isKnown, arrived⟩ :=
      serves.step settled promise change assignment member
    refine ⟨request, ?_, arrived⟩
    rw [receivedBy_concat]
    exact List.mem_append_left _ isKnown

end Engine

end Carbonshift
