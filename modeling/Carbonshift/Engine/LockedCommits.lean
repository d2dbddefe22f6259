import Carbonshift.Engine.Conservation

/-!
# Commits with locked future assignments

A solve that may not replan commits exactly its batch: a batch strategy with
locked future assignments, or a swarm strategy.  So a commit only adds
assignments, and the committed ones stay as they are.
-/

namespace Carbonshift

namespace Engine

variable {σ : Type} {cfg : Config} {runtime : NumericRuntime σ}
variable {engine next : Engine σ}

/-- The assignments after an accepted commit. -/
theorem assignments_of_accepted
    {workerId : ℕ} {worker : BatchWorker σ} {tiers : List CapacityTier}
    {rollbacks : ℕ} {proposal : SolverProposal σ}
    (found : engine.workers.lookup workerId = some worker)
    (was : worker.phase = .proposed tiers rollbacks proposal)
    (accepted :
      (commitAttempt cfg engine tiers rollbacks proposal).1 = .committed)
    (taken : step cfg runtime engine (.work workerId .commit) = some next) :
    next.shared.assignments =
      (engine.shared.addAssignments proposal.assignments).assignments := by
  rw [step, found, Option.bind_some] at taken
  obtain ⟨moved, performed, rfl⟩ := Option.map_eq_some_iff.mp taken
  have added : (commitAttempt cfg engine tiers rollbacks proposal).2 =
      engine.shared.addAssignments proposal.assignments := by
    rcases commitAttempt_cases cfg engine tiers rollbacks proposal with
      ⟨refused, _⟩ | ⟨_, added⟩
    · rw [accepted] at refused
      cases refused
    · exact added
  simp only [workerMove, commit, was] at performed
  split at performed
  · rename_i attempt
    rw [attempt] at accepted
    cases accepted
  · rename_i shared attempt
    rw [attempt] at added
    cases performed
    exact (sameWork_flagRolledBack cfg worker rollbacks shared).assignments_eq.trans
      (congrArg SharedState.assignments added)

/-- A proposal is exactly the worker's batch, counted for its profile. -/
def ownBatchPromise (σ : Type) : PhasePromise σ where
  observed _ _ _ _ := True
  proposed _ batch _ proposal :=
    assignmentIds proposal.assignments = requestIds batch.pending ∧
      ∀ assignment ∈ proposal.assignments,
        assignment.qosProfileId = batch.profileId

theorem assignmentIds_ownedBy (profileId : QosProfileId)
    (assignments : List Assignment) :
    assignmentIds (ownedBy profileId assignments) =
      assignmentIds assignments := by
  simp [ownedBy, assignmentIds]

/-- No solve proposes anything but its batch. -/
def ProposesOwnBatches (cfg : Config) : Prop :=
  cfg.solver.dpLockFutureAssignments = true ∨ cfg.workerKind ≠ .batch

/-- Only swarm observations are made. -/
def swarmViewPromise (σ : Type) : PhasePromise σ where
  observed _ _ _ view := view.swarmContext ≠ none
  proposed _ _ _ _ := True

private theorem swarmView_rules
    (swarm : cfg.workerKind ≠ .batch) (correctsError : Bool) :
    (swarmViewPromise σ).Rules cfg runtime engine correctsError where
  observesBatch _ _ kind := absurd kind swarm
  observesSwarm := by
    intro _ _ _ _ _ _ _ _ reads nothing
    cases reads.symm.trans nothing
  solvesBatch _ _ _ _ _ := trivial
  solvesSwarm _ _ _ _ _ _ := trivial
  stable _ _ _ holds := ⟨holds.observed, holds.proposed⟩

/-- Without replanning there is nothing else to propose. -/
private theorem ownBatch_rules
    (own : cfg.solver.dpLockFutureAssignments = true ∨
      (swarmViewPromise σ).Kept engine)
    {known : List Request} (reserved : Reserved cfg known engine)
    (distinct : engine.heldIds.Nodup) (correctsError : Bool) :
    (ownBatchPromise σ).Rules cfg runtime engine correctsError where
  observesBatch _ _ _ := trivial
  observesSwarm _ _ _ _ := trivial
  solvesBatch := by
    intro workerId worker tiers _ snapshot oracle result _ found was solved
      nonempty _
    have batch := reserved.wellFormed found
    have unique := (uncommitted_of_owns distinct found (by rw [was]; rfl)).1
    rcases BatchSolver.solve_proposal unique batch.someRequest solved
      with nothing | proposal
    · exact absurd nothing nonempty
    · refine ⟨?_, fun assignment member => ?_⟩
      · rcases own with locked | swarmViews
        · rcases proposal.covers with own | replanned
          · exact own
          · rw [BatchSolveContext.movableFuture_of_locked locked] at replanned
            exact replanned.trans (List.append_nil _)
        · exact absurd rfl ((swarmViews workerId worker found).observed was)
      · exact (proposal.profile assignment member).trans batch.batchProfileId_eq
  solvesSwarm := by
    intro _ _ _ _ _ _ _ _ _ found _ _ answered nonempty _
    rcases OnlineSwarmState.solveBatch_proposal answered
      with nothing | ⟨covers, _⟩
    · exact absurd nothing nonempty
    · refine ⟨(assignmentIds_ownedBy _ _).trans covers, ?_⟩
      exact List.forall_mem_map.mpr fun _ _ =>
        (reserved.wellFormed found).batchProfileId_eq
  stable _ _ _ holds := ⟨holds.observed, holds.proposed⟩

/-- What a run without replanning guarantees of its states. -/
structure Settled (cfg : Config) (known : List Request)
    (engine : Engine σ) : Prop where
  reserved : Reserved cfg known engine
  conserved : Conserved (requestIds known) engine
  distinct : (requestIds known).Nodup
  ownBatch : (ownBatchPromise σ).Kept engine

namespace Settled

variable {known : List Request}

theorem heldDistinct (settled : Settled cfg known engine) :
    engine.heldIds.Nodup :=
  settled.conserved.held.symm.nodup settled.distinct

/-- Every run that receives distinct identifiers stays settled, and so does
whatever a step from a settled state preserves. -/
theorem run_induction
    (own : ProposesOwnBatches cfg)
    (admissible : Action → Prop) (holds : List Action → Engine σ → Prop)
    (initially : holds [] (Engine.new cfg))
    (preserved : ∀ history state action next,
      (∀ earlier ∈ history, admissible earlier) → admissible action →
      Settled cfg (receivedBy history) state → holds history state →
      Engine.step cfg runtime state action = some next →
        holds (history ++ [action]) next)
    {actions : List Action}
    (allowed : ∀ action ∈ actions, admissible action)
    (unique : (requestIds (receivedBy actions)).Nodup)
    (reached : Transition.run (Engine.step cfg runtime) (Engine.new cfg)
      actions = some engine) :
    Settled cfg (receivedBy actions) engine ∧ holds actions engine := by
  have kept := Transition.run_induction
    (fun history state => (∀ action ∈ history, admissible action) →
      (requestIds (receivedBy history)).Nodup →
        (cfg.workerKind ≠ .batch → (swarmViewPromise σ).Kept state) ∧
          Settled cfg (receivedBy history) state ∧ holds history state)
    ?_ ?_ reached
  · exact (kept allowed unique).2
  · intro _ distinct
    exact ⟨fun _ => PhasePromise.kept_new _ cfg,
      ⟨.new, .new, distinct, PhasePromise.kept_new _ cfg⟩, initially⟩
  · intro history state action next before taken permitted distinct
    obtain ⟨earlier, now⟩ := List.forall_mem_append.mp permitted
    have distinctBefore : (requestIds (receivedBy history)).Nodup := by
      rw [receivedBy_concat, requestIds, List.map_append] at distinct
      exact (List.nodup_append.mp distinct).1
    obtain ⟨swarmViews, settled, holding⟩ := before earlier distinctBefore
    have ownBatch := (ownBatch_rules (own.imp_right swarmViews)
      settled.reserved settled.heldDistinct action.correctsError).kept_of_step
        settled.ownBatch taken
    refine ⟨fun swarm => ?_, ?_, preserved history state action next earlier
      (now action (by simp)) settled holding taken⟩
    · exact (swarmView_rules swarm action.correctsError).kept_of_step
        (swarmViews swarm) taken
    rw [receivedBy_concat] at distinct ⊢
    exact ⟨settled.reserved.step (step_effect taken),
      settled.conserved.step settled.reserved distinctBefore taken, distinct,
      ownBatch⟩

/-- A commit adds the batch to the committed assignments. -/
theorem values_of_commit
    (settled : Settled cfg known engine) {workerId : ℕ}
    {worker : BatchWorker σ} {tiers : List CapacityTier} {rollbacks : ℕ}
    {proposal : SolverProposal σ}
    (found : engine.workers.lookup workerId = some worker)
    (was : worker.phase = .proposed tiers rollbacks proposal) :
    (engine.shared.addAssignments proposal.assignments).assignments.values.Perm
      (proposal.assignments ++ engine.shared.assignments.values) := by
  obtain ⟨ids, _⟩ := (settled.ownBatch workerId worker found).proposed was
  obtain ⟨distinct, uncommitted⟩ :=
    uncommitted_of_owns settled.heldDistinct found (by rw [was]; rfl)
  rw [← ids] at distinct uncommitted
  exact SharedState.values_addAssignments distinct uncommitted

/-- A commit changes no committed assignment. -/
theorem lookup_of_commit
    (settled : Settled cfg known engine) {workerId : ℕ}
    {worker : BatchWorker σ} {tiers : List CapacityTier} {rollbacks : ℕ}
    {proposal : SolverProposal σ}
    (found : engine.workers.lookup workerId = some worker)
    (was : worker.phase = .proposed tiers rollbacks proposal)
    {requestId : ℕ} (committed : requestId ∈ engine.shared.assignments) :
    (engine.shared.addAssignments proposal.assignments).assignments.lookup
        requestId =
      engine.shared.assignments.lookup requestId := by
  obtain ⟨ids, _⟩ := (settled.ownBatch workerId worker found).proposed was
  refine SharedState.lookup_addAssignments_of_absent fun proposed => ?_
  rw [ids] at proposed
  exact (uncommitted_of_owns settled.heldDistinct found
    (by rw [was]; rfl)).2 requestId proposed committed

/-- A committed request keeps its slot. -/
theorem lookup_of_change
    (settled : Settled cfg known engine) {correctsError : Bool}
    {after : Dictionary ℕ Assignment} {committer : Option ℕ}
    (change : AssignmentsChange engine correctsError after committer)
    {requestId : ℕ} {assignment : Assignment}
    (found : engine.shared.assignments.lookup requestId = some assignment) :
    ∃ later, after.lookup requestId = some later ∧
      later.scheduledSlot = assignment.scheduledSlot := by
  cases change with
  | same assignments_eq =>
      exact ⟨assignment, by rw [assignments_eq, found], rfl⟩
  | @corrected correctedId change place _ assignments_eq =>
      by_cases here : requestId = correctedId
      · refine ⟨change assignment, ?_, place.scheduledSlot_eq assignment⟩
        rw [assignments_eq, here, Dictionary.lookup_adjust_self, ← here, found]
        rfl
      · refine ⟨assignment, ?_, rfl⟩
        rw [assignments_eq, Dictionary.lookup_adjust_of_ne here, found]
  | committed there was assignments_eq =>
      refine ⟨assignment, ?_, rfl⟩
      rw [assignments_eq, settled.lookup_of_commit there was
        (Dictionary.mem_of_lookup found), found]

end Settled

end Engine

end Carbonshift
