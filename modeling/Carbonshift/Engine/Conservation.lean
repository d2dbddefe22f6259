import Carbonshift.Engine.Reservations

/-!
# Conservation of requests

Every received request is pending, in flight in one batch, or committed, and
in only one of the three.
-/

namespace Carbonshift

/-- Every assignment is stored under its request. -/
def Keyed (assignments : Dictionary ℕ Assignment) : Prop :=
  ∀ {requestId assignment},
    assignments.lookup requestId = some assignment →
      assignment.requestId = requestId

theorem Keyed.adjust {assignments : Dictionary ℕ Assignment}
    (keyed : Keyed assignments) {requestId : ℕ}
    {change : Assignment → Assignment}
    (keeps : ∀ assignment, (change assignment).requestId = assignment.requestId) :
    Keyed (assignments.adjust requestId change) := by
  intro other assignment found
  by_cases here : other = requestId
  · subst here
    rw [Dictionary.lookup_adjust_self, Option.map_eq_some_iff] at found
    obtain ⟨previous, before, rfl⟩ := found
    rw [keeps]
    exact keyed before
  · rw [Dictionary.lookup_adjust_of_ne here] at found
    exact keyed found

theorem Keyed.addAssignments {state : SharedState}
    (keyed : Keyed state.assignments) (assignments : List Assignment) :
    Keyed (state.addAssignments assignments).assignments := by
  induction assignments generalizing state with
  | nil => exact keyed
  | cons assignment rest inductionHypothesis =>
      rw [SharedState.addAssignments_cons]
      refine inductionHypothesis fun {other stored} found => ?_
      rw [SharedState.recordAssignment_assignments] at found
      by_cases here : other = assignment.requestId
      · subst here
        rw [AList.lookup_insert] at found
        cases found
        unfold SharedState.stored
        split <;> rfl
      · rw [AList.lookup_insert_ne here] at found
        exact keyed found

namespace Engine

variable {σ : Type} {cfg : Config} {runtime : NumericRuntime σ}
variable {engine next : Engine σ}

/-- The requests of all batches that are being solved. -/
def inFlight (engine : Engine σ) : List Request :=
  engine.workers.values.flatMap BatchWorker.inFlight

/-- Where a request can be. -/
def heldIds (engine : Engine σ) : List ℕ :=
  requestIds engine.shared.pending ++ requestIds engine.inFlight ++
    engine.shared.assignments.keys

/-! ## Committed identifiers -/

theorem AssignmentsChange.keyed
    {correctsError : Bool} {after : Dictionary ℕ Assignment}
    {committer : Option ℕ}
    (change : AssignmentsChange engine correctsError after committer)
    (keyed : Keyed engine.shared.assignments) : Keyed after := by
  cases change with
  | same assignments_eq =>
      rw [assignments_eq]
      exact keyed
  | corrected place _ assignments_eq =>
      rw [assignments_eq]
      exact keyed.adjust place.requestId_eq
  | committed _ _ assignments_eq =>
      rw [assignments_eq]
      exact keyed.addAssignments _

/-- A committed request stays committed. -/
theorem AssignmentsChange.mem
    {correctsError : Bool} {after : Dictionary ℕ Assignment}
    {committer : Option ℕ}
    (change : AssignmentsChange engine correctsError after committer)
    {requestId : ℕ} (known : requestId ∈ engine.shared.assignments) :
    requestId ∈ after := by
  cases change with
  | same assignments_eq =>
      rw [assignments_eq]
      exact known
  | corrected _ _ assignments_eq =>
      rw [assignments_eq]
      exact Dictionary.mem_adjust_iff.mpr known
  | committed _ _ assignments_eq =>
      rw [assignments_eq]
      exact SharedState.mem_addAssignments_iff.mpr (Or.inr known)

/-- What a worker saw stays committed; what it proposes is its whole batch,
and otherwise only requests that are committed already. -/
def replanPromise (σ : Type) : PhasePromise σ where
  observed now _ _ view :=
    ∀ snapshot, view = .batch snapshot →
      ∀ assignment ∈ snapshot.assignments.values, assignment.requestId ∈ now
  proposed now batch _ proposal :=
    requestIds batch.pending ⊆ assignmentIds proposal.assignments ∧
      ∀ requestId ∈ assignmentIds proposal.assignments,
        requestId ∈ requestIds batch.pending ∨ requestId ∈ now

/-! ## Batches in flight -/

/-- A worker's step exchanges only its own requests in flight. -/
private theorem inFlight_insert
    {workerId : ℕ} {worker : BatchWorker σ}
    (found : engine.workers.lookup workerId = some worker)
    (moved : BatchWorker σ)
    (workers_eq : next.workers = engine.workers.insert workerId moved) :
    ∃ others : List Request,
      engine.inFlight.Perm (worker.inFlight ++ others) ∧
        next.inFlight = moved.inFlight ++ others := by
  obtain ⟨others, before, after⟩ :=
    Dictionary.values_insert_of_lookup found moved
  refine ⟨others.flatMap BatchWorker.inFlight, before.flatMap_right _, ?_⟩
  rw [inFlight, workers_eq, after]
  rfl

private theorem inFlight_of_owns
    {worker : BatchWorker σ} (owns : worker.phase.ownsBatch = true) :
    worker.inFlight = worker.pending := if_pos owns

private theorem inFlight_of_not_owns
    {worker : BatchWorker σ} (gone : worker.phase.ownsBatch = false) :
    worker.inFlight = [] := if_neg (by simp [gone])

private theorem inFlight_withPhase_of_owns
    {worker : BatchWorker σ} {phase : WorkerPhase σ}
    (owns : phase.ownsBatch = true) :
    (worker.withPhase phase).inFlight = worker.pending :=
  inFlight_of_owns owns

private theorem inFlight_withPhase_of_not_owns
    {worker : BatchWorker σ} {phase : WorkerPhase σ}
    (gone : phase.ownsBatch = false) :
    (worker.withPhase phase).inFlight = [] :=
  inFlight_of_not_owns gone

private theorem ownsBatch_afterSolve
    (tiers : List CapacityTier) (rollbacks : ℕ) (proposal : SolverProposal σ) :
    (afterSolve tiers rollbacks proposal).ownsBatch = true := by
  unfold afterSolve
  split <;> rfl

private theorem ownsBatch_afterRollback
    (cfg : Config) (tiers : List CapacityTier) (rollbacks : ℕ) :
    (afterRollback (σ := σ) cfg tiers rollbacks).ownsBatch = true := by
  unfold afterRollback
  split <;> rfl

private theorem ownsBatch_afterCommit
    (cfg : Config) (proposal : SolverProposal σ) :
    (afterCommit cfg proposal).ownsBatch = false := by
  unfold afterCommit
  split <;> rfl

/-- The requests of a batch in flight are distinct and not yet committed. -/
theorem uncommitted_of_owns
    (distinct : engine.heldIds.Nodup) {workerId : ℕ} {worker : BatchWorker σ}
    (found : engine.workers.lookup workerId = some worker)
    (owns : worker.phase.ownsBatch = true) :
    (requestIds worker.pending).Nodup ∧
      ∀ requestId ∈ requestIds worker.pending,
        requestId ∉ engine.shared.assignments := by
  let unmoved : Engine σ :=
    { engine with workers := engine.workers.insert workerId worker }
  have unmoved_eq : unmoved.workers = engine.workers.insert workerId worker :=
    rfl
  obtain ⟨others, inFlight_perm, _⟩ :=
    inFlight_insert found worker unmoved_eq
  rw [inFlight_of_owns owns] at inFlight_perm
  have apart : (requestIds worker.pending ++
      (requestIds others ++ engine.shared.assignments.keys)).Nodup := by
    have held := (((inFlight_perm.map Request.id).append_left
      (requestIds engine.shared.pending)).append_right
        engine.shared.assignments.keys).nodup distinct
    rw [List.map_append, List.append_assoc, List.append_assoc] at held
    exact (List.nodup_append.mp held).2.1
  obtain ⟨own, _, disjoint⟩ := List.nodup_append.mp apart
  refine ⟨own, fun requestId member committed => ?_⟩
  exact disjoint requestId member requestId
    (List.mem_append_right _ (AList.mem_keys.mp committed)) rfl

/-! ## Steps -/

/-- Committing a batch together with committed requests adds the batch. -/
private theorem keys_addAssignments_perm
    {state : SharedState} {batch : List ℕ} {assignments : List Assignment}
    (distinct : batch.Nodup)
    (uncommitted : ∀ requestId ∈ batch, requestId ∉ state.assignments)
    (covers : batch ⊆ assignmentIds assignments)
    (replans : ∀ requestId ∈ assignmentIds assignments,
      requestId ∈ batch ∨ requestId ∈ state.assignments) :
    (state.addAssignments assignments).assignments.keys.Perm
      (batch ++ state.assignments.keys) := by
  have apart : (batch ++ state.assignments.keys).Nodup := by
    refine List.nodup_append.mpr
      ⟨distinct, state.assignments.keys_nodup, ?_⟩
    rintro requestId member _ committed rfl
    exact uncommitted requestId member (AList.mem_keys.mpr committed)
  refine (List.perm_ext_iff_of_nodup (AList.keys_nodup _) apart).mpr
    fun requestId => ?_
  rw [← AList.mem_keys, SharedState.mem_addAssignments_iff, List.mem_append,
    ← AList.mem_keys]
  constructor
  · rintro (proposed | known)
    · exact replans requestId proposed
    · exact Or.inr known
  · rintro (member | known)
    · exact Or.inl (covers member)
    · exact Or.inr known

/-- All received requests are held, and the counter agrees. -/
structure Conserved (received : List ℕ) (engine : Engine σ) : Prop where
  held : engine.heldIds.Perm received
  total : engine.shared.totalReceived = received.length
  keyed : Keyed engine.shared.assignments
  promise : (replanPromise σ).Kept engine

namespace Conserved

theorem new : Conserved [] (Engine.new cfg : Engine σ) :=
  ⟨List.Perm.refl _, rfl, nofun, PhasePromise.kept_new _ cfg⟩

private theorem rules
    {known : List Request} (reserved : Reserved cfg known engine)
    (distinct : engine.heldIds.Nodup) (keyed : Keyed engine.shared.assignments)
    (correctsError : Bool) :
    (replanPromise σ).Rules cfg runtime engine correctsError where
  observesBatch := by
    intro _ _ _ _ _ _ _ snapshot same assignment member
    cases same
    obtain ⟨requestId, found⟩ := Dictionary.mem_values_iff.mp member
    rw [keyed found]
    exact Dictionary.mem_of_lookup found
  observesSwarm := by
    intro _ _ _ _ _ _ _ _ reads snapshot same
    subst same
    cases reads
  solvesBatch := by
    intro workerId worker _ _ snapshot oracle result _ found was solved some_
      observed
    have batch := reserved.wellFormed found
    have unique := (uncommitted_of_owns distinct found (by rw [was]; rfl)).1
    rcases BatchSolver.solve_proposal unique batch.someRequest solved
      with nothing | proposal
    · exact absurd nothing some_
    · rcases proposal.covers with own | replanned
      · dsimp only [replanPromise]
        rw [own]
        exact ⟨List.Subset.refl _, fun _ member => Or.inl member⟩
      · dsimp only [replanPromise]
        rw [replanned]
        refine ⟨List.subset_append_left _ _, fun requestId member => ?_⟩
        refine (List.mem_append.mp member).imp_right fun movable => ?_
        obtain ⟨assignment, inside, rfl⟩ := List.mem_map.mp movable
        exact observed snapshot rfl assignment
          (BatchSolveContext.mem_movableFuture inside).1
  solvesSwarm := by
    intro _ worker _ _ _ _ _ _ solved _ _ _ answered some_ _
    rcases OnlineSwarmState.solveBatch_proposal answered
      with nothing | ⟨covers, _⟩
    · exact absurd nothing some_
    · have own : assignmentIds (ownedBy (batchProfileId worker.pending)
          solved.1) = requestIds worker.pending := by
        rw [← covers]
        simp [ownedBy, assignmentIds]
      dsimp only [replanPromise]
      rw [own]
      exact ⟨List.Subset.refl _, fun _ member => Or.inl member⟩
  stable := by
    intro _ _ after _ _ change _ holds
    refine ⟨fun was snapshot same assignment member => ?_, fun was => ?_⟩
    · exact change.mem (holds.observed was snapshot same assignment member)
    · obtain ⟨covers, replans⟩ := holds.proposed was
      exact ⟨covers, fun requestId member =>
        (replans requestId member).imp_right change.mem⟩

/-- A worker's step moves its batch as a whole, if at all. -/
private theorem held_of_effect
    {received : List ℕ} (conserved : Conserved received engine)
    (distinct : engine.heldIds.Nodup) {workerId : ℕ} {worker : BatchWorker σ}
    {phase : WorkerPhase σ} {shared : SharedState}
    (found : engine.workers.lookup workerId = some worker)
    (effect : WorkerEffect cfg runtime engine worker phase shared)
    (shared_eq : next.shared = shared)
    (workers_eq :
      next.workers = engine.workers.insert workerId (worker.withPhase phase)) :
    next.heldIds.Perm engine.heldIds ∧
      next.shared.totalReceived = engine.shared.totalReceived := by
  obtain ⟨others, before, after⟩ :=
    inFlight_insert found (worker.withPhase phase) workers_eq
  replace before := before.map Request.id
  have nextHeld : next.heldIds =
      requestIds shared.pending ++
        requestIds ((worker.withPhase phase).inFlight ++ others) ++
          shared.assignments.keys := by
    rw [heldIds, after, shared_eq]
  -- a step that leaves the queue and the map alone keeps the batch in flight
  have quiet : SharedState.SameWork engine.shared shared →
      (worker.withPhase phase).inFlight = worker.inFlight →
        next.heldIds.Perm engine.heldIds ∧
          next.shared.totalReceived = engine.shared.totalReceived := by
    intro same kept
    rw [nextHeld, kept, heldIds, shared_eq, same.pending_eq,
      same.assignments_eq]
    exact ⟨(before.symm.append_left _).append_right _, same.totalReceived_eq⟩
  have owning : SharedState.SameWork engine.shared shared →
      worker.phase.ownsBatch = true → phase.ownsBatch = true →
        next.heldIds.Perm engine.heldIds ∧
          next.shared.totalReceived = engine.shared.totalReceived := by
    intro same owned owns
    exact quiet same
      ((inFlight_withPhase_of_owns owns).trans (inFlight_of_owns owned).symm)
  cases effect with
  | entered was => exact owning (.refl _) (by rw [was]; rfl) rfl
  | observedBatch _ was => exact owning (.refl _) (by rw [was]; rfl) rfl
  | observedSwarm _ was _ => exact owning (.refl _) (by rw [was]; rfl) rfl
  | solvedBatch was _ =>
      exact owning (.refl _) (by rw [was]; rfl) (ownsBatch_afterSolve _ _ _)
  | solvedSwarm was _ _ =>
      exact owning (.refl _) (by rw [was]; rfl) (ownsBatch_afterSolve _ _ _)
  | rolledBack was same =>
      exact owning same (by rw [was]; rfl) (ownsBatch_afterRollback _ _ _)
  | @committed _ _ proposal _ was _ same =>
      have owned : worker.phase.ownsBatch = true := by rw [was]; rfl
      obtain ⟨covers, replans⟩ := (conserved.promise _ _ found).proposed was
      obtain ⟨own, uncommitted⟩ := uncommitted_of_owns distinct found owned
      have keys := keys_addAssignments_perm own uncommitted covers replans
      rw [inFlight_of_owns owned] at before
      rw [inFlight_withPhase_of_not_owns (ownsBatch_afterCommit cfg proposal),
        same.pending_eq, same.assignments_eq,
        SharedState.addAssignments_pending] at nextHeld
      rw [nextHeld, heldIds, shared_eq, same.totalReceived_eq,
        SharedState.addAssignments_totalReceived]
      refine ⟨List.perm_iff_count.mpr fun requestId => ?_, rfl⟩
      have keysCount := keys.count_eq requestId
      have batchCount := before.count_eq requestId
      simp only [requestIds, List.count_append, List.map_append,
        List.nil_append] at keysCount batchCount ⊢
      omega
  | requeued was =>
      have owned : worker.phase.ownsBatch = true := by rw [was]; rfl
      rw [inFlight_of_owns owned] at before
      rw [inFlight_withPhase_of_not_owns rfl] at nextHeld
      rw [nextHeld, heldIds, shared_eq]
      refine ⟨List.perm_iff_count.mpr fun requestId => ?_, rfl⟩
      have batchCount := before.count_eq requestId
      simp only [SharedState.requeuePendingRequestsFront, requestIds,
        List.count_append, List.map_append, List.nil_append] at batchCount ⊢
      omega
  | merged was =>
      refine quiet (.refl _) ?_
      rw [inFlight_withPhase_of_not_owns rfl,
        inFlight_of_not_owns (by rw [was]; rfl)]

/-- No step loses or duplicates a request. -/
private theorem held_of_step
    {known : List Request} {received : List ℕ} {action : Action}
    (reserved : Reserved cfg known engine)
    (conserved : Conserved received engine) (distinct : received.Nodup)
    (effect : StepEffect cfg runtime engine action next) :
    next.heldIds.Perm (engine.heldIds ++ requestIds action.received) ∧
      next.shared.totalReceived =
        engine.shared.totalReceived + action.received.length := by
  have heldDistinct := conserved.held.symm.nodup distinct
  cases effect with
  | queued pending_eq assignments_eq totalReceived_eq same =>
      refine ⟨List.perm_iff_count.mpr fun requestId => ?_, totalReceived_eq⟩
      rw [heldIds, heldIds, inFlight, inFlight, pending_eq, assignments_eq,
        same.workers_eq]
      simp only [requestIds, List.count_append, List.map_append]
      omega
  | corrected nothing pending_eq assignments_eq totalReceived_eq _ _ same =>
      rw [nothing, requestIds, List.map_nil, List.append_nil, heldIds, heldIds,
        inFlight, inFlight, pending_eq, assignments_eq, same.workers_eq]
      exact ⟨(Dictionary.keys_adjust_perm _ _ _).append_left _,
        totalReceived_eq⟩
  | selected _ _ _ => exact ⟨by simp [heldIds, inFlight, Action.received], rfl⟩
  | unclaimed _ pending_perm assignments_eq totalReceived_eq same =>
      have inFlight_eq : next.inFlight = engine.inFlight := by
        rw [inFlight, same.workers_eq]
        rfl
      rw [heldIds, heldIds, inFlight_eq, assignments_eq]
      refine ⟨List.perm_iff_count.mpr fun requestId => ?_, totalReceived_eq⟩
      have pendingCount := (pending_perm.map Request.id).count_eq requestId
      simp only [Action.received, requestIds, List.count_append, List.map_nil,
        List.append_nil] at pendingCount ⊢
      omega
  | @claimed selection claimed _ _ _ _ pending_perm assignments_eq
      totalReceived_eq workers_eq _ _ _ =>
      have fresh : engine.spawned ∉ engine.workers := fun present => by
        obtain ⟨worker, found⟩ := Dictionary.exists_lookup_of_mem present
        exact absurd (reserved.spawned found) (Nat.lt_irrefl _)
      have inFlight_eq : next.inFlight = claimed ++ engine.inFlight := by
        rw [inFlight, workers_eq, Dictionary.values_insert_of_absent fresh]
        rfl
      rw [heldIds, heldIds, inFlight_eq, assignments_eq]
      refine ⟨List.perm_iff_count.mpr fun requestId => ?_, totalReceived_eq⟩
      have pendingCount := (pending_perm.map Request.id).count_eq requestId
      simp only [Action.received, requestIds, List.count_append, List.map_nil,
        List.map_append, List.append_nil] at pendingCount ⊢
      omega
  | worked found effect workers_eq _ _ _ =>
      obtain ⟨held, total⟩ :=
        conserved.held_of_effect heldDistinct found effect rfl workers_eq
      exact ⟨by simpa [Action.received] using held, total⟩
  | @released leaver worker scheduled _ found was _ shared_eq workers_eq _ _ _ =>
      have before := (Dictionary.values_erase_of_lookup found).flatMap_right
        BatchWorker.inFlight
      rw [List.flatMap_cons, inFlight_of_not_owns (by rw [was]; rfl),
        List.nil_append, ← workers_eq] at before
      refine ⟨?_, by rw [shared_eq]; rfl⟩
      have inFlight_perm : next.inFlight.Perm engine.inFlight := before.symm
      rw [heldIds, heldIds, shared_eq]
      simp only [Action.received, requestIds, List.map_nil, List.append_nil]
      exact ((inFlight_perm.map Request.id).append_left _).append_right _

theorem step
    {known : List Request} {action : Action}
    (reserved : Reserved cfg known engine)
    (conserved : Conserved (requestIds known) engine)
    (distinct : (requestIds known).Nodup)
    (taken : Engine.step cfg runtime engine action = some next) :
    Conserved (requestIds (known ++ action.received)) next := by
  have effect := step_effect taken
  obtain ⟨_, change⟩ := effect.assignmentsChange
  obtain ⟨held, total⟩ := conserved.held_of_step reserved distinct effect
  have heldDistinct := conserved.held.symm.nodup distinct
  refine ⟨?_, ?_, change.keyed conserved.keyed, ?_⟩
  · rw [requestIds, List.map_append]
    exact held.trans (conserved.held.append_right _)
  · rw [total, conserved.total]
    simp
  · exact (rules reserved heldDistinct conserved.keyed _).kept_of_step
      conserved.promise taken

/-- Requests are conserved in every run that receives distinct identifiers. -/
theorem of_run {actions : List Action}
    (unique : (requestIds (receivedBy actions)).Nodup)
    (reached : Transition.run (Engine.step cfg runtime) (Engine.new cfg)
      actions = some engine) :
    Conserved (requestIds (receivedBy actions)) engine := by
  have kept := Transition.run_induction
    (fun history state => (requestIds (receivedBy history)).Nodup →
      Reserved cfg (receivedBy history) state ∧
        Conserved (requestIds (receivedBy history)) state)
    (fun _ => ⟨.new, .new⟩) ?_ reached
  · exact (kept unique).2
  · intro history state action next before taken distinct
    rw [receivedBy_concat] at distinct ⊢
    have earlier : (requestIds (receivedBy history)).Nodup := by
      rw [requestIds, List.map_append] at distinct
      exact (List.nodup_append.mp distinct).1
    obtain ⟨reserved, conserved⟩ := before earlier
    exact ⟨reserved.step (step_effect taken),
      conserved.step reserved earlier taken⟩

end Conserved

/-! ## Conservation -/

/-- Every identifier ever received is pending, in flight or committed, exactly
once, and the counter of received requests is the sum of the three. -/
theorem run_conserves_requests
    (cfg : Config) (runtime : NumericRuntime σ) (actions : List Action)
    (engine : Engine σ)
    (unique : (requestIds (receivedBy actions)).Nodup)
    (reached : Transition.run (step cfg runtime) (new cfg) actions =
      some engine) :
    (requestIds engine.shared.pending ++ requestIds engine.inFlight ++
        engine.shared.assignments.keys).Perm
          (requestIds (receivedBy actions)) ∧
      (requestIds engine.shared.pending ++ requestIds engine.inFlight ++
        engine.shared.assignments.keys).Nodup ∧
      engine.shared.totalReceived =
        engine.shared.pending.length + engine.inFlight.length +
          engine.shared.assignments.keys.length := by
  have conserved := Conserved.of_run unique reached
  refine ⟨conserved.held, conserved.held.symm.nodup unique, ?_⟩
  have sizes := conserved.held.length_eq
  rw [conserved.total, ← sizes]
  simp [heldIds, Nat.add_assoc]

/-- A third request arrives while a batch of two is being solved. -/
def overlappingRun : List Action :=
  [.addRequests [.new 0 1 0 3, .new 0 2 0 3],
    .selectProfile 0 true (List.replicate 24 1), .claimBatch, .work 0 .enter,
    .work 0 .observe, .addRequest (.new 0 3 0 3), .work 0 (.solve .steady),
    .work 0 .commit, .release 0]

private theorem overlappingRun_completes :
    ∃ engine,
      Transition.run (step Config.default .least) (new Config.default)
        overlappingRun = some engine :=
  Option.isSome_iff_exists.mp (by decide +kernel)

theorem run_conserves_requests_overlapping :
    ∃ engine,
      Transition.run (step Config.default .least) (new Config.default)
          overlappingRun = some engine ∧
        (requestIds engine.shared.pending ++ requestIds engine.inFlight ++
            engine.shared.assignments.keys).Perm
              (requestIds (receivedBy overlappingRun)) ∧
          (requestIds engine.shared.pending ++ requestIds engine.inFlight ++
            engine.shared.assignments.keys).Nodup ∧
          engine.shared.totalReceived =
            engine.shared.pending.length + engine.inFlight.length +
              engine.shared.assignments.keys.length := by
  obtain ⟨engine, reached⟩ := overlappingRun_completes
  exact ⟨engine, reached,
    run_conserves_requests Config.default .least overlappingRun engine
      (by decide) reached⟩

end Engine

end Carbonshift
