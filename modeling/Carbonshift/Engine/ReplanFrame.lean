import Carbonshift.Engine.SingleWriter

/-!
# What a commit can change

With unlocked future assignments, a batch strategy may move what is committed.
It moves only assignments of its own profile, and none before the slot it
solves for: these are the movable ones of its snapshot, and no other worker
touches them before the commit.
-/

namespace Carbonshift

namespace Engine

variable {σ : Type} {cfg : Config} {runtime : NumericRuntime σ}
variable {engine next : Engine σ} {known : List Request}

/-- A worker of the batch may replace the committed assignment. -/
structure Replannable (cfg : Config) (batch : ClaimedBatch)
    (assignment : Assignment) : Prop where
  kind : cfg.workerKind = .batch
  unlocked : cfg.solver.dpLockFutureAssignments = false
  profile : assignment.qosProfileId = batch.profileId
  future : batch.slot ≤ assignment.scheduledSlot

/-- The snapshot is still right about the batch's profile, and what is proposed
besides the batch is replannable. -/
def replanFramePromise (cfg : Config) (σ : Type) : PhasePromise σ where
  observed now batch _ view :=
    ∀ snapshot, view = .batch snapshot →
      cfg.workerKind = .batch ∧
        ∀ assignment ∈ snapshot.assignments.values,
          assignment.qosProfileId = batch.profileId →
            ∃ stored, now.lookup assignment.requestId = some stored ∧
              stored.qosProfileId = assignment.qosProfileId ∧
              stored.scheduledSlot = assignment.scheduledSlot
  proposed now batch _ proposal :=
    ∀ requestId ∈ assignmentIds proposal.assignments,
      requestId ∈ requestIds batch.pending ∨
        ∃ stored, now.lookup requestId = some stored ∧
          Replannable cfg batch stored

/-- A commit replaces an assignment only if its worker may. -/
theorem lookup_of_commit
    (kept : (replanFramePromise cfg σ).Kept engine)
    (distinct : engine.heldIds.Nodup) {workerId : ℕ}
    {worker : BatchWorker σ} {tiers : List CapacityTier} {rollbacks : ℕ}
    {proposal : SolverProposal σ}
    (found : engine.workers.lookup workerId = some worker)
    (was : worker.phase = .proposed tiers rollbacks proposal)
    {requestId : ℕ} {assignment : Assignment}
    (stored : engine.shared.assignments.lookup requestId = some assignment) :
    (engine.shared.addAssignments proposal.assignments).assignments.lookup
        requestId = some assignment ∨
      Replannable cfg worker.toClaimedBatch assignment := by
  by_cases proposed : requestId ∈ assignmentIds proposal.assignments
  · rcases (kept workerId worker found).proposed was requestId proposed with
      own | ⟨replaced, there, replannable⟩
    · have uncommitted := (uncommitted_of_owns distinct found
        (by rw [was]; rfl)).2 requestId own
      exact absurd (Dictionary.mem_of_lookup stored) uncommitted
    · rw [stored, Option.some.injEq] at there
      rw [there]
      exact Or.inr replannable
  · refine Or.inl ?_
    rw [SharedState.lookup_addAssignments_of_absent proposed]
    exact stored

/-- The place of an assignment survives what another profile's worker does. -/
private theorem place_of_change
    (kept : (replanFramePromise cfg σ).Kept engine)
    (reserved : Reserved cfg known engine)
    (distinct : engine.heldIds.Nodup)
    {correctsError : Bool} {after : Dictionary ℕ Assignment}
    {committer : Option ℕ}
    (change : AssignmentsChange engine correctsError after committer)
    {workerId : ℕ} {worker : BatchWorker σ}
    (found : engine.workers.lookup workerId = some worker)
    (other : committer ≠ some workerId)
    {requestId : ℕ} {stored : Assignment}
    (there : engine.shared.assignments.lookup requestId = some stored)
    (own : stored.qosProfileId = worker.profileId) :
    ∃ later, after.lookup requestId = some later ∧
      later.qosProfileId = stored.qosProfileId ∧
      later.scheduledSlot = stored.scheduledSlot := by
  cases change with
  | same assignments_eq =>
      exact ⟨stored, by rw [assignments_eq, there], rfl, rfl⟩
  | @corrected correctedId change place _ assignments_eq =>
      rw [assignments_eq]
      refine Dictionary.exists_lookup_adjust ⟨stored, there, rfl, rfl⟩
        fun assignment _ _ same => ?_
      exact ⟨(place.qosProfileId_eq assignment).trans same.1,
        (place.scheduledSlot_eq assignment).trans same.2⟩
  | @committed moving mover _ _ proposal present was assignments_eq =>
      rw [assignments_eq]
      rcases lookup_of_commit kept distinct present was there with
        kept | replannable
      · exact ⟨stored, kept, rfl, rfl⟩
      · refine absurd (congrArg some ?_) other
        exact reserved.exclusive present found
          (replannable.profile.symm.trans own)

private theorem replanFrame_rules
    (kept : (replanFramePromise cfg σ).Kept engine)
    (reserved : Reserved cfg known engine)
    (distinct : engine.heldIds.Nodup)
    (keyed : Keyed engine.shared.assignments) (correctsError : Bool) :
    (replanFramePromise cfg σ).Rules cfg runtime engine correctsError where
  observesBatch := by
    intro _ _ _ _ _ _ kind snapshot same
    cases same
    refine ⟨kind, fun assignment member _ => ?_⟩
    obtain ⟨requestId, stored⟩ := Dictionary.mem_values_iff.mp member
    refine ⟨assignment, ?_, rfl, rfl⟩
    rw [keyed stored]
    exact stored
  observesSwarm := by
    intro _ _ _ _ _ _ _ _ reads snapshot same
    subst same
    cases reads
  solvesBatch := by
    intro workerId worker tiers _ snapshot oracle result _ found was solved
      nonempty observed
    have batch := reserved.wellFormed found
    have unique := (uncommitted_of_owns distinct found (by rw [was]; rfl)).1
    obtain ⟨kind, current⟩ := observed snapshot rfl
    intro requestId member
    dsimp only at member
    rcases BatchSolver.solve_proposal unique batch.someRequest solved
      with nothing | proposal
    · exact absurd nothing nonempty
    · rcases proposal.covers with own | replanned
      · rw [own] at member
        exact Or.inl member
      · rw [replanned] at member
        refine (List.mem_append.mp member).imp_right fun movable => ?_
        obtain ⟨assignment, inside, rfl⟩ := List.mem_map.mp movable
        have unlocked : cfg.solver.dpLockFutureAssignments = false := by
          by_contra locked
          have nothing := @BatchSolveContext.movableFuture_of_locked
            (batchInput cfg engine worker tiers snapshot)
            (eq_true_of_ne_false locked) oracle.futureOrder
          rw [nothing] at inside
          cases inside
        obtain ⟨seen, profile, future⟩ :=
          BatchSolveContext.mem_movableFuture inside
        have own : assignment.qosProfileId = worker.profileId :=
          profile.trans batch.batchProfileId_eq
        obtain ⟨stored, there, sameProfile, sameSlot⟩ :=
          current assignment seen own
        exact ⟨stored, there, kind, unlocked, sameProfile.trans own,
          future.trans sameSlot.ge⟩
  solvesSwarm := by
    intro _ _ _ _ _ _ _ _ _ _ _ _ answered nonempty _ requestId member
    rcases OnlineSwarmState.solveBatch_proposal answered
      with nothing | ⟨covers, _⟩
    · exact absurd nothing nonempty
    · refine Or.inl ?_
      dsimp only at member
      rw [← covers]
      simpa [ownedBy, assignmentIds] using member
  stable := by
    intro workerId worker after _ found change other holds
    refine ⟨fun was snapshot same => ?_, fun was requestId member => ?_⟩
    · obtain ⟨kind, current⟩ := holds.observed was snapshot same
      refine ⟨kind, fun assignment inside own => ?_⟩
      obtain ⟨stored, there, profile, slot⟩ := current assignment inside own
      obtain ⟨later, still, sameProfile, sameSlot⟩ := place_of_change kept
        reserved distinct change found other there (profile.trans own)
      exact ⟨later, still, sameProfile.trans profile, sameSlot.trans slot⟩
    · refine (holds.proposed was requestId member).imp_right ?_
      rintro ⟨stored, there, replannable⟩
      obtain ⟨later, still, sameProfile, sameSlot⟩ := place_of_change kept
        reserved distinct change found other there replannable.profile
      exact ⟨later, still, replannable.kind, replannable.unlocked,
        sameProfile.trans replannable.profile,
        replannable.future.trans sameSlot.ge⟩

/-- In every state of a run, what the workers propose besides their batches is
replannable. -/
theorem replanFrame_of_run {actions : List Action}
    (unique : (requestIds (receivedBy actions)).Nodup)
    (reached : Transition.run (step cfg runtime) (new cfg) actions =
      some engine) :
    (replanFramePromise cfg σ).Kept engine ∧ engine.heldIds.Nodup := by
  have kept := Transition.run_induction
    (fun history state => (requestIds (receivedBy history)).Nodup →
      (Reserved cfg (receivedBy history) state ∧
        Conserved (requestIds (receivedBy history)) state) ∧
        (replanFramePromise cfg σ).Kept state)
    (fun _ => ⟨⟨.new, .new⟩, PhasePromise.kept_new _ cfg⟩) ?_ reached
  · obtain ⟨⟨_, conserved⟩, promise⟩ := kept unique
    exact ⟨promise, conserved.held.symm.nodup unique⟩
  · intro history state action next before taken distinct
    rw [receivedBy_concat] at distinct ⊢
    have earlier : (requestIds (receivedBy history)).Nodup := by
      rw [requestIds, List.map_append] at distinct
      exact (List.nodup_append.mp distinct).1
    obtain ⟨⟨reserved, conserved⟩, promise⟩ := before earlier
    have held := conserved.held.symm.nodup earlier
    exact ⟨⟨reserved.step (step_effect taken),
      conserved.step reserved earlier taken⟩,
      (replanFrame_rules promise reserved held conserved.keyed _).kept_of_step
        promise taken⟩

/-! ## Steps that leave the assignments alone -/

/-- The request whose assignment an action corrects. -/
def Action.corrects : Action → Option ℕ
  | .correctAssignmentError requestId _ => some requestId
  | .correctAssignmentCarbonCost requestId _ => some requestId
  | _ => none

private theorem assignments_of_work {workerId : ℕ} {move : WorkerMove}
    (quiet : move ≠ .commit)
    (taken : step cfg runtime engine (.work workerId move) = some next) :
    next.shared.assignments = engine.shared.assignments := by
  obtain ⟨worker, found, moves⟩ := Option.bind_eq_some_iff.mp taken
  obtain ⟨moved, performed, rfl⟩ := Option.map_eq_some_iff.mp moves
  obtain ⟨phase, _, effect, _⟩ := workerMove_moved performed
  dsimp only
  generalize moved.2.shared = shared at effect ⊢
  cases effect with
  | entered _ => rfl
  | observedBatch _ _ => rfl
  | observedSwarm _ _ _ => rfl
  | solvedBatch _ _ => rfl
  | solvedSwarm _ _ _ => rfl
  | rolledBack was _ =>
      exact absurd (move_eq_commit_of_proposed was performed) quiet
  | committed was _ _ =>
      exact absurd (move_eq_commit_of_proposed was performed) quiet
  | requeued _ => rfl
  | merged _ => rfl

/-- Only commits and corrections change the committed assignments. -/
theorem assignments_of_quiet {action : Action}
    (uncorrected : action.corrects = none) (quiet : action.isCommit = false)
    (taken : step cfg runtime engine action = some next) :
    next.shared.assignments = engine.shared.assignments := by
  cases action with
  | addRequest request =>
      cases taken
      rfl
  | addRequests requests =>
      cases taken
      rfl
  | setCurrentSlot slot =>
      cases taken
      rfl
  | initializeCapacityTiers tiers =>
      rw [step] at taken
      split at taken
      · cases taken
      · cases taken
        exact (SharedState.sameWork_initializeCapacityTiers tiers).assignments_eq
  | replaceCapacityTiers tiers =>
      rw [step] at taken
      split at taken
      · cases taken
      · cases taken
        rfl
  | correctAssignmentError requestId actualError => cases uncorrected
  | correctAssignmentCarbonCost requestId actualCarbonCost => cases uncorrected
  | selectProfile elapsedSlots flush carbonForecast =>
      rw [step, selectProfile] at taken
      split at taken
      · cases taken
      · obtain ⟨chosen, _, rfl⟩ := Option.map_eq_some_iff.mp taken
        rfl
  | claimBatch =>
      obtain ⟨selection, _, claimed⟩ := Option.map_eq_some_iff.mp taken
      dsimp only [SharedState.claimPendingRequestsForProfile] at claimed
      split at claimed
      · cases claimed
        rfl
      · split at claimed <;>
        · cases claimed
          rfl
  | work workerId move =>
      refine assignments_of_work (fun commits => ?_) taken
      rw [commits] at quiet
      cases quiet
  | release workerId =>
      obtain ⟨worker, _, released⟩ := Option.bind_eq_some_iff.mp taken
      unfold release at released
      split at released
      · cases released
        rfl
      · cases released

/-- A commit keeps every assignment that its worker may not replace. -/
theorem lookup_of_committing
    (kept : (replanFramePromise cfg σ).Kept engine)
    (distinct : engine.heldIds.Nodup) {workerId : ℕ}
    {worker : BatchWorker σ}
    (found : engine.workers.lookup workerId = some worker)
    (taken : step cfg runtime engine (.work workerId .commit) = some next)
    {requestId : ℕ} {assignment : Assignment}
    (stored : engine.shared.assignments.lookup requestId = some assignment) :
    next.shared.assignments.lookup requestId = some assignment ∨
      Replannable cfg worker.toClaimedBatch assignment := by
  rw [step, found, Option.bind_some] at taken
  obtain ⟨moved, performed, rfl⟩ := Option.map_eq_some_iff.mp taken
  obtain ⟨phase, _, effect, _⟩ := workerMove_moved performed
  dsimp only
  generalize moved.2.shared = shared at effect ⊢
  cases effect with
  | entered _ => exact Or.inl stored
  | observedBatch _ _ => exact Or.inl stored
  | observedSwarm _ _ _ => exact Or.inl stored
  | solvedBatch _ _ => exact Or.inl stored
  | solvedSwarm _ _ _ => exact Or.inl stored
  | rolledBack _ same =>
      rw [same.assignments_eq]
      exact Or.inl stored
  | committed was _ same =>
      rw [same.assignments_eq]
      exact lookup_of_commit kept distinct found was stored
  | requeued _ => exact Or.inl stored
  | merged _ => exact Or.inl stored

end Engine

end Carbonshift
