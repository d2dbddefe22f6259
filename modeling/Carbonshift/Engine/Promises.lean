import Carbonshift.Engine.SchedulerSteps

/-!
# Promises of a worker

What a worker has read and what it proposes stay meaningful while other
workers go on.  A promise says what holds of the two phases in terms of the
committed assignments; the rules below are what has to be shown for it to
hold of every worker in every reachable state.
-/

namespace Carbonshift

namespace Engine

variable {σ : Type} {cfg : Config} {runtime : NumericRuntime σ}

/-! ## Changes of the committed assignments -/

/-- How a step changes the committed assignments, and which worker commits. -/
inductive AssignmentsChange (engine : Engine σ) (correctsError : Bool)
    (after : Dictionary ℕ Assignment) : Option ℕ → Prop where
  | same
      (assignments_eq : after = engine.shared.assignments) :
      AssignmentsChange engine correctsError after none
  | corrected {requestId : ℕ} {change : Assignment → Assignment}
      (place : KeepsPlace change)
      (error_eq : correctsError = false →
        ∀ assignment, (change assignment).error = assignment.error)
      (assignments_eq :
        after = engine.shared.assignments.adjust requestId change) :
      AssignmentsChange engine correctsError after none
  | committed {workerId : ℕ} {worker : BatchWorker σ}
      {tiers : List CapacityTier} {rollbacks : ℕ} {proposal : SolverProposal σ}
      (found : engine.workers.lookup workerId = some worker)
      (was : worker.phase = .proposed tiers rollbacks proposal)
      (assignments_eq :
        after =
          (engine.shared.addAssignments proposal.assignments).assignments) :
      AssignmentsChange engine correctsError after (some workerId)

private theorem WorkerEffect.assignmentsChange
    {engine : Engine σ} {workerId : ℕ} {worker : BatchWorker σ}
    {phase : WorkerPhase σ} {shared : SharedState}
    (found : engine.workers.lookup workerId = some worker)
    (effect : WorkerEffect cfg runtime engine worker phase shared)
    (correctsError : Bool) :
    AssignmentsChange engine correctsError shared.assignments none ∨
      AssignmentsChange engine correctsError shared.assignments
        (some workerId) := by
  cases effect with
  | entered _ => exact Or.inl (.same rfl)
  | observedBatch _ _ => exact Or.inl (.same rfl)
  | observedSwarm _ _ _ => exact Or.inl (.same rfl)
  | solvedBatch _ _ => exact Or.inl (.same rfl)
  | solvedSwarm _ _ _ => exact Or.inl (.same rfl)
  | rolledBack _ same => exact Or.inl (.same same.assignments_eq)
  | committed was _ same =>
      exact Or.inr (.committed found was same.assignments_eq)
  | requeued _ => exact Or.inl (.same rfl)
  | merged _ => exact Or.inl (.same rfl)

/-- The assignments change by a correction or a commit only. -/
theorem StepEffect.assignmentsChange
    {engine next : Engine σ} {action : Action}
    (effect : StepEffect cfg runtime engine action next) :
    ∃ committer,
      AssignmentsChange engine action.correctsError next.shared.assignments
        committer := by
  cases effect with
  | queued _ assignments_eq _ _ => exact ⟨none, .same assignments_eq⟩
  | corrected _ _ assignments_eq _ place error_eq _ =>
      exact ⟨none, .corrected place error_eq assignments_eq⟩
  | selected _ _ _ => exact ⟨none, .same rfl⟩
  | unclaimed _ _ assignments_eq _ _ => exact ⟨none, .same assignments_eq⟩
  | claimed _ _ _ _ assignments_eq _ _ _ _ _ =>
      exact ⟨none, .same assignments_eq⟩
  | worked found effect _ _ _ _ =>
      rcases effect.assignmentsChange found _ with quiet | commits
      · exact ⟨none, quiet⟩
      · exact ⟨some _, commits⟩
  | released _ _ _ shared_eq _ _ _ _ =>
      exact ⟨none, .same (by rw [shared_eq])⟩

/-- What a worker of the next state did in the step: it was spawned, it moved,
or it kept its phase while the others changed the assignments. -/
inductive WorkerHistory (cfg : Config) (runtime : NumericRuntime σ)
    (engine : Engine σ) (correctsError : Bool) (shared : SharedState)
    (workerId : ℕ) : BatchWorker σ → Prop where
  | spawned {worker : BatchWorker σ}
      (phase_eq : worker.phase = .claimed) :
      WorkerHistory cfg runtime engine correctsError shared workerId worker
  | moved {worker : BatchWorker σ} {phase : WorkerPhase σ}
      (found : engine.workers.lookup workerId = some worker)
      (effect : WorkerEffect cfg runtime engine worker phase shared) :
      WorkerHistory cfg runtime engine correctsError shared workerId
        (worker.withPhase phase)
  | waited {worker : BatchWorker σ} {committer : Option ℕ}
      (found : engine.workers.lookup workerId = some worker)
      (other : committer ≠ some workerId)
      (change : AssignmentsChange engine correctsError shared.assignments
        committer) :
      WorkerHistory cfg runtime engine correctsError shared workerId worker

theorem StepEffect.workerHistory
    {engine next : Engine σ} {action : Action}
    (effect : StepEffect cfg runtime engine action next)
    {workerId : ℕ} {worker : BatchWorker σ}
    (found : next.workers.lookup workerId = some worker) :
    WorkerHistory cfg runtime engine action.correctsError next.shared workerId
      worker := by
  cases effect with
  | queued _ assignments_eq _ reservations =>
      rw [reservations.workers_eq] at found
      exact .waited found (by simp) (.same assignments_eq)
  | corrected _ _ assignments_eq _ place error_eq reservations =>
      rw [reservations.workers_eq] at found
      exact .waited found (by simp) (.corrected place error_eq assignments_eq)
  | selected _ _ _ => exact .waited found (by simp) (.same rfl)
  | unclaimed _ _ assignments_eq _ reservations =>
      rw [reservations.workers_eq] at found
      exact .waited found (by simp) (.same assignments_eq)
  | claimed _ _ _ _ assignments_eq _ workers_eq _ _ _ =>
      rw [workers_eq] at found
      by_cases fresh : workerId = engine.spawned
      · subst fresh
        rw [AList.lookup_insert] at found
        cases found
        exact .spawned rfl
      · rw [AList.lookup_insert_ne fresh] at found
        exact .waited found (by simp) (.same assignments_eq)
  | @worked mover _ _ _ _ performed effect workers_eq _ _ _ =>
      rw [workers_eq] at found
      by_cases own : workerId = mover
      · subst own
        rw [AList.lookup_insert] at found
        cases found
        exact .moved performed effect
      · rw [AList.lookup_insert_ne own] at found
        rcases effect.assignmentsChange performed _ with quiet | commits
        · exact .waited found (by simp) quiet
        · exact .waited found (by simpa using Ne.symm own) commits
  | @released leaver _ _ _ _ _ _ shared_eq workers_eq _ _ _ =>
      rw [workers_eq] at found
      by_cases own : workerId = leaver
      · subst own
        rw [AList.lookup_erase] at found
        cases found
      · rw [AList.lookup_erase_ne own] at found
        exact .waited found (by simp) (.same (by rw [shared_eq]))

/-! ## Promises -/

/-- What holds of an observation and of a proposal, in terms of the committed
assignments. -/
structure PhasePromise (σ : Type) where
  observed :
    Dictionary ℕ Assignment → ClaimedBatch → List CapacityTier →
      SolverView σ → Prop
  proposed :
    Dictionary ℕ Assignment → ClaimedBatch → List CapacityTier →
      SolverProposal σ → Prop

namespace PhasePromise

variable (promise : PhasePromise σ)

/-- The promise, for the phase a worker is in. -/
structure Holds (assignments : Dictionary ℕ Assignment)
    (batch : ClaimedBatch) (phase : WorkerPhase σ) : Prop where
  observed : ∀ {tiers rollbacks view},
    phase = .observed tiers rollbacks view →
      promise.observed assignments batch tiers view
  proposed : ∀ {tiers rollbacks proposal},
    phase = .proposed tiers rollbacks proposal →
      promise.proposed assignments batch tiers proposal

/-- Every worker of the engine keeps the promise. -/
def Kept (engine : Engine σ) : Prop :=
  ∀ workerId worker, engine.workers.lookup workerId = some worker →
    promise.Holds engine.shared.assignments worker.toClaimedBatch worker.phase

theorem kept_new (cfg : Config) :
    promise.Kept (Engine.new cfg : Engine σ) := by
  intro workerId worker found
  have nobody : (none : Option (BatchWorker σ)) = some worker := found
  cases nobody

/-- What has to be shown of a promise for the worker that moves. -/
structure MoveRules (cfg : Config) (runtime : NumericRuntime σ)
    (engine : Engine σ) : Prop where
  observesBatch : ∀ {workerId worker tiers rollbacks},
    engine.workers.lookup workerId = some worker →
    worker.phase = .ready tiers rollbacks → cfg.workerKind = .batch →
      promise.observed engine.shared.assignments worker.toClaimedBatch tiers
        (.batch engine.shared.snapshotForSolver)
  observesSwarm : ∀ {workerId worker tiers rollbacks view},
    engine.workers.lookup workerId = some worker →
    worker.phase = .ready tiers rollbacks → cfg.workerKind ≠ .batch →
    view.swarmContext = some (swarmContext engine worker) →
      promise.observed engine.shared.assignments worker.toClaimedBatch tiers
        view
  solvesBatch : ∀ {workerId worker tiers rollbacks snapshot oracle result
      recovery},
    engine.workers.lookup workerId = some worker →
    worker.phase = .observed tiers rollbacks (.batch snapshot) →
    (selectBatchSolver cfg.solver.solverStrategy).solve runtime oracle
      (batchInput cfg engine worker tiers snapshot) =
        some (result, recovery) →
    result.assignments ≠ [] →
    promise.observed engine.shared.assignments worker.toClaimedBatch tiers
      (.batch snapshot) →
      promise.proposed engine.shared.assignments worker.toClaimedBatch tiers
        { assignments := result.assignments
          baselineSlotCounts := result.baselineSlotCounts
          context := some result.context
          delta := .none }
  solvesSwarm : ∀ {workerId worker tiers rollbacks view ctx delta}
      {learned : OnlineSwarmState σ}
      {solved : List Assignment × OnlineSwarmState σ},
    engine.workers.lookup workerId = some worker →
    worker.phase = .observed tiers rollbacks view →
    view.swarmContext = some ctx →
    learned.solveBatch runtime worker.pending worker.slot
      worker.carbonForecast ctx (cfg.workerPolicy worker.pending tiers) =
        some solved →
    solved.1 ≠ [] →
    promise.observed engine.shared.assignments worker.toClaimedBatch tiers
      view →
      promise.proposed engine.shared.assignments worker.toClaimedBatch tiers
        { assignments := ownedBy (batchProfileId worker.pending) solved.1
          baselineSlotCounts := ctx.slotCount
          context := none
          delta := delta }

/-- What has to be shown of a promise in the state before a step. -/
structure Rules (cfg : Config) (runtime : NumericRuntime σ)
    (engine : Engine σ) (correctsError : Bool) : Prop
    extends promise.MoveRules cfg runtime engine where
  stable : ∀ {workerId worker after committer},
    engine.workers.lookup workerId = some worker →
    AssignmentsChange engine correctsError after committer →
    committer ≠ some workerId →
    promise.Holds engine.shared.assignments worker.toClaimedBatch
      worker.phase →
      promise.Holds after worker.toClaimedBatch worker.phase

variable {promise}

section Holding

variable {assignments : Dictionary ℕ Assignment} {batch : ClaimedBatch}

theorem Holds.of_observed
    {tiers : List CapacityTier} {rollbacks : ℕ} {view : SolverView σ}
    (observed : promise.observed assignments batch tiers view) :
    promise.Holds assignments batch (.observed tiers rollbacks view) := by
  refine ⟨fun same => ?_, nofun⟩
  cases same
  exact observed

theorem Holds.of_proposed
    {tiers : List CapacityTier} {rollbacks : ℕ} {proposal : SolverProposal σ}
    (proposed : promise.proposed assignments batch tiers proposal) :
    promise.Holds assignments batch (.proposed tiers rollbacks proposal) := by
  refine ⟨nofun, fun same => ?_⟩
  cases same
  exact proposed

private theorem Holds.afterSolve
    {tiers : List CapacityTier} {rollbacks : ℕ} {proposal : SolverProposal σ}
    (proposed : proposal.assignments ≠ [] →
      promise.proposed assignments batch tiers proposal) :
    promise.Holds assignments batch (afterSolve tiers rollbacks proposal) := by
  unfold Engine.afterSolve
  split
  · exact ⟨nofun, nofun⟩
  · rename_i nonempty
    exact .of_proposed (proposed (by simpa using nonempty))

private theorem Holds.afterRollback
    {tiers : List CapacityTier} {rollbacks : ℕ} :
    promise.Holds assignments batch (afterRollback cfg tiers rollbacks) := by
  unfold Engine.afterRollback
  split <;> exact ⟨nofun, nofun⟩

private theorem Holds.afterCommit {proposal : SolverProposal σ} :
    promise.Holds assignments batch (afterCommit cfg proposal) := by
  unfold Engine.afterCommit
  split <;> exact ⟨nofun, nofun⟩

end Holding

/-- The worker that takes the step keeps the promise. -/
theorem MoveRules.holds_of_effect
    {engine : Engine σ} (rules : promise.MoveRules cfg runtime engine)
    {workerId : ℕ} {worker : BatchWorker σ} {phase : WorkerPhase σ}
    {shared : SharedState}
    (found : engine.workers.lookup workerId = some worker)
    (before : promise.Holds engine.shared.assignments worker.toClaimedBatch
      worker.phase)
    (effect : WorkerEffect cfg runtime engine worker phase shared) :
    promise.Holds shared.assignments worker.toClaimedBatch phase := by
  cases effect with
  | entered _ => exact ⟨nofun, nofun⟩
  | observedBatch kind was =>
      exact .of_observed (rules.observesBatch found was kind)
  | observedSwarm kind was reads =>
      exact .of_observed (rules.observesSwarm found was kind reads)
  | solvedBatch was solved =>
      exact .afterSolve fun nonempty =>
        rules.solvesBatch found was solved nonempty (before.observed was)
  | solvedSwarm was reads answered =>
      refine .afterSolve fun nonempty => ?_
      exact rules.solvesSwarm found was reads answered
        (by simpa [ownedBy] using nonempty) (before.observed was)
  | rolledBack _ _ => exact .afterRollback
  | committed _ _ _ => exact .afterCommit
  | requeued _ => exact ⟨nofun, nofun⟩
  | merged _ => exact ⟨nofun, nofun⟩

/-- The promises are kept by every step that satisfies the rules. -/
theorem Rules.kept_of_step
    {engine next : Engine σ} {action : Action}
    (rules : promise.Rules cfg runtime engine action.correctsError)
    (kept : promise.Kept engine)
    (taken : step cfg runtime engine action = some next) :
    promise.Kept next := by
  intro workerId worker found
  cases (step_effect taken).workerHistory found with
  | spawned phase_eq =>
      rw [phase_eq]
      exact ⟨nofun, nofun⟩
  | moved before effect =>
      have after := rules.holds_of_effect before (kept workerId _ before) effect
      exact after
  | waited before other change =>
      exact rules.stable before change other (kept workerId worker before)

end PhasePromise

end Engine

end Carbonshift
