import Carbonshift.Engine.SchedulerSteps

/-!
# Who moves the current slot

The clock alone stores the engine's slot: no batch worker, no correction and
no dispatch pass does.
-/

namespace Carbonshift

namespace SharedState

variable {state : SharedState}

@[simp]
theorem recordAssignment_currentSlot (assignment : Assignment) :
    (state.recordAssignment assignment).currentSlot = state.currentSlot := by
  unfold recordAssignment
  split <;> rfl

@[simp]
theorem addAssignments_currentSlot (assignments : List Assignment) :
    (state.addAssignments assignments).currentSlot = state.currentSlot := by
  induction assignments generalizing state with
  | nil => rfl
  | cons assignment rest inductionHypothesis =>
      rw [addAssignments_cons, inductionHypothesis,
        recordAssignment_currentSlot]

theorem correctAssignmentError_currentSlot
    (requestId : ℕ) (actualError : ℚ) :
    (state.correctAssignmentError requestId actualError).currentSlot =
      state.currentSlot := by
  unfold correctAssignmentError
  split <;> rfl

theorem correctAssignmentCarbonCost_currentSlot
    (requestId : ℕ) (actualCarbonCost : ℚ) :
    (state.correctAssignmentCarbonCost requestId
      actualCarbonCost).2.currentSlot = state.currentSlot := by
  unfold correctAssignmentCarbonCost
  split <;> rfl

theorem tryAddAssignmentsChecked_currentSlot
    (assignments : List Assignment) (expectedPerSlot : Dictionary ℤ ℤ)
    (tiers : List CapacityTier) (forceCommit : Bool)
    (consecutiveBefore : ℕ) :
    (state.tryAddAssignmentsChecked assignments expectedPerSlot tiers
      forceCommit consecutiveBefore).2.currentSlot = state.currentSlot := by
  unfold tryAddAssignmentsChecked
  split
  · rfl
  · exact addAssignments_currentSlot assignments

end SharedState

namespace Engine

variable {σ : Type} {cfg : Config} {runtime : NumericRuntime σ}
variable {engine next : Engine σ} {worker : BatchWorker σ}

theorem flagRolledBack_currentSlot (cfg : Config) (worker : BatchWorker σ)
    (rollbacks : ℕ) (shared : SharedState) :
    (flagRolledBack cfg worker rollbacks shared).currentSlot =
      shared.currentSlot := by
  unfold flagRolledBack
  split <;> rfl

theorem commitAttempt_currentSlot (cfg : Config) (engine : Engine σ)
    (tiers : List CapacityTier) (rollbacks : ℕ)
    (proposal : SolverProposal σ) :
    (commitAttempt cfg engine tiers rollbacks proposal).2.currentSlot =
      engine.shared.currentSlot := by
  rw [commitAttempt, SharedState.tryAddAssignmentsChecked_currentSlot]

private theorem currentSlot_of_commit {moved : BatchWorker σ × Engine σ}
    (taken : commit cfg engine worker = some moved) :
    moved.2.shared.currentSlot = engine.shared.currentSlot := by
  unfold commit at taken
  split at taken
  · rename_i tiers rollbacks proposal was
    have kept := commitAttempt_currentSlot cfg engine tiers rollbacks proposal
    split at taken
    · rename_i shared attempt
      rw [attempt] at kept
      cases taken
      exact kept
    · rename_i shared attempt
      rw [attempt] at kept
      cases taken
      exact (flagRolledBack_currentSlot cfg worker rollbacks shared).trans kept
  · cases taken

/-- No step of a worker moves the slot. -/
theorem currentSlot_of_workerMove {moved : BatchWorker σ × Engine σ}
    {move : WorkerMove}
    (taken : workerMove cfg runtime engine worker move = some moved) :
    moved.2.shared.currentSlot = engine.shared.currentSlot := by
  cases move with
  | enter =>
      simp only [workerMove, enter] at taken
      split at taken
      · cases taken
        dsimp only
        split <;> rfl
      · cases taken
  | observe =>
      rw [workerMove] at taken
      cases observe_cases taken <;> rfl
  | solve oracle =>
      rw [workerMove] at taken
      cases solve_cases taken <;> rfl
  | commit =>
      rw [workerMove] at taken
      exact currentSlot_of_commit taken
  | requeue =>
      simp only [workerMove, requeue] at taken
      split at taken
      · cases taken
        rfl
      · cases taken
  | mergeLearned =>
      simp only [workerMove, mergeLearned] at taken
      split at taken
      · cases taken
        rfl
      · cases taken

def Action.storesSlot : Action → Bool
  | .setCurrentSlot _ => true
  | _ => false

/-- Only a store moves the slot. -/
theorem currentSlot_of_step {action : Action}
    (taken : step cfg runtime engine action = some next)
    (stores : action.storesSlot = false) :
    next.shared.currentSlot = engine.shared.currentSlot := by
  cases action with
  | addRequest request =>
      cases taken
      rfl
  | addRequests requests =>
      cases taken
      rfl
  | setCurrentSlot slot => cases stores
  | initializeCapacityTiers tiers =>
      simp only [step] at taken
      split at taken
      · cases taken
      · cases taken
        unfold withShared SharedState.initializeCapacityTiers
        split <;> rfl
  | replaceCapacityTiers tiers =>
      simp only [step] at taken
      split at taken
      · cases taken
      · cases taken
        rfl
  | correctAssignmentError requestId actualError =>
      cases taken
      exact SharedState.correctAssignmentError_currentSlot _ _
  | correctAssignmentCarbonCost requestId actualCarbonCost =>
      cases taken
      exact SharedState.correctAssignmentCarbonCost_currentSlot _ _
  | selectProfile elapsedSlots flush carbonForecast =>
      simp only [step, selectProfile] at taken
      split at taken
      · cases taken
      · obtain ⟨chosen, _, rfl⟩ := Option.map_eq_some_iff.mp taken
        rfl
  | claimBatch =>
      obtain ⟨selection, _, rfl⟩ := Option.map_eq_some_iff.mp taken
      dsimp only
      split
      · rfl
      · split <;> rfl
  | work workerId move =>
      obtain ⟨worker, _, moved⟩ := Option.bind_eq_some_iff.mp taken
      obtain ⟨after, worked, rfl⟩ := Option.map_eq_some_iff.mp moved
      exact currentSlot_of_workerMove worked
  | release workerId =>
      obtain ⟨worker, _, released⟩ := Option.bind_eq_some_iff.mp taken
      simp only [release] at released
      split at released
      · cases released
        rfl
      · cases released

end Engine

end Carbonshift
