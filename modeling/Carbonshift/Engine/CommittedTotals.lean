import Carbonshift.Engine.LockedCommits
import Carbonshift.Engine.MainLoop
import Carbonshift.Engine.Replans

/-!
# Totals of a running engine

The engine changes the shared state only by its operations, so the error
totals agree with the assignments in every reachable state.  Without
replanning, the error sums do too.
-/

namespace Carbonshift

namespace SharedState

variable {state : SharedState}

theorem SameTotals.refl (state : SharedState) : SameTotals state state :=
  ⟨rfl, rfl, rfl, rfl, rfl⟩

/-- New assignments replace no error. -/
theorem replacedErrors_of_fresh
    (profileId : QosProfileId) {assignments : List Assignment}
    (distinct : (assignmentIds assignments).Nodup)
    (fresh : ∀ requestId ∈ assignmentIds assignments,
      requestId ∉ state.assignments) :
    replacedErrors profileId state assignments = 0 := by
  induction assignments generalizing state with
  | nil => rfl
  | cons assignment rest inductionHypothesis =>
      have unique := List.nodup_cons.mp distinct
      have missing : state.assignments.lookup assignment.requestId = none :=
        AList.lookup_eq_none.mpr (fresh _ List.mem_cons_self)
      rw [replacedErrors, replacedError, missing]
      refine (zero_add _).trans (inductionHypothesis unique.2 ?_)
      intro requestId member known
      rw [recordAssignment_assignments, AList.mem_insert] at known
      rcases known with same | earlier
      · exact unique.1 (same ▸ member)
      · exact fresh requestId (List.mem_cons_of_mem _ member) earlier

end SharedState

namespace Engine

variable {σ : Type} {cfg : Config} {runtime : NumericRuntime σ}
variable {engine next : Engine σ}

/-! ## Steps -/

/-- What a step does to the totals: the effect of an operation, and the
assignments it commits. -/
def StepTotals (engine next : Engine σ) (committed : List Assignment) : Prop :=
  ∃ middle, SharedState.TotalsEffect engine.shared middle committed ∧
    SharedState.SameTotals middle next.shared

/-- The committed assignments are those of a proposal. -/
def CommitsProposal (engine : Engine σ) (committed : List Assignment) : Prop :=
  committed = [] ∨
    ∃ workerId worker tiers rollbacks proposal,
      engine.workers.lookup workerId = some worker ∧
        worker.phase = .proposed tiers rollbacks proposal ∧
        committed = proposal.assignments

private theorem stepTotals_same
    (same : SharedState.SameTotals engine.shared next.shared) :
    ∃ committed, StepTotals engine next committed ∧
      CommitsProposal engine committed :=
  ⟨[], ⟨_, .same (.refl _), same⟩, Or.inl rfl⟩

private theorem sameTotals_flagRolledBack
    (worker : BatchWorker σ) (rollbacks : ℕ) (shared : SharedState) :
    SharedState.SameTotals shared
      (flagRolledBack cfg worker rollbacks shared) := by
  unfold flagRolledBack
  split <;> exact ⟨rfl, rfl, rfl, rfl, rfl⟩

private theorem commitAttempt_totals
    (cfg : Config) (engine : Engine σ) (tiers : List CapacityTier)
    (rollbacks : ℕ) (proposal : SolverProposal σ) :
    ∃ committed,
      SharedState.TotalsEffect engine.shared
          (commitAttempt cfg engine tiers rollbacks proposal).2 committed ∧
        (committed = [] ∨ committed = proposal.assignments) := by
  refine ⟨_, engine.shared.perform_effect (.tryAddAssignmentsChecked
    proposal.assignments
    (expectedPerSlot proposal.baselineSlotCounts proposal.assignments) tiers
    (cfg.forceCommit rollbacks) rollbacks), ?_⟩
  unfold SharedState.recorded
  dsimp only
  split
  · exact Or.inr rfl
  · exact Or.inl rfl

private theorem commit_totals
    {workerId : ℕ} {worker : BatchWorker σ}
    {moved : BatchWorker σ × Engine σ} {tiers : List CapacityTier}
    {rollbacks : ℕ} {proposal : SolverProposal σ}
    (found : engine.workers.lookup workerId = some worker)
    (was : worker.phase = .proposed tiers rollbacks proposal)
    (taken : commit cfg engine worker = some moved) :
    ∃ committed, StepTotals engine moved.2 committed ∧
      CommitsProposal engine committed := by
  obtain ⟨committed, effect, origin⟩ :=
    commitAttempt_totals cfg engine tiers rollbacks proposal
  have commits : CommitsProposal engine committed :=
    origin.imp_right fun same => ⟨_, _, _, _, _, found, was, same⟩
  rw [commit, was] at taken
  dsimp only at taken
  split at taken
  · rename_i shared attempt
    rw [attempt] at effect
    have shared_eq := congrArg (fun pair => pair.2.shared)
      (Option.some_inj.mp taken)
    dsimp only at shared_eq
    have same : SharedState.SameTotals shared moved.2.shared := by
      rw [← shared_eq]
      exact .refl shared
    exact ⟨committed, ⟨shared, effect, same⟩, commits⟩
  · rename_i shared attempt
    rw [attempt] at effect
    have shared_eq := congrArg (fun pair => pair.2.shared)
      (Option.some_inj.mp taken)
    dsimp only at shared_eq
    have same : SharedState.SameTotals shared moved.2.shared := by
      rw [← shared_eq]
      exact sameTotals_flagRolledBack worker rollbacks shared
    exact ⟨committed, ⟨shared, effect, same⟩, commits⟩

private theorem workerMove_totals
    {workerId : ℕ} {worker : BatchWorker σ} {move : WorkerMove}
    {moved : BatchWorker σ × Engine σ}
    (found : engine.workers.lookup workerId = some worker)
    (taken : workerMove cfg runtime engine worker move = some moved) :
    ∃ committed, StepTotals engine moved.2 committed ∧
      CommitsProposal engine committed := by
  obtain ⟨phase, _, effect, _⟩ := workerMove_moved taken
  generalize shared_eq : moved.2.shared = shared at effect
  have same : SharedState.SameTotals engine.shared shared →
      ∃ committed, StepTotals engine moved.2 committed ∧
        CommitsProposal engine committed := fun unchanged =>
    stepTotals_same (shared_eq ▸ unchanged)
  cases effect with
  | entered _ => exact same (.refl _)
  | observedBatch _ _ => exact same (.refl _)
  | observedSwarm _ _ _ => exact same (.refl _)
  | solvedBatch _ _ => exact same (.refl _)
  | solvedSwarm _ _ _ => exact same (.refl _)
  | rolledBack was _ =>
      exact commit_totals found was (commit_of_proposed was taken)
  | committed was _ _ =>
      exact commit_totals found was (commit_of_proposed was taken)
  | requeued _ => exact same ⟨rfl, rfl, rfl, rfl, rfl⟩
  | merged _ => exact same (.refl _)

private theorem claimBatch_totals
    (taken : claimBatch cfg engine = some next) :
    SharedState.SameTotals engine.shared next.shared := by
  obtain ⟨selection, _, claimed⟩ := Option.map_eq_some_iff.mp taken
  dsimp only [SharedState.claimPendingRequestsForProfile] at claimed
  split at claimed
  · subst claimed
    exact ⟨rfl, rfl, rfl, rfl, rfl⟩
  · split at claimed <;> subst claimed <;> exact ⟨rfl, rfl, rfl, rfl, rfl⟩

/-- A step changes the totals by one operation of the shared state. -/
theorem step_totals {action : Action}
    (taken : step cfg runtime engine action = some next) :
    ∃ committed, StepTotals engine next committed ∧
      CommitsProposal engine committed := by
  cases action with
  | addRequest request =>
      cases taken
      exact stepTotals_same ⟨rfl, rfl, rfl, rfl, rfl⟩
  | addRequests requests =>
      cases taken
      exact stepTotals_same ⟨rfl, rfl, rfl, rfl, rfl⟩
  | setCurrentSlot slot =>
      cases taken
      exact stepTotals_same ⟨rfl, rfl, rfl, rfl, rfl⟩
  | initializeCapacityTiers tiers =>
      rw [step] at taken
      split at taken
      · cases taken
      · cases taken
        refine stepTotals_same ?_
        dsimp only [withShared]
        unfold SharedState.initializeCapacityTiers
        split <;> exact ⟨rfl, rfl, rfl, rfl, rfl⟩
  | replaceCapacityTiers tiers =>
      rw [step] at taken
      split at taken
      · cases taken
      · cases taken
        exact stepTotals_same ⟨rfl, rfl, rfl, rfl, rfl⟩
  | correctAssignmentError requestId actualError =>
      cases taken
      exact ⟨[], ⟨_, .corrected requestId actualError, .refl _⟩, Or.inl rfl⟩
  | correctAssignmentCarbonCost requestId actualCarbonCost =>
      cases taken
      exact ⟨[], ⟨_, .recosted requestId actualCarbonCost, .refl _⟩,
        Or.inl rfl⟩
  | selectProfile elapsedSlots flush carbonForecast =>
      obtain ⟨chosen, _, rfl⟩ := selectProfile_cases taken
      exact stepTotals_same (.refl _)
  | claimBatch => exact stepTotals_same (claimBatch_totals taken)
  | work workerId move =>
      obtain ⟨worker, found, moves⟩ := Option.bind_eq_some_iff.mp taken
      obtain ⟨moved, performed, rfl⟩ := Option.map_eq_some_iff.mp moves
      exact workerMove_totals found performed
  | release workerId =>
      obtain ⟨worker, found, released⟩ := Option.bind_eq_some_iff.mp taken
      unfold release at released
      split at released
      · cases released
        exact stepTotals_same (.refl _)
      · cases released

/-! ## Runs -/

theorem aggregates_agree_new (cfg : Config) :
    SharedState.AggregatesAgree (new cfg : Engine σ).shared :=
  SharedState.AggregatesAgree.new.of_same ⟨rfl, rfl, rfl, rfl, rfl⟩

/-- The totals agree with the assignments in every reachable state. -/
theorem run_aggregates_agree {actions : List Action}
    (reached : Transition.run (step cfg runtime) (new cfg) actions =
      some engine) :
    SharedState.AggregatesAgree engine.shared := by
  refine Transition.run_induction
    (fun _ state => SharedState.AggregatesAgree state.shared)
    (aggregates_agree_new cfg) ?_ reached
  · intro _ state action after agree taken
    obtain ⟨committed, ⟨middle, effect, same⟩, _⟩ := step_totals taken
    exact (agree.step effect).of_same same

/-- Without replanning, every error sum is that of the stored errors. -/
theorem run_excess_eq_zero (own : ProposesOwnBatches cfg)
    {actions : List Action}
    (unique : (requestIds (receivedBy actions)).Nodup)
    (reached : Transition.run (step cfg runtime) (new cfg) actions =
      some engine) (profileId : QosProfileId) :
    engine.shared.excess profileId = 0 := by
  refine (Settled.run_induction own (fun _ => True)
    (fun _ state => SharedState.AggregatesAgree state.shared ∧
      state.shared.excess profileId = 0) ?_ ?_ (fun _ _ => trivial) unique
    reached).2.2
  · exact ⟨aggregates_agree_new cfg, sub_self (0 : ℚ)⟩
  · intro _ state action after _ _ settled totals taken
    obtain ⟨agree, exact_⟩ := totals
    obtain ⟨committed, ⟨middle, effect, same⟩, commits⟩ := step_totals taken
    have nothing :
        SharedState.replacedErrors profileId state.shared committed = 0 := by
      rcases commits with rfl | ⟨_, _, _, _, _, found, was, rfl⟩
      · rfl
      · obtain ⟨ids, _⟩ := (settled.ownBatch _ _ found).proposed was
        obtain ⟨distinct, uncommitted⟩ :=
          uncommitted_of_owns settled.heldDistinct found (by rw [was]; rfl)
        rw [← ids] at distinct uncommitted
        exact SharedState.replacedErrors_of_fresh profileId distinct
          uncommitted
    refine ⟨(agree.step effect).of_same same, ?_⟩
    rw [SharedState.excess, same.profileErrorStats_eq, same.assignments_eq,
      ← SharedState.excess, SharedState.excess_step agree effect, exact_,
      nothing, add_zero]

end Engine

end Carbonshift
