import Carbonshift.Engine.DispatchSteps
import Carbonshift.Engine.LearnedSteps
import Carbonshift.Engine.SwarmBudget

/-!
# One ladder from the snapshot to the commit

A worker holds the read guard of the ladder from its first look at it until it
is done, so no ladder is replaced under a solve, a commit or a merge.  What
was learned with an old ladder is discarded before the first solve with the
new one.
-/

namespace Carbonshift

namespace SharedState

/-- The ladder and its revision agree. -/
structure SameLadder (before after : SharedState) : Prop where
  capacityTiers_eq : after.capacityTiers = before.capacityTiers
  revision_eq : after.capacityTierRevision = before.capacityTierRevision

variable {state : SharedState}

theorem SameLadder.refl (state : SharedState) : SameLadder state state :=
  ⟨rfl, rfl⟩

private theorem sameLadder_recordAssignment (state : SharedState)
    (assignment : Assignment) :
    SameLadder state (state.recordAssignment assignment) := by
  unfold recordAssignment
  split <;> exact ⟨rfl, rfl⟩

theorem sameLadder_addAssignments (assignments : List Assignment) :
    SameLadder state (state.addAssignments assignments) := by
  induction assignments generalizing state with
  | nil => exact .refl state
  | cons assignment rest inductionHypothesis =>
      have first := sameLadder_recordAssignment state assignment
      have others : SameLadder (state.recordAssignment assignment)
          (state.addAssignments (assignment :: rest)) := inductionHypothesis
      exact ⟨others.capacityTiers_eq.trans first.capacityTiers_eq,
        others.revision_eq.trans first.revision_eq⟩

/-- A commit attempt leaves the ladder alone. -/
theorem sameLadder_tryAddAssignmentsChecked
    (assignments : List Assignment) (expectedPerSlot : Dictionary ℤ ℤ)
    (tiers : List CapacityTier) (forceCommit : Bool)
    (consecutiveBefore : ℕ) :
    SameLadder state
      (state.tryAddAssignmentsChecked assignments expectedPerSlot tiers
        forceCommit consecutiveBefore).2 := by
  unfold tryAddAssignmentsChecked
  split
  · exact ⟨rfl, rfl⟩
  · exact sameLadder_addAssignments assignments

theorem sameLadder_correctAssignmentError (requestId : ℕ) (actualError : ℚ) :
    SameLadder state (state.correctAssignmentError requestId actualError) := by
  unfold correctAssignmentError
  split <;> exact ⟨rfl, rfl⟩

theorem sameLadder_correctAssignmentCarbonCost
    (requestId : ℕ) (actualCarbonCost : ℚ) :
    SameLadder state
      (state.correctAssignmentCarbonCost requestId actualCarbonCost).2 := by
  unfold correctAssignmentCarbonCost
  split <;> exact ⟨rfl, rfl⟩

end SharedState

namespace Engine

variable {σ : Type} {cfg : Config} {runtime : NumericRuntime σ}
variable {engine next : Engine σ} {ladders : List (List CapacityTier)}
variable {ladder : List CapacityTier}

/-! ## What is priced with a ladder -/

theorem capacityTiers_workerPolicy (cfg : Config) (pending : List Request)
    (tiers : List CapacityTier) :
    (cfg.workerPolicy pending tiers).capacityTiers = tiers := rfl

/-- The assignments come from a solve whose policy has this ladder. -/
inductive PricedUnder (cfg : Config) (runtime : NumericRuntime σ)
    (ladder : List CapacityTier) : List Assignment → Prop where
  | batch {oracle : SolveOracle} {input : BatchSolveContext}
      {result : BatchSolveResult} {recovery : RecoveryState}
      (policy : input.assignment.capacityTiers = ladder)
      (solved :
        (selectBatchSolver cfg.solver.solverStrategy).solve runtime oracle
          input = some (result, recovery)) :
      PricedUnder cfg runtime ladder result.assignments
  | swarm {learned : OnlineSwarmState σ} {policy : AssignmentPolicy}
      {pending : List Request} {slot : ℤ} {carbonForecast : List ℚ}
      {ctx : SwarmContext} {solved : List Assignment × OnlineSwarmState σ}
      (priced : policy.capacityTiers = ladder) (profileId : QosProfileId)
      (answered :
        learned.solveBatch runtime pending slot carbonForecast ctx policy =
          some solved) :
      PricedUnder cfg runtime ladder (ownedBy profileId solved.1)

/-- Every cost in the learned state was priced with this ladder: the state was
trained by solves, and by the deltas of solves, under such policies. -/
inductive LearnedUnder (cfg : Config) (runtime : NumericRuntime σ)
    (ladder : List CapacityTier) : OnlineSwarmState σ → Prop where
  | created {policy : AssignmentPolicy} {carbonForecast : List ℚ}
      {learned : OnlineSwarmState σ}
      (priced : policy.capacityTiers = ladder)
      (new :
        OnlineSwarmState.fromConfig runtime cfg.solver cfg.swarm policy
          carbonForecast = some learned) :
      LearnedUnder cfg runtime ladder learned
  | solved {learned : OnlineSwarmState σ} {policy : AssignmentPolicy}
      {pending : List Request} {slot : ℤ} {carbonForecast : List ℚ}
      {ctx : SwarmContext} {solved : List Assignment × OnlineSwarmState σ}
      (under : LearnedUnder cfg runtime ladder learned)
      (priced : policy.capacityTiers = ladder)
      (answered :
        learned.solveBatch runtime pending slot carbonForecast ctx policy =
          some solved) :
      LearnedUnder cfg runtime ladder solved.2
  | merged {learned snapshot : OnlineSwarmState σ} {policy : AssignmentPolicy}
      {pending : List Request} {slot : ℤ} {carbonForecast : List ℚ}
      {ctx : SwarmContext} {solved : List Assignment × SwarmDelta σ}
      (under : LearnedUnder cfg runtime ladder learned)
      (snapshotUnder : LearnedUnder cfg runtime ladder snapshot)
      (priced : policy.capacityTiers = ladder)
      (answered :
        snapshot.solveBatchMerge runtime pending slot carbonForecast ctx
          policy = some solved) :
      LearnedUnder cfg runtime ladder (learned.mergeDelta solved.2)

/-- A delta that keeps what is priced with this ladder so. -/
def DeltaUnder (cfg : Config) (runtime : NumericRuntime σ)
    (ladder : List CapacityTier) (delta : SwarmDelta σ) : Prop :=
  ∀ learned, LearnedUnder cfg runtime ladder learned →
    LearnedUnder cfg runtime ladder (learned.mergeDelta delta)

theorem deltaUnder_none : DeltaUnder cfg runtime ladder .none := by
  intro learned under
  cases learned <;> exact under

/-! ## The worker -/

/-- What a worker holds while the ladder is guarded: this ladder, and learned
states, proposals and deltas that are priced with it. -/
inductive PhaseUnder (cfg : Config) (runtime : NumericRuntime σ)
    (ladder : List CapacityTier) : WorkerPhase σ → Prop where
  | claimed : PhaseUnder cfg runtime ladder .claimed
  | ready (rollbacks : ℕ) :
      PhaseUnder cfg runtime ladder (.ready ladder rollbacks)
  | observed (rollbacks : ℕ) {view : SolverView σ}
      (clone : ∀ ctx learned, view = .swarmClone ctx learned →
        LearnedUnder cfg runtime ladder learned) :
      PhaseUnder cfg runtime ladder (.observed ladder rollbacks view)
  | proposed (rollbacks : ℕ) {proposal : SolverProposal σ}
      (priced : PricedUnder cfg runtime ladder proposal.assignments)
      (delta : DeltaUnder cfg runtime ladder proposal.delta) :
      PhaseUnder cfg runtime ladder (.proposed ladder rollbacks proposal)
  | rejected : PhaseUnder cfg runtime ladder .rejected
  | learning {delta : SwarmDelta σ}
      (under : DeltaUnder cfg runtime ladder delta) :
      PhaseUnder cfg runtime ladder (.learning delta)
  | finished (scheduled : Bool) :
      PhaseUnder cfg runtime ladder (.finished scheduled)

namespace PhaseUnder

theorem afterSolve (rollbacks : ℕ) {proposal : SolverProposal σ}
    (priced : PricedUnder cfg runtime ladder proposal.assignments)
    (delta : DeltaUnder cfg runtime ladder proposal.delta) :
    PhaseUnder cfg runtime ladder
      (Engine.afterSolve ladder rollbacks proposal) := by
  unfold Engine.afterSolve
  split
  · exact .rejected
  · exact .proposed rollbacks priced delta

theorem afterRollback (rollbacks : ℕ) :
    PhaseUnder (σ := σ) cfg runtime ladder
      (Engine.afterRollback cfg ladder rollbacks) := by
  unfold Engine.afterRollback
  split
  · exact .rejected
  · exact .ready _

theorem afterCommit {proposal : SolverProposal σ}
    (delta : DeltaUnder cfg runtime ladder proposal.delta) :
    PhaseUnder cfg runtime ladder (Engine.afterCommit cfg proposal) := by
  unfold Engine.afterCommit
  split
  · exact .learning delta
  · exact .finished true

/-- A phase without the guard says nothing about the ladder. -/
theorem of_unguarded {phase : WorkerPhase σ}
    (free : phase.holdsTierGuard = false) :
    PhaseUnder cfg runtime ladder phase := by
  cases phase with
  | claimed => exact .claimed
  | finished scheduled => exact .finished scheduled
  | _ => cases free

end PhaseUnder

/-! ## The ladders of a run -/

/-- The ladders so far; the revision is the position. -/
def laddersAfter : Action → List (List CapacityTier) →
    List (List CapacityTier)
  | .replaceCapacityTiers tiers, ladders => ladders ++ [tiers]
  | _, ladders => ladders

/-- A step of the scheduler, with a record of the ladders. -/
def ladderStep (cfg : Config) (runtime : NumericRuntime σ) :
    Engine σ × List (List CapacityTier) → Action →
      Option (Engine σ × List (List CapacityTier)) :=
  Transition.observed (step cfg runtime) fun _ action => laddersAfter action

/-- The current ladder is the last one. -/
def CurrentLadder (ladders : List (List CapacityTier))
    (ladder : List CapacityTier) (shared : SharedState) : Prop :=
  shared.capacityTiers = some ladder ∧
    ladders.length = shared.capacityTierRevision + 1 ∧
    ladders[shared.capacityTierRevision]? = some ladder

/-- Guarded workers hold the current ladder, and the learned states hold that
of the recorded revision. -/
structure OneLadder (cfg : Config) (runtime : NumericRuntime σ)
    (engine : Engine σ) (ladders : List (List CapacityTier))
    (ladder : List CapacityTier) : Prop where
  current : CurrentLadder ladders ladder engine.shared
  phases : ∀ {workerId worker},
    engine.workers.lookup workerId = some worker →
      PhaseUnder cfg runtime ladder worker.phase
  guarded : ∀ {workerId worker},
    engine.workers.lookup workerId = some worker →
    worker.phase.holdsTierGuard = true →
      engine.scheduler.capacityTierRevision =
        engine.shared.capacityTierRevision
  learned : ∀ {profileId state},
    engine.scheduler.swarmStates.lookup profileId = some state →
      ∃ earlier,
        ladders[engine.scheduler.capacityTierRevision]? = some earlier ∧
          LearnedUnder cfg runtime earlier state

/-! ## A step of a worker -/

/-- What a worker's step does to ladder and learned states. -/
structure LadderEffect (cfg : Config) (runtime : NumericRuntime σ)
    (engine : Engine σ) (ladders : List (List CapacityTier))
    (ladder : List CapacityTier) (moved : BatchWorker σ × Engine σ) :
    Prop where
  phase : PhaseUnder cfg runtime ladder moved.1.phase
  shared : SharedState.SameLadder engine.shared moved.2.shared
  /-- A guarded worker sees the current revision recorded. -/
  guarded : moved.1.phase.holdsTierGuard = true →
    moved.2.scheduler.capacityTierRevision =
      engine.shared.capacityTierRevision
  /-- A current revision is not taken back. -/
  kept : engine.scheduler.capacityTierRevision =
      engine.shared.capacityTierRevision →
    moved.2.scheduler.capacityTierRevision =
      engine.shared.capacityTierRevision
  learned : ∀ {profileId state},
    moved.2.scheduler.swarmStates.lookup profileId = some state →
      ∃ earlier,
        ladders[moved.2.scheduler.capacityTierRevision]? = some earlier ∧
          LearnedUnder cfg runtime earlier state

namespace OneLadder

variable {worker : BatchWorker σ} {moved : BatchWorker σ × Engine σ}

/-- The learned state of a profile whose worker holds the guard. -/
private theorem learnedState_under
    (one : OneLadder cfg runtime engine ladders ladder)
    (recorded : engine.scheduler.capacityTierRevision =
      engine.shared.capacityTierRevision)
    {learned : OnlineSwarmState σ}
    (present : learnedState cfg runtime engine worker ladder = some learned) :
    LearnedUnder cfg runtime ladder learned := by
  rcases Option.or_eq_some_iff.mp present with stored | ⟨_, new⟩
  · obtain ⟨earlier, there, under⟩ := one.learned stored
    rw [recorded, one.current.2.2] at there
    cases there
    exact under
  · exact .created (capacityTiers_workerPolicy cfg worker.pending ladder) new

/-- A learned state under the current ladder may be stored. -/
private theorem learned_storeLearned
    (one : OneLadder cfg runtime engine ladders ladder)
    (recorded : engine.scheduler.capacityTierRevision =
      engine.shared.capacityTierRevision)
    {learned : OnlineSwarmState σ}
    (under : LearnedUnder cfg runtime ladder learned)
    {profileId : QosProfileId} {state : OnlineSwarmState σ}
    (stored : (engine.storeLearned worker learned).scheduler.swarmStates.lookup
      profileId = some state) :
    ∃ earlier,
      ladders[engine.scheduler.capacityTierRevision]? = some earlier ∧
        LearnedUnder cfg runtime earlier state := by
  by_cases here : profileId = batchProfileId worker.pending
  · rw [here, storeLearned, AList.lookup_insert] at stored
    cases stored
    refine ⟨ladder, ?_, under⟩
    rw [recorded]
    exact one.current.2.2
  · rw [storeLearned, AList.lookup_insert_ne here] at stored
    exact one.learned stored

/-- A step that leaves scheduler and ladder alone. -/
private theorem of_same
    (one : OneLadder cfg runtime engine ladders ladder)
    {phase : WorkerPhase σ}
    (under : PhaseUnder cfg runtime ladder phase)
    (shared : SharedState.SameLadder engine.shared next.shared)
    (learned : SameLearned engine next)
    (recorded : phase.holdsTierGuard = true →
      engine.scheduler.capacityTierRevision =
        engine.shared.capacityTierRevision) :
    LadderEffect cfg runtime engine ladders ladder
      (worker.withPhase phase, next) where
  phase := under
  shared := shared
  guarded held := learned.revision_eq.trans (recorded held)
  kept current := learned.revision_eq.trans current
  learned stored := by
    rw [learned.swarmStates_eq] at stored
    rw [learned.revision_eq]
    exact one.learned stored

private theorem enter_ladder
    (one : OneLadder cfg runtime engine ladders ladder)
    (taken : enter cfg engine worker = some moved) :
    LadderEffect cfg runtime engine ladders ladder moved := by
  unfold enter at taken
  split at taken
  · cases taken
    have phase : PhaseUnder (σ := σ) cfg runtime ladder
        (.ready (engine.shared.capacityTiers.getD cfg.capacityTiers) 0) := by
      rw [one.current.1]
      exact .ready 0
    by_cases outdated : engine.scheduler.capacityTierRevision ≠
        engine.shared.capacityTierRevision
    · refine ⟨phase, ?_, fun _ => ?_, fun _ => ?_, fun {profileId state}
        stored => ?_⟩
      · rw [if_pos outdated]
        exact .refl engine.shared
      · rw [if_pos outdated]
      · rw [if_pos outdated]
      · rw [if_pos outdated] at stored
        exact absurd (stored.symm.trans (AList.lookup_empty _))
          (Option.some_ne_none _)
    · rw [if_neg outdated]
      exact one.of_same phase (.refl engine.shared) (.refl engine)
        fun _ => not_not.mp outdated
  · cases taken

private theorem observe_ladder
    (one : OneLadder cfg runtime engine ladders ladder)
    {workerId : ℕ} (found : engine.workers.lookup workerId = some worker)
    (taken : observe cfg runtime engine worker = some moved) :
    LadderEffect cfg runtime engine ladders ladder moved := by
  have before := one.phases found
  have held := one.guarded found
  cases observe_cases taken with
  | batch _ was =>
      rw [was] at before held
      cases before
      exact one.of_same (.observed _ nofun) (.refl _) (.refl _) fun _ =>
        held rfl
  | serialized _ was =>
      rw [was] at before held
      cases before
      exact one.of_same (.observed _ nofun) (.refl _) (.refl _) fun _ =>
        held rfl
  | merge _ was present =>
      rw [was] at before held
      have recorded := held rfl
      cases before
      have under := one.learnedState_under recorded present
      refine ⟨.observed _ fun ctx learned same => ?_, .refl _,
        fun _ => recorded, fun _ => recorded,
        one.learned_storeLearned recorded under⟩
      cases same
      exact under

private theorem solve_ladder
    (one : OneLadder cfg runtime engine ladders ladder)
    {workerId : ℕ} (found : engine.workers.lookup workerId = some worker)
    {oracle : SolveOracle}
    (taken : solve cfg runtime oracle engine worker = some moved) :
    LadderEffect cfg runtime engine ladders ladder moved := by
  have before := one.phases found
  have held := one.guarded found
  have policy := capacityTiers_workerPolicy cfg worker.pending ladder
  cases solve_cases taken with
  | batch was solved =>
      rw [was] at before held
      cases before
      exact one.of_same (.afterSolve _ (.batch rfl solved) deltaUnder_none)
        (.refl _) ⟨rfl, rfl⟩ fun _ => held rfl
  | serialized was present answered =>
      rw [was] at before held
      have recorded := held rfl
      cases before
      have under := one.learnedState_under recorded present
      exact ⟨.afterSolve _ (.swarm policy _ answered) deltaUnder_none,
        .refl _, fun _ => recorded, fun _ => recorded,
        one.learned_storeLearned recorded (under.solved policy answered)⟩
  | @merge _ _ ctx learned _ was merged =>
      rw [was] at before held
      cases before with
      | observed _ clone =>
          have under := clone ctx learned rfl
          refine one.of_same (.afterSolve _ ?_ ?_) (.refl _) (.refl _)
            fun _ => held rfl
          · obtain ⟨solved, answered, same⟩ :=
              learned.solveBatch_of_merge merged
            dsimp only
            rw [← same]
            exact .swarm policy _ answered
          · intro state stateUnder
            exact stateUnder.merged under policy merged

private theorem commit_ladder
    (one : OneLadder cfg runtime engine ladders ladder)
    {workerId : ℕ} (found : engine.workers.lookup workerId = some worker)
    (taken : commit cfg engine worker = some moved) :
    LadderEffect cfg runtime engine ladders ladder moved := by
  have before := one.phases found
  have held := one.guarded found
  unfold commit at taken
  split at taken
  · rename_i tiers rollbacks proposal was
    rw [was] at before held
    have recorded := held rfl
    have kept : SharedState.SameLadder engine.shared
        (commitAttempt cfg engine tiers rollbacks proposal).2 :=
      SharedState.sameLadder_tryAddAssignmentsChecked _ _ _ _ _
    cases before with
    | proposed _ priced delta =>
        split at taken
        · rename_i shared attempt
          rw [attempt] at kept
          have phase : PhaseUnder (σ := σ) cfg runtime ladder
              (Engine.afterRollback cfg ladder rollbacks) :=
            .afterRollback rollbacks
          cases taken
          exact one.of_same phase kept ⟨rfl, rfl⟩ fun _ => recorded
        · rename_i shared attempt
          rw [attempt] at kept
          have phase : PhaseUnder cfg runtime ladder
              (Engine.afterCommit cfg proposal) := .afterCommit delta
          have flagged : SharedState.SameLadder engine.shared
              (flagRolledBack cfg worker rollbacks shared) := by
            unfold flagRolledBack
            split
            · exact ⟨kept.capacityTiers_eq, kept.revision_eq⟩
            · exact kept
          -- the tests of the strategy are of no interest any more
          generalize flagRolledBack cfg worker rollbacks shared = after
            at taken flagged
          generalize Engine.afterCommit cfg proposal = committed
            at taken phase
          cases taken
          exact one.of_same phase flagged ⟨rfl, rfl⟩ fun _ => recorded
  · cases taken

private theorem mergeLearned_ladder
    (one : OneLadder cfg runtime engine ladders ladder)
    {workerId : ℕ} (found : engine.workers.lookup workerId = some worker)
    (taken : mergeLearned engine worker = some moved) :
    LadderEffect cfg runtime engine ladders ladder moved := by
  have before := one.phases found
  have held := one.guarded found
  unfold mergeLearned at taken
  split at taken
  · rename_i delta _ was
    rw [was] at before held
    have recorded := held rfl
    cases before with
    | learning under =>
        cases taken
        refine ⟨.finished true, .refl _, nofun, id,
          fun {profileId state} stored => ?_⟩
        dsimp only at stored
        by_cases here : profileId = batchProfileId worker.pending
        · rw [here, Dictionary.lookup_adjust_self,
            Option.map_eq_some_iff] at stored
          obtain ⟨before, found, rfl⟩ := stored
          obtain ⟨earlier, there, beforeUnder⟩ := one.learned found
          refine ⟨earlier, there, ?_⟩
          rw [recorded, one.current.2.2] at there
          cases there
          exact under before beforeUnder
        · rw [Dictionary.lookup_adjust_of_ne here] at stored
          exact one.learned stored
  · cases taken

/-- Inversion of the steps of a worker, for the ladder. -/
private theorem ladderEffect
    (one : OneLadder cfg runtime engine ladders ladder)
    {workerId : ℕ} (found : engine.workers.lookup workerId = some worker)
    {move : WorkerMove}
    (taken : workerMove cfg runtime engine worker move = some moved) :
    LadderEffect cfg runtime engine ladders ladder moved := by
  cases move with
  | enter => exact one.enter_ladder taken
  | observe => exact one.observe_ladder found taken
  | solve oracle => exact one.solve_ladder found taken
  | commit => exact one.commit_ladder found taken
  | requeue =>
      have held := one.guarded found
      rw [workerMove, requeue] at taken
      split at taken
      · cases taken
        refine one.of_same (.finished false) ⟨rfl, rfl⟩ ⟨rfl, rfl⟩ ?_
        intro guarding
        cases guarding
      · cases taken
  | mergeLearned => exact one.mergeLearned_ladder found taken

theorem new :
    OneLadder cfg runtime (Engine.new cfg : Engine σ) [cfg.capacityTiers]
      cfg.capacityTiers := by
  refine ⟨⟨rfl, rfl, rfl⟩, fun {workerId worker} found => ?_,
    fun {workerId worker} found => ?_, fun {profileId state} found => ?_⟩
  · have nobody : (none : Option (BatchWorker σ)) = some worker := found
    cases nobody
  · have nobody : (none : Option (BatchWorker σ)) = some worker := found
    cases nobody
  · have nothing : (none : Option (OnlineSwarmState σ)) = some state := found
    cases nothing

/-- The worker moves on, and the others keep their guards. -/
private theorem work
    (one : OneLadder cfg runtime engine ladders ladder)
    {workerId : ℕ} {move : WorkerMove}
    (taken : Engine.step cfg runtime engine (.work workerId move) =
      some next) :
    OneLadder cfg runtime next ladders ladder := by
  obtain ⟨worker, found, moves⟩ := Option.bind_eq_some_iff.mp taken
  obtain ⟨moved, performed, rfl⟩ := Option.map_eq_some_iff.mp moves
  obtain ⟨_, _, _, reservations⟩ := workerMove_moved performed
  have effect := one.ladderEffect found performed
  obtain ⟨installed, length, last⟩ := one.current
  refine ⟨⟨effect.shared.capacityTiers_eq.trans installed, ?_, ?_⟩,
    fun {otherId other} there => ?_, fun {otherId other} there held => ?_,
    effect.learned⟩
  · dsimp only
    rw [effect.shared.revision_eq]
    exact length
  · dsimp only
    rw [effect.shared.revision_eq]
    exact last
  · dsimp only at there
    rw [reservations.workers_eq] at there
    by_cases mover : otherId = workerId
    · rw [mover, AList.lookup_insert] at there
      cases there
      exact effect.phase
    · rw [AList.lookup_insert_ne mover] at there
      exact one.phases there
  · dsimp only at there ⊢
    rw [reservations.workers_eq] at there
    rw [effect.shared.revision_eq]
    by_cases mover : otherId = workerId
    · rw [mover, AList.lookup_insert] at there
      cases there
      exact effect.guarded held
    · rw [AList.lookup_insert_ne mover] at there
      exact effect.kept (one.guarded there held)

/-- Beside the workers, a step that leaves the ladder alone. -/
private theorem aside
    (one : OneLadder cfg runtime engine ladders ladder)
    {action : Action} (beside : action.isWork = false)
    (shared : SharedState.SameLadder engine.shared next.shared)
    (taken : Engine.step cfg runtime engine action = some next) :
    OneLadder cfg runtime next ladders ladder := by
  have learned := sameLearned_of_step beside taken
  obtain ⟨installed, length, last⟩ := one.current
  refine ⟨⟨shared.capacityTiers_eq.trans installed, ?_, ?_⟩,
    fun found => ?_, fun found held => ?_, ?_⟩
  · rw [shared.revision_eq]
    exact length
  · rw [shared.revision_eq]
    exact last
  · rcases worker_of_step beside taken found with fresh | before
    · rw [fresh]
      exact .claimed
    · exact one.phases before
  · rw [learned.revision_eq, shared.revision_eq]
    rcases worker_of_step beside taken found with fresh | before
    · rw [fresh] at held
      cases held
    · exact one.guarded before held
  · rw [learned.swarmStates_eq, learned.revision_eq]
    exact one.learned

/-- Nobody holds the guard while the ladder is replaced. -/
private theorem replaced
    (one : OneLadder cfg runtime engine ladders ladder)
    {tiers : List CapacityTier}
    (taken : Engine.step cfg runtime engine (.replaceCapacityTiers tiers) =
      some next) :
    OneLadder cfg runtime next (ladders ++ [tiers]) tiers := by
  rw [Engine.step] at taken
  split at taken
  · cases taken
  · rename_i unheld
    cases taken
    have free : ∀ {workerId worker},
        engine.workers.lookup workerId = some worker →
          worker.phase.holdsTierGuard = false := by
      intro workerId worker found
      have nobody := List.any_eq_false.mp (Bool.not_eq_true _ ▸ unheld) worker
        (Dictionary.mem_values_iff.mpr ⟨workerId, found⟩)
      exact Bool.not_eq_true _ ▸ nobody
    obtain ⟨_, length, _⟩ := one.current
    refine ⟨⟨rfl, ?_, ?_⟩, fun found => .of_unguarded (free found),
      fun found held => ?_, fun stored => ?_⟩
    · rw [List.length_append, length]
      rfl
    · dsimp only [withShared, SharedState.replaceCapacityTiers]
      rw [List.getElem?_append_right length.le, length]
      simp
    · have unguarded : _ = false := free found
      rw [unguarded] at held
      cases held
    · obtain ⟨earlier, there, under⟩ := one.learned stored
      refine ⟨earlier, ?_, under⟩
      obtain ⟨within, _⟩ := List.getElem?_eq_some_iff.mp there
      exact (List.getElem?_append_left within).trans there

/-- Every step keeps one ladder for all that is guarded. -/
theorem step
    (one : OneLadder cfg runtime engine ladders ladder)
    {action : Action}
    (taken : Engine.step cfg runtime engine action = some next) :
    ∃ after, OneLadder cfg runtime next (laddersAfter action ladders) after := by
  cases action with
  | work workerId move => exact ⟨ladder, one.work taken⟩
  | replaceCapacityTiers tiers => exact ⟨tiers, one.replaced taken⟩
  | addRequest request =>
      exact ⟨ladder, one.aside rfl (by cases taken; exact ⟨rfl, rfl⟩) taken⟩
  | addRequests requests =>
      exact ⟨ladder, one.aside rfl (by cases taken; exact ⟨rfl, rfl⟩) taken⟩
  | setCurrentSlot slot =>
      exact ⟨ladder, one.aside rfl (by cases taken; exact ⟨rfl, rfl⟩) taken⟩
  | initializeCapacityTiers tiers =>
      refine ⟨ladder, one.aside rfl ?_ taken⟩
      rw [Engine.step] at taken
      split at taken
      · cases taken
      · cases taken
        -- there is a ladder already
        dsimp only [withShared, SharedState.initializeCapacityTiers]
        rw [one.current.1]
        exact .refl _
  | correctAssignmentError requestId actualError =>
      refine ⟨ladder, one.aside rfl ?_ taken⟩
      cases taken
      exact SharedState.sameLadder_correctAssignmentError _ _
  | correctAssignmentCarbonCost requestId actualCarbonCost =>
      refine ⟨ladder, one.aside rfl ?_ taken⟩
      cases taken
      exact SharedState.sameLadder_correctAssignmentCarbonCost _ _
  | selectProfile elapsedSlots flush carbonForecast =>
      refine ⟨ladder, one.aside rfl ?_ taken⟩
      obtain ⟨_, _, rfl⟩ := selectProfile_cases taken
      exact .refl _
  | claimBatch =>
      refine ⟨ladder, one.aside rfl ?_ taken⟩
      obtain ⟨selection, _, claimed⟩ := Option.map_eq_some_iff.mp taken
      dsimp only at claimed
      split at claimed
      · subst claimed
        exact ⟨rfl, rfl⟩
      · split at claimed <;> subst claimed <;> exact ⟨rfl, rfl⟩
  | release workerId =>
      refine ⟨ladder, one.aside rfl ?_ taken⟩
      obtain ⟨worker, _, released⟩ := Option.bind_eq_some_iff.mp taken
      unfold release at released
      split at released <;> cases released
      exact .refl _

theorem of_run {actions : List Action}
    (reached : Transition.run (ladderStep cfg runtime)
      (Engine.new cfg, [cfg.capacityTiers]) actions = some (engine, ladders)) :
    ∃ ladder, OneLadder cfg runtime engine ladders ladder := by
  refine Transition.run_induction
    (fun _ (state : Engine σ × List (List CapacityTier)) =>
      ∃ ladder, OneLadder cfg runtime state.1 state.2 ladder)
    ⟨_, new⟩ ?_ reached
  rintro history ⟨state, seen⟩ action ⟨next, recorded⟩ ⟨ladder, one⟩ taken
  obtain ⟨stepped, same⟩ := Transition.observed_eq_some_iff.mp taken
  dsimp only at stepped same
  subst same
  exact one.step stepped

end OneLadder

/-- Pricing, commit check and learning agree on the ladder. -/
structure LadderConsistent (cfg : Config) (runtime : NumericRuntime σ)
    (engine : Engine σ) (ladders : List (List CapacityTier)) : Prop where
  /-- A commit is checked and was priced with the current ladder. -/
  commits : ∀ {workerId worker tiers rollbacks proposal},
    engine.workers.lookup workerId = some worker →
    worker.phase = .proposed tiers rollbacks proposal →
      engine.shared.capacityTiers = some tiers ∧
        PricedUnder cfg runtime tiers proposal.assignments
  /-- A learned state has only costs of the recorded revision. -/
  learned : ∀ {profileId state},
    engine.scheduler.swarmStates.lookup profileId = some state →
      ∃ ladder,
        ladders[engine.scheduler.capacityTierRevision]? = some ladder ∧
          LearnedUnder cfg runtime ladder state
  /-- The revisions are positions in the record of the ladders. -/
  revision : ladders[engine.shared.capacityTierRevision]? =
    engine.shared.capacityTiers

/-- Under any replacements of the ladder, commits are priced and checked with
the current one, and learned states with that of the recorded revision. -/
theorem ladders_consistent
    (cfg : Config) (runtime : NumericRuntime σ) (actions : List Action)
    (engine : Engine σ) (ladders : List (List CapacityTier))
    (reached : Transition.run (ladderStep cfg runtime)
      (new cfg, [cfg.capacityTiers]) actions = some (engine, ladders)) :
    LadderConsistent cfg runtime engine ladders := by
  obtain ⟨ladder, one⟩ := OneLadder.of_run reached
  refine ⟨fun {workerId worker tiers rollbacks proposal} found was => ?_,
    one.learned, one.current.2.2.trans one.current.1.symm⟩
  have under := one.phases found
  rw [was] at under
  cases under with
  | proposed _ priced _ => exact ⟨one.current.1, priced⟩

/-- A ladder is replaced after a batch that the bandit has learned from. -/
def replacedRun : List Action :=
  banditRun ++
    [.replaceCapacityTiers [⟨some 1, 1⟩, ⟨none, 5⟩],
      .addRequest (.new 0 3 0 3),
      .selectProfile 0 true (List.replicate 24 1), .claimBatch,
      .work 1 .enter, .work 1 .observe, .work 1 (.solve .steady)]

/-- The second batch is priced with the new ladder. -/
theorem replacedRun_consistent :
    ∃ engine ladders,
      Transition.run (ladderStep banditConfig .least)
          (new banditConfig, [banditConfig.capacityTiers]) replacedRun =
        some (engine, ladders) ∧
        engine.scheduler.capacityTierRevision = 1 ∧
        LadderConsistent banditConfig .least engine ladders := by
  have computed :
      (Transition.run (ladderStep banditConfig .least)
        (new banditConfig, [banditConfig.capacityTiers]) replacedRun).map
          (fun state => state.1.scheduler.capacityTierRevision) =
        some 1 := by
    decide +kernel
  obtain ⟨⟨engine, ladders⟩, reached, revision⟩ :=
    Option.map_eq_some_iff.mp computed
  exact ⟨engine, ladders, reached, revision,
    ladders_consistent banditConfig .least replacedRun engine ladders reached⟩

end Engine

end Carbonshift
