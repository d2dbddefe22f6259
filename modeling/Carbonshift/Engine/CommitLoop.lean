import Carbonshift.Engine.Reservations

/-!
# The commit loop

A worker solves and commits until its proposal is accepted.  Every refused
attempt uses up one of its rollbacks, and the attempt after the last one is
not checked.
-/

namespace Carbonshift

/-- Count one refused attempt. -/
def SharedState.countRollback (state : SharedState)
    (consecutiveBefore : ℕ) : SharedState :=
  { state with
    totalRollbacks := state.totalRollbacks + 1
    maxConsecutiveRollbacksSeen :=
      max state.maxConsecutiveRollbacksSeen (consecutiveBefore + 1) }

/-- Rollbacks a worker can be at; a serialized swarm worker gives up at its
first one. -/
def Config.rollbackLimit (cfg : Config) : ℕ :=
  if cfg.workerKind = .swarmSerialized then
    0
  else
    cfg.solver.rollbackMaxConsecutive

theorem Config.rollbackLimit_le (cfg : Config) :
    cfg.rollbackLimit ≤ cfg.solver.rollbackMaxConsecutive := by
  unfold Config.rollbackLimit
  split
  · exact Nat.zero_le _
  · exact le_rfl

/-- An attempt that can be refused is not the last one. -/
theorem Config.lt_of_forceCommit_eq_false {cfg : Config} {rollbacks : ℕ}
    (checked : cfg.forceCommit rollbacks = false)
    (within : rollbacks ≤ cfg.rollbackLimit) :
    rollbacks < cfg.solver.rollbackMaxConsecutive := by
  unfold Config.forceCommit at checked
  unfold Config.rollbackLimit at within
  split at checked
  · rename_i serialized
    rw [if_pos serialized] at within
    rw [decide_eq_false_iff_not] at checked
    omega
  · simp only [Bool.or_eq_false_iff, decide_eq_false_iff_not] at checked
    omega

/-! ## Phases -/

namespace WorkerPhase

variable {σ : Type}

/-- Rollbacks that count against the limit. -/
def rollbacks : WorkerPhase σ → ℕ
  | .ready _ rollbacks => rollbacks
  | .observed _ rollbacks _ => rollbacks
  | .proposed _ rollbacks _ => rollbacks
  | _ => 0

/-- Whether the batch was committed, once that is decided. -/
def settled : WorkerPhase σ → Option Bool
  | .learning _ => some true
  | .finished scheduled => some scheduled
  | _ => none

/-- Solves that are left to a worker. -/
def roundsLeft (limit : ℕ) : WorkerPhase σ → ℕ
  | .claimed => limit + 1
  | .ready _ rollbacks => limit + 1 - rollbacks
  | .observed _ rollbacks _ => limit + 1 - rollbacks
  | .proposed _ rollbacks _ => limit - rollbacks
  | _ => 0

/-- Steps that are left to a worker: three in every round. -/
def movesLeft (limit : ℕ) : WorkerPhase σ → ℕ
  | .claimed => 3 * limit + 5
  | .ready _ rollbacks => 3 * (limit - rollbacks) + 4
  | .observed _ rollbacks _ => 3 * (limit - rollbacks) + 3
  | .proposed _ rollbacks _ => 3 * (limit - rollbacks) + 2
  | .rejected => 1
  | .learning _ => 1
  | .finished _ => 0

/-- The next step of a worker that is not done. -/
def nextMove (oracle : SolveOracle) : WorkerPhase σ → Option Engine.WorkerMove
  | .claimed => some .enter
  | .ready _ _ => some .observe
  | .observed _ _ _ => some (.solve oracle)
  | .proposed _ _ _ => some .commit
  | .rejected => some .requeue
  | .learning _ => some .mergeLearned
  | .finished _ => none

end WorkerPhase

namespace Engine

def WorkerMove.isSolve : WorkerMove → Bool
  | .solve _ => true
  | _ => false

/-- The worker takes a step of some kind. -/
def Action.isMoveOf (workerId : ℕ) (kind : WorkerMove → Bool) : Action → Bool
  | .work mover move => decide (mover = workerId) && kind move
  | _ => false

variable {σ : Type} {cfg : Config} {runtime : NumericRuntime σ}
variable {engine next : Engine σ} {worker : BatchWorker σ}

/-! ## What a worker's step does -/

theorem afterSolve_cases (tiers : List CapacityTier) (rollbacks : ℕ)
    (proposal : SolverProposal σ) :
    afterSolve tiers rollbacks proposal = .rejected ∨
      afterSolve tiers rollbacks proposal =
        .proposed tiers rollbacks proposal := by
  unfold afterSolve
  split
  · exact Or.inl rfl
  · exact Or.inr rfl

theorem afterRollback_cases (cfg : Config) (tiers : List CapacityTier)
    (rollbacks : ℕ) :
    (afterRollback cfg tiers rollbacks : WorkerPhase σ) = .rejected ∨
      cfg.workerKind ≠ .swarmSerialized ∧
        (afterRollback cfg tiers rollbacks : WorkerPhase σ) =
          .ready tiers (rollbacks + 1) := by
  unfold afterRollback
  split
  · exact Or.inl rfl
  · rename_i kind
    exact Or.inr ⟨kind, rfl⟩

theorem afterCommit_cases (cfg : Config) (proposal : SolverProposal σ) :
    afterCommit cfg proposal = .learning proposal.delta ∨
      afterCommit cfg proposal = .finished true := by
  unfold afterCommit
  split
  · exact Or.inl rfl
  · exact Or.inr rfl

/-- The phase and the shared state after a step of the loop. -/
inductive LoopStep (cfg : Config) (engine : Engine σ)
    (worker : BatchWorker σ) :
    WorkerMove → WorkerPhase σ → SharedState → Prop where
  | entered {tiers : List CapacityTier}
      (was : worker.phase = .claimed) :
      LoopStep cfg engine worker .enter (.ready tiers 0) engine.shared
  | observed {tiers : List CapacityTier} {rollbacks : ℕ} {view : SolverView σ}
      (was : worker.phase = .ready tiers rollbacks) :
      LoopStep cfg engine worker .observe (.observed tiers rollbacks view)
        engine.shared
  | solved {tiers : List CapacityTier} {rollbacks : ℕ} {view : SolverView σ}
      {oracle : SolveOracle} {proposal : SolverProposal σ}
      (was : worker.phase = .observed tiers rollbacks view) :
      LoopStep cfg engine worker (.solve oracle)
        (afterSolve tiers rollbacks proposal) engine.shared
  | rolledBack {tiers : List CapacityTier} {rollbacks : ℕ}
      {proposal : SolverProposal σ}
      (was : worker.phase = .proposed tiers rollbacks proposal)
      (checked : cfg.forceCommit rollbacks = false) :
      LoopStep cfg engine worker .commit (afterRollback cfg tiers rollbacks)
        (engine.shared.countRollback rollbacks)
  | committed {tiers : List CapacityTier} {rollbacks : ℕ}
      {proposal : SolverProposal σ}
      (was : worker.phase = .proposed tiers rollbacks proposal) :
      LoopStep cfg engine worker .commit (afterCommit cfg proposal)
        (flagRolledBack cfg worker rollbacks
          (engine.shared.addAssignments proposal.assignments))
  | requeued
      (was : worker.phase = .rejected) :
      LoopStep cfg engine worker .requeue (.finished false)
        (engine.shared.requeuePendingRequestsFront worker.pending)
  | merged {delta : SwarmDelta σ}
      (was : worker.phase = .learning delta) :
      LoopStep cfg engine worker .mergeLearned (.finished true) engine.shared

/-- A refused attempt was checked. -/
theorem commitAttempt_loop
    (cfg : Config) (engine : Engine σ) (tiers : List CapacityTier)
    (rollbacks : ℕ) (proposal : SolverProposal σ) :
    (cfg.forceCommit rollbacks = false ∧
        commitAttempt cfg engine tiers rollbacks proposal =
          (.rolledBack, engine.shared.countRollback rollbacks)) ∨
      commitAttempt cfg engine tiers rollbacks proposal =
        (.committed, engine.shared.addAssignments proposal.assignments) := by
  unfold commitAttempt SharedState.tryAddAssignmentsChecked
  split
  · rename_i refused
    rw [Bool.and_eq_true, Bool.not_eq_true'] at refused
    exact Or.inl ⟨refused.1, rfl⟩
  · exact Or.inr rfl

theorem loopStep_of_move {move : WorkerMove}
    {moved : BatchWorker σ × Engine σ}
    (taken : workerMove cfg runtime engine worker move = some moved) :
    ∃ phase, moved.1 = worker.withPhase phase ∧
      LoopStep cfg engine worker move phase moved.2.shared := by
  cases move with
  | enter =>
      simp only [workerMove, enter] at taken
      split at taken
      · rename_i was
        cases taken
        refine ⟨_, rfl, ?_⟩
        dsimp only
        split <;> exact .entered was
      · cases taken
  | observe =>
      rw [workerMove] at taken
      cases observe_cases taken with
      | batch _ was => exact ⟨_, rfl, .observed was⟩
      | serialized _ was => exact ⟨_, rfl, .observed was⟩
      | merge _ was _ => exact ⟨_, rfl, .observed was⟩
  | solve oracle =>
      rw [workerMove] at taken
      cases solve_cases taken with
      | batch was _ => exact ⟨_, rfl, .solved was⟩
      | serialized was _ _ => exact ⟨_, rfl, .solved was⟩
      | merge was _ => exact ⟨_, rfl, .solved was⟩
  | commit =>
      simp only [workerMove, commit] at taken
      split at taken
      · rename_i tiers rollbacks proposal was
        rcases commitAttempt_loop cfg engine tiers rollbacks proposal with
          ⟨checked, refused⟩ | accepted
        · rw [refused] at taken
          cases taken
          exact ⟨_, rfl, .rolledBack was checked⟩
        · rw [accepted] at taken
          cases taken
          refine ⟨_, rfl, ?_⟩
          dsimp only
          exact .committed was
      · cases taken
  | requeue =>
      simp only [workerMove, requeue] at taken
      split at taken
      · rename_i was
        cases taken
        exact ⟨_, rfl, .requeued was⟩
      · cases taken
  | mergeLearned =>
      simp only [workerMove, mergeLearned] at taken
      split at taken
      · rename_i was
        cases taken
        exact ⟨_, rfl, .merged was⟩
      · cases taken

namespace LoopStep

variable {move : WorkerMove} {phase : WorkerPhase σ} {shared : SharedState}

/-- The limit is kept. -/
theorem rollbacks_le (moves : LoopStep cfg engine worker move phase shared)
    (within : worker.phase.rollbacks ≤ cfg.rollbackLimit) :
    phase.rollbacks ≤ cfg.rollbackLimit := by
  cases moves with
  | entered was => exact Nat.zero_le _
  | observed was =>
      rw [was] at within
      exact within
  | @solved tiers rollbacks _ _ proposal was =>
      rw [was] at within
      rcases afterSolve_cases tiers rollbacks proposal with empty | proposed
      · rw [empty]
        exact Nat.zero_le _
      · rw [proposed]
        exact within
  | @rolledBack tiers rollbacks _ was checked =>
      rw [was] at within
      have lower := Config.lt_of_forceCommit_eq_false checked within
      rcases afterRollback_cases (σ := σ) cfg tiers rollbacks with
        empty | ⟨kind, again⟩
      · rw [empty]
        exact Nat.zero_le _
      · rw [again, Config.rollbackLimit, if_neg kind]
        exact lower
  | @committed _ _ proposal was =>
      rcases afterCommit_cases cfg proposal with learning | done
      · rw [learning]
        exact Nat.zero_le _
      · rw [done]
        exact Nat.zero_le _
  | requeued was => exact Nat.zero_le _
  | merged was => exact Nat.zero_le _

/-- A solve uses up a round, and a refused attempt gives none back. -/
theorem roundsLeft_le (moves : LoopStep cfg engine worker move phase shared)
    (within : worker.phase.rollbacks ≤ cfg.rollbackLimit) :
    (if move.isSolve then 1 else 0) +
        phase.roundsLeft cfg.solver.rollbackMaxConsecutive ≤
      worker.phase.roundsLeft cfg.solver.rollbackMaxConsecutive := by
  have limit := cfg.rollbackLimit_le
  cases moves with
  | entered was => simp [was, WorkerMove.isSolve, WorkerPhase.roundsLeft]
  | observed was => simp [was, WorkerMove.isSolve, WorkerPhase.roundsLeft]
  | @solved tiers rollbacks _ _ proposal was =>
      rw [was] at within ⊢
      have lower : rollbacks ≤ cfg.rollbackLimit := within
      rcases afterSolve_cases tiers rollbacks proposal with empty | proposed
      · rw [empty]
        simp only [WorkerMove.isSolve, WorkerPhase.roundsLeft, if_true]
        omega
      · rw [proposed]
        simp only [WorkerMove.isSolve, WorkerPhase.roundsLeft, if_true]
        omega
  | @rolledBack tiers rollbacks _ was checked =>
      rw [was] at within ⊢
      have lower := Config.lt_of_forceCommit_eq_false checked within
      rcases afterRollback_cases (σ := σ) cfg tiers rollbacks with
        empty | ⟨_, again⟩
      · rw [empty]
        simp [WorkerMove.isSolve, WorkerPhase.roundsLeft]
      · rw [again]
        simp only [WorkerMove.isSolve, WorkerPhase.roundsLeft,
          Bool.false_eq_true, if_false]
        omega
  | @committed _ _ proposal was =>
      rcases afterCommit_cases cfg proposal with learning | done
      · rw [learning]
        simp [WorkerMove.isSolve, WorkerPhase.roundsLeft]
      · rw [done]
        simp [WorkerMove.isSolve, WorkerPhase.roundsLeft]
  | requeued was => simp [WorkerMove.isSolve, WorkerPhase.roundsLeft]
  | merged was => simp [WorkerMove.isSolve, WorkerPhase.roundsLeft]

/-- Every step brings the worker closer to its end. -/
theorem movesLeft_lt (moves : LoopStep cfg engine worker move phase shared)
    (within : worker.phase.rollbacks ≤ cfg.rollbackLimit) :
    phase.movesLeft cfg.solver.rollbackMaxConsecutive <
      worker.phase.movesLeft cfg.solver.rollbackMaxConsecutive := by
  cases moves with
  | entered was =>
      rw [was]
      simp only [WorkerPhase.movesLeft]
      omega
  | observed was =>
      rw [was]
      simp only [WorkerPhase.movesLeft]
      omega
  | @solved tiers rollbacks _ _ proposal was =>
      rw [was]
      rcases afterSolve_cases tiers rollbacks proposal with empty | proposed
      · rw [empty]
        simp only [WorkerPhase.movesLeft]
        omega
      · rw [proposed]
        simp only [WorkerPhase.movesLeft]
        omega
  | @rolledBack tiers rollbacks _ was checked =>
      rw [was] at within ⊢
      have lower := Config.lt_of_forceCommit_eq_false checked within
      rcases afterRollback_cases (σ := σ) cfg tiers rollbacks with
        empty | ⟨_, again⟩
      · rw [empty]
        simp only [WorkerPhase.movesLeft]
        omega
      · rw [again]
        simp only [WorkerPhase.movesLeft]
        omega
  | @committed _ _ proposal was =>
      rw [was]
      rcases afterCommit_cases cfg proposal with learning | done
      · rw [learning]
        simp only [WorkerPhase.movesLeft]
        omega
      · rw [done]
        simp only [WorkerPhase.movesLeft]
        omega
  | requeued was => simp [was, WorkerPhase.movesLeft]
  | merged was => simp [was, WorkerPhase.movesLeft]

end LoopStep

/-! ## What a step does to one worker -/

/-- A worker's step, its start or its end; every other step passes it by. -/
inductive WorkerChange (cfg : Config) (engine : Engine σ) (workerId : ℕ) :
    Action → Engine σ → Prop where
  | passed {action : Action} {next : Engine σ}
      (foreign : ∀ kind, action.isMoveOf workerId kind = false)
      (lookup_eq :
        next.workers.lookup workerId = engine.workers.lookup workerId)
      (spawned_le : engine.spawned ≤ next.spawned) :
      WorkerChange cfg engine workerId action next
  | spawned {worker : BatchWorker σ} {next : Engine σ}
      (fresh : workerId = engine.spawned)
      (found : next.workers.lookup workerId = some worker)
      (phase_eq : worker.phase = .claimed)
      (spawned_eq : next.spawned = engine.spawned + 1) :
      WorkerChange cfg engine workerId .claimBatch next
  | moved {worker : BatchWorker σ} {move : WorkerMove}
      {phase : WorkerPhase σ} {next : Engine σ}
      (was : engine.workers.lookup workerId = some worker)
      (moves : LoopStep cfg engine worker move phase next.shared)
      (found :
        next.workers.lookup workerId = some (worker.withPhase phase))
      (spawned_eq : next.spawned = engine.spawned) :
      WorkerChange cfg engine workerId (.work workerId move) next
  | released {worker : BatchWorker σ} {next : Engine σ}
      (was : engine.workers.lookup workerId = some worker)
      (absent : next.workers.lookup workerId = none)
      (spawned_eq : next.spawned = engine.spawned) :
      WorkerChange cfg engine workerId (.release workerId) next

private theorem change_of_own_move {workerId : ℕ} {move : WorkerMove}
    (taken : step cfg runtime engine (.work workerId move) = some next) :
    WorkerChange cfg engine workerId (.work workerId move) next := by
  obtain ⟨worker, was, moves⟩ := Option.bind_eq_some_iff.mp taken
  obtain ⟨moved, performed, rfl⟩ := Option.map_eq_some_iff.mp moves
  obtain ⟨phase, worker_eq, loops⟩ := loopStep_of_move performed
  obtain ⟨_, _, _, reservations⟩ := workerMove_moved performed
  refine .moved was loops ?_ reservations.spawned_eq
  rw [AList.lookup_insert, worker_eq]

theorem workerChange_of_step {action : Action} (workerId : ℕ)
    (taken : step cfg runtime engine action = some next) :
    WorkerChange cfg engine workerId action next := by
  by_cases own : ∃ move, action = .work workerId move
  · obtain ⟨move, rfl⟩ := own
    exact change_of_own_move taken
  · have foreign : ∀ kind, action.isMoveOf workerId kind = false := by
      intro kind
      cases action with
      | work mover move =>
          have other : mover ≠ workerId := by
            rintro rfl
            exact own ⟨move, rfl⟩
          rw [Action.isMoveOf, decide_eq_false other, Bool.false_and]
      | _ => rfl
    cases step_effect taken with
    | queued _ _ _ same =>
        exact .passed foreign (by rw [same.workers_eq]) same.spawned_eq.ge
    | corrected _ _ _ _ _ _ same =>
        exact .passed foreign (by rw [same.workers_eq]) same.spawned_eq.ge
    | selected _ _ _ => exact .passed foreign rfl le_rfl
    | unclaimed _ _ _ _ same =>
        exact .passed foreign (by rw [same.workers_eq]) same.spawned_eq.ge
    | @claimed selection claimed _ _ _ _ _ _ _ workers_eq spawned_eq _ _ =>
        by_cases fresh : workerId = engine.spawned
        · have found : next.workers.lookup workerId =
              some (spawnWorker selection claimed) := by
            rw [workers_eq, fresh, AList.lookup_insert]
          exact .spawned fresh found rfl spawned_eq
        · refine .passed foreign ?_ (by omega)
          rw [workers_eq, AList.lookup_insert_ne fresh]
    | @worked mover move _ _ _ _ _ workers_eq spawned_eq _ _ =>
        have other : workerId ≠ mover := by
          rintro rfl
          exact own ⟨move, rfl⟩
        refine .passed foreign ?_ spawned_eq.ge
        rw [workers_eq, AList.lookup_insert_ne other]
    | @released leaver worker _ _ was _ _ _ workers_eq spawned_eq _ _ =>
        by_cases own : workerId = leaver
        · subst own
          refine .released was ?_ spawned_eq
          rw [workers_eq, AList.lookup_erase]
        · refine .passed foreign ?_ spawned_eq.ge
          rw [workers_eq, AList.lookup_erase_ne own]

/-! ## The recorded maximum -/

theorem maxConsecutive_addAssignments {shared : SharedState}
    (assignments : List Assignment) :
    (shared.addAssignments assignments).maxConsecutiveRollbacksSeen =
      shared.maxConsecutiveRollbacksSeen := by
  induction assignments generalizing shared with
  | nil => rfl
  | cons assignment rest inductionHypothesis =>
      rw [SharedState.addAssignments_cons, inductionHypothesis]
      unfold SharedState.recordAssignment
      split <;> rfl

theorem maxConsecutive_flagRolledBack (rollbacks : ℕ) (shared : SharedState) :
    (flagRolledBack cfg worker rollbacks shared).maxConsecutiveRollbacksSeen =
      shared.maxConsecutiveRollbacksSeen := by
  unfold flagRolledBack
  split <;> rfl

/-- Only refused attempts raise the maximum. -/
theorem LoopStep.maxConsecutive_le {move : WorkerMove}
    {phase : WorkerPhase σ} {shared : SharedState}
    (moves : LoopStep cfg engine worker move phase shared)
    (within : worker.phase.rollbacks ≤ cfg.rollbackLimit)
    (seen : engine.shared.maxConsecutiveRollbacksSeen ≤
      cfg.solver.rollbackMaxConsecutive) :
    shared.maxConsecutiveRollbacksSeen ≤
      cfg.solver.rollbackMaxConsecutive := by
  cases moves with
  | rolledBack was checked =>
      rw [was] at within
      exact max_le seen (Config.lt_of_forceCommit_eq_false checked within)
  | committed was =>
      rw [maxConsecutive_flagRolledBack, maxConsecutive_addAssignments]
      exact seen
  | entered was => exact seen
  | observed was => exact seen
  | solved was => exact seen
  | requeued was => exact seen
  | merged was => exact seen

/-- The other steps do not write the rollback counters. -/
theorem maxConsecutive_of_other {action : Action}
    (other : ∀ workerId kind, action.isMoveOf workerId kind = false)
    (taken : step cfg runtime engine action = some next) :
    next.shared.maxConsecutiveRollbacksSeen =
      engine.shared.maxConsecutiveRollbacksSeen := by
  cases action with
  | work workerId move =>
      have own := other workerId fun _ => true
      simp [Action.isMoveOf] at own
  | addRequest request =>
      cases taken
      rfl
  | addRequests requests =>
      cases taken
      rfl
  | setCurrentSlot slot =>
      cases taken
      rfl
  | initializeCapacityTiers tiers =>
      rw [step] at taken
      split at taken
      · cases taken
      · cases taken
        simp only [withShared, SharedState.initializeCapacityTiers]
        split <;> rfl
  | replaceCapacityTiers tiers =>
      rw [step] at taken
      split at taken
      · cases taken
      · cases taken
        rfl
  | correctAssignmentError requestId actualError =>
      cases taken
      simp only [withShared, SharedState.correctAssignmentError]
      split <;> rfl
  | correctAssignmentCarbonCost requestId actualCarbonCost =>
      cases taken
      simp only [withShared, SharedState.correctAssignmentCarbonCost]
      split <;> rfl
  | selectProfile elapsedSlots flush carbonForecast =>
      simp only [step, selectProfile] at taken
      split at taken
      · cases taken
      · obtain ⟨_, _, rfl⟩ := Option.map_eq_some_iff.mp taken
        rfl
  | claimBatch =>
      obtain ⟨selection, _, claimed⟩ := Option.map_eq_some_iff.mp taken
      dsimp only at claimed
      split at claimed
      · subst claimed
        rfl
      · split at claimed <;> subst claimed <;> rfl
  | release workerId =>
      obtain ⟨worker, _, released⟩ := Option.bind_eq_some_iff.mp taken
      unfold release at released
      split at released
      · cases released
        rfl
      · cases released

/-! ## Runs -/

/-- No worker is past the limit, and neither is the recorded maximum. -/
structure WithinLimit (cfg : Config) (engine : Engine σ) : Prop where
  rollbacks : ∀ workerId worker,
    engine.workers.lookup workerId = some worker →
      worker.phase.rollbacks ≤ cfg.rollbackLimit
  spawned : ∀ workerId worker,
    engine.workers.lookup workerId = some worker → workerId < engine.spawned
  seen : engine.shared.maxConsecutiveRollbacksSeen ≤
    cfg.solver.rollbackMaxConsecutive

theorem withinLimit_new : WithinLimit cfg (Engine.new cfg : Engine σ) where
  rollbacks _ _ found := by cases found
  spawned _ _ found := by cases found
  seen := by
    unfold Engine.new SharedState.initializeCapacityTiers
    split <;> exact Nat.zero_le _

theorem WithinLimit.step {action : Action} (within : WithinLimit cfg engine)
    (taken : step cfg runtime engine action = some next) :
    WithinLimit cfg next := by
  constructor
  · intro workerId worker found
    cases workerChange_of_step workerId taken with
    | passed _ lookup_eq _ =>
        rw [lookup_eq] at found
        exact within.rollbacks workerId worker found
    | spawned _ started phase_eq _ =>
        rw [started] at found
        cases found
        rw [phase_eq]
        exact Nat.zero_le _
    | moved was moves after _ =>
        rw [after] at found
        cases found
        exact moves.rollbacks_le (within.rollbacks workerId _ was)
    | released _ absent _ =>
        rw [absent] at found
        cases found
  · intro workerId worker found
    cases workerChange_of_step workerId taken with
    | passed _ lookup_eq spawned_le =>
        rw [lookup_eq] at found
        exact (within.spawned workerId worker found).trans_le spawned_le
    | spawned fresh _ _ spawned_eq => omega
    | moved was _ _ spawned_eq =>
        rw [spawned_eq]
        exact within.spawned workerId _ was
    | released was _ spawned_eq =>
        rw [spawned_eq]
        exact within.spawned workerId _ was
  · by_cases own : ∃ workerId move, action = .work workerId move
    · obtain ⟨workerId, move, rfl⟩ := own
      cases workerChange_of_step workerId taken with
      | passed foreign _ _ =>
          have moves := foreign fun _ => true
          simp [Action.isMoveOf] at moves
      | moved was moves _ _ =>
          exact moves.maxConsecutive_le (within.rollbacks workerId _ was)
            within.seen
    · have other : ∀ workerId kind,
          action.isMoveOf workerId kind = false := by
        intro workerId kind
        cases action with
        | work mover move => exact absurd ⟨mover, move, rfl⟩ own
        | _ => rfl
      rw [maxConsecutive_of_other other taken]
      exact within.seen

theorem withinLimit_of_run {actions : List Action}
    (reached : Transition.run (Engine.step cfg runtime) (Engine.new cfg)
      actions = some engine) : WithinLimit cfg engine :=
  Transition.run_induction (fun _ => WithinLimit cfg) withinLimit_new
    (fun _ _ _ _ within taken => within.step taken) reached

/-- What is left of a budget to a worker; workers to come have all of it. -/
def budgetLeft (budget : WorkerPhase σ → ℕ) (workerId : ℕ)
    (engine : Engine σ) : ℕ :=
  match engine.workers.lookup workerId with
  | some worker => budget worker.phase
  | none => if engine.spawned ≤ workerId then budget .claimed else 0

section Budget

variable (budget : WorkerPhase σ → ℕ) (kind : WorkerMove → Bool)

private theorem budgetLeft_spends
    (spends : ∀ {engine : Engine σ} {worker : BatchWorker σ}
      {move : WorkerMove} {phase : WorkerPhase σ} {shared : SharedState},
      worker.phase.rollbacks ≤ cfg.rollbackLimit →
        LoopStep cfg engine worker move phase shared →
          (if kind move then 1 else 0) + budget phase ≤ budget worker.phase)
    {action : Action} (workerId : ℕ) (within : WithinLimit cfg engine)
    (taken : step cfg runtime engine action = some next) :
    (if action.isMoveOf workerId kind then 1 else 0) +
        budgetLeft budget workerId next ≤
      budgetLeft budget workerId engine := by
  cases workerChange_of_step workerId taken with
  | passed foreign lookup_eq spawned_le =>
      rw [foreign kind, budgetLeft, budgetLeft, lookup_eq]
      cases engine.workers.lookup workerId with
      | some worker => simp
      | none =>
          dsimp only
          by_cases coming : next.spawned ≤ workerId
          · rw [if_pos coming, if_pos (spawned_le.trans coming)]
            simp
          · rw [if_neg coming]
            simp
  | spawned fresh found phase_eq spawned_eq =>
      have absent : engine.workers.lookup workerId = none := by
        cases earlier : engine.workers.lookup workerId with
        | none => rfl
        | some worker =>
            have older := within.spawned workerId worker earlier
            omega
      rw [budgetLeft, budgetLeft, found, absent]
      dsimp only
      rw [phase_eq, if_pos fresh.ge]
      simp [Action.isMoveOf]
  | moved was moves found spawned_eq =>
      have spent := spends (within.rollbacks workerId _ was) moves
      rw [budgetLeft, budgetLeft, was, found]
      simpa [Action.isMoveOf, BatchWorker.withPhase] using spent
  | released was absent spawned_eq =>
      have older := within.spawned workerId _ was
      rw [budgetLeft, absent, spawned_eq]
      dsimp only
      rw [if_neg older.not_ge]
      simp [Action.isMoveOf]

/-- A worker's steps of a kind are paid from its budget. -/
theorem countP_moves_le
    (spends : ∀ {engine : Engine σ} {worker : BatchWorker σ}
      {move : WorkerMove} {phase : WorkerPhase σ} {shared : SharedState},
      worker.phase.rollbacks ≤ cfg.rollbackLimit →
        LoopStep cfg engine worker move phase shared →
          (if kind move then 1 else 0) + budget phase ≤ budget worker.phase)
    {actions : List Action}
    (reached : Transition.run (Engine.step cfg runtime) (Engine.new cfg)
      actions = some engine)
    (workerId : ℕ) :
    actions.countP (Action.isMoveOf workerId kind) ≤ budget .claimed := by
  have paid := Transition.countP_add_le_of_run (WithinLimit cfg)
    (budgetLeft budget workerId) (Action.isMoveOf workerId kind)
    withinLimit_new (fun _ _ _ within taken => within.step taken)
    (fun _ _ _ within taken =>
      budgetLeft_spends budget kind spends workerId within taken) reached
  have all : budgetLeft budget workerId (Engine.new cfg : Engine σ) =
      budget .claimed := by
    change (if 0 ≤ workerId then budget .claimed else 0) = budget .claimed
    exact if_pos (Nat.zero_le workerId)
  omega

end Budget

/-! ## The end of the loop -/

/-- What every solve asserts of a batch: the forecast covers the horizon, and
there is a flavour to choose, also of each request's own profile. -/
structure Solvable (cfg : Config) (batch : ClaimedBatch) : Prop where
  covers : batch.carbonForecast.length = cfg.totalSlots.toNat
  flavoured : ∀ tiers, (cfg.workerPolicy batch.pending tiers).flavours ≠ []
  profiled : ∀ request ∈ batch.pending, ∀ profile,
    request.qosProfile = some profile → profile.flavours ≠ []

theorem totalSlots_workerPolicy (pending : List Request)
    (tiers : List CapacityTier) :
    (cfg.workerPolicy pending tiers).totalSlots = cfg.totalSlots := by
  unfold Config.workerPolicy
  split <;> rfl

/-- No solve of a batch panics. -/
theorem exists_solve (runtime : NumericRuntime σ) (engine : Engine σ)
    (solvable : Solvable cfg worker.toClaimedBatch)
    (oracle : SolveOracle) (tiers : List CapacityTier)
    (snapshot : SolverSnapshot) :
    ∃ result recovery,
      (selectBatchSolver cfg.solver.solverStrategy).solve runtime oracle
        (batchInput cfg engine worker tiers snapshot) =
          some (result, recovery) := by
  have covers : (batchInput cfg engine worker tiers
      snapshot).carbonForecast.length =
        (batchInput cfg engine worker tiers
          snapshot).assignment.totalSlots.toNat := by
    rw [batchInput, totalSlots_workerPolicy]
    exact solvable.covers
  cases selectBatchSolver cfg.solver.solverStrategy with
  | greedySingleton =>
      have offered : (prepareSolve runtime oracle.futureOrder
          (batchInput cfg engine worker tiers snapshot)).1.solverFlavours ≠
            [] := by
        rw [prepareSolve_solverFlavours]
        exact BatchSolveContext.restrictFlavours_ne_nil
          (solvable.flavoured tiers)
      obtain ⟨fallback, least⟩ := List.exists_argmin Flavour.error offered
      exact ⟨_, _, Option.map_eq_some_iff.mpr ⟨fallback, least, rfl⟩⟩
  | dp =>
      refine solveDp_isSome runtime oracle (fun built request _ => ?_) covers
      unfold DpSolver.flavoursFor
      cases own : (batchInput cfg engine worker tiers
          snapshot).requestFlavours.lookup request.id with
      | none =>
          rw [built.flavours_eq]
          exact solvable.flavoured tiers
      | some flavours =>
          obtain ⟨queued, member, profile, _, profiled, rfl⟩ :=
            BatchSolveContext.profile_of_lookup_requestFlavours own
          exact BatchSolveContext.restrictFlavours_ne_nil
            (solvable.profiled queued member profile profiled)

/-- A learned state is there, or it can be created. -/
theorem exists_learnedState (runtime : NumericRuntime σ) (engine : Engine σ)
    (solvable : Solvable cfg worker.toClaimedBatch)
    (tiers : List CapacityTier) :
    ∃ learned, learnedState cfg runtime engine worker tiers = some learned := by
  unfold learnedState
  cases engine.scheduler.swarmStates.lookup
      (batchProfileId worker.pending) with
  | some learned => exact ⟨learned, rfl⟩
  | none =>
      exact OnlineSwarmState.exists_fromConfig runtime cfg.solver cfg.swarm
        worker.carbonForecast (solvable.flavoured tiers)

/-- While the mutex is free the worker is never stuck. -/
theorem exists_step_of_nextMove {workerId : ℕ} {oracle : SolveOracle}
    {move : WorkerMove} (free : engine.selecting = none)
    (found : engine.workers.lookup workerId = some worker)
    (goesOn : worker.phase.nextMove oracle = some move)
    (solvable : Solvable cfg worker.toClaimedBatch) :
    ∃ next, step cfg runtime engine (.work workerId move) = some next := by
  have performed : ∃ moved,
      workerMove cfg runtime engine worker move = some moved := by
    cases was : worker.phase with
    | claimed =>
        rw [was] at goesOn
        cases goesOn
        rw [workerMove, enter, free, was]
        exact ⟨_, rfl⟩
    | ready tiers rollbacks =>
        rw [was] at goesOn
        cases goesOn
        rw [workerMove, observe, was]
        dsimp only
        cases cfg.workerKind with
        | batch => exact ⟨_, rfl⟩
        | swarmSerialized => exact ⟨_, rfl⟩
        | swarmMerge =>
            obtain ⟨learned, present⟩ :=
              exists_learnedState runtime engine solvable tiers
            dsimp only
            rw [free, present]
            exact ⟨_, rfl⟩
    | observed tiers rollbacks view =>
        rw [was] at goesOn
        cases goesOn
        rw [workerMove, solve, was]
        cases view with
        | batch snapshot =>
            obtain ⟨_, _, solves⟩ :=
              exists_solve runtime engine solvable oracle tiers snapshot
            dsimp only
            rw [solves]
            exact ⟨_, rfl⟩
        | swarm ctx =>
            obtain ⟨learned, present⟩ :=
              exists_learnedState runtime engine solvable tiers
            obtain ⟨solved, answered⟩ := learned.exists_solveBatch runtime
              worker.pending worker.slot worker.carbonForecast ctx
              (solvable.flavoured tiers)
            dsimp only
            rw [free, present, Option.bind_some, answered]
            exact ⟨_, rfl⟩
        | swarmClone ctx learned =>
            obtain ⟨solved, answered⟩ := learned.exists_solveBatchMerge runtime
              worker.pending worker.slot worker.carbonForecast ctx
              (solvable.flavoured tiers)
            dsimp only
            rw [answered]
            exact ⟨_, rfl⟩
    | proposed tiers rollbacks proposal =>
        rw [was] at goesOn
        cases goesOn
        rw [workerMove, commit, was]
        dsimp only
        split <;> exact ⟨_, rfl⟩
    | rejected =>
        rw [was] at goesOn
        cases goesOn
        rw [workerMove, requeue, was]
        exact ⟨_, rfl⟩
    | learning delta =>
        rw [was] at goesOn
        cases goesOn
        rw [workerMove, mergeLearned, free, was]
        exact ⟨_, rfl⟩
    | finished scheduled =>
        rw [was] at goesOn
        cases goesOn
  obtain ⟨moved, performs⟩ := performed
  rw [step, found, Option.bind_some, performs]
  exact ⟨_, rfl⟩

/-- The main loop gives the mutex back. -/
theorem exists_step_claimBatch {selection : ProfileSelection}
    (held : engine.selecting = some selection) :
    ∃ next, step cfg runtime engine .claimBatch = some next ∧
      next.selecting = none := by
  rw [step, claimBatch, held, Option.map_some]
  refine ⟨_, rfl, ?_⟩
  dsimp only
  split
  · rfl
  · split <;> rfl

/-- What one attempt leaves behind: a refused proposal changes the rollback
counters alone, an accepted one is committed as a whole. -/
inductive AttemptOutcome (cfg : Config) (engine : Engine σ) (workerId : ℕ)
    (worker : BatchWorker σ) : Engine σ → Prop where
  | refused {tiers : List CapacityTier} {rollbacks : ℕ}
      {proposal : SolverProposal σ} {next : Engine σ}
      (was : worker.phase = .proposed tiers rollbacks proposal)
      (below : rollbacks < cfg.solver.rollbackMaxConsecutive)
      (shared_eq : next.shared = engine.shared.countRollback rollbacks)
      (found : next.workers.lookup workerId =
        some (worker.withPhase (afterRollback cfg tiers rollbacks))) :
      AttemptOutcome cfg engine workerId worker next
  | accepted {tiers : List CapacityTier} {rollbacks : ℕ}
      {proposal : SolverProposal σ} {next : Engine σ}
      (was : worker.phase = .proposed tiers rollbacks proposal)
      (shared_eq : next.shared =
        flagRolledBack cfg worker rollbacks
          (engine.shared.addAssignments proposal.assignments))
      (found : next.workers.lookup workerId =
        some (worker.withPhase (afterCommit cfg proposal))) :
      AttemptOutcome cfg engine workerId worker next

theorem attemptOutcome_of_step {workerId : ℕ}
    (within : WithinLimit cfg engine)
    (was : engine.workers.lookup workerId = some worker)
    (taken : step cfg runtime engine (.work workerId .commit) = some next) :
    AttemptOutcome cfg engine workerId worker next := by
  cases workerChange_of_step workerId taken with
  | passed foreign _ _ =>
      have moves := foreign fun _ => true
      simp [Action.isMoveOf] at moves
  | @moved _ _ phase _ earlier moves found _ =>
      rw [was] at earlier
      cases earlier
      generalize after : next.shared = shared at moves
      cases moves with
      | rolledBack proposed checked =>
          have lower := within.rollbacks workerId worker was
          rw [proposed] at lower
          exact .refused proposed
            (Config.lt_of_forceCommit_eq_false checked lower) after found
      | committed proposed => exact .accepted proposed after found

/-- How the loop of a batch ends, seen from the worker's last step in it. -/
inductive LastStep (cfg : Config) (before : Engine σ)
    (worker : BatchWorker σ) : Bool → SharedState → Prop where
  | committed {tiers : List CapacityTier} {rollbacks : ℕ}
      {proposal : SolverProposal σ}
      (was : worker.phase = .proposed tiers rollbacks proposal) :
      LastStep cfg before worker true
        (flagRolledBack cfg worker rollbacks
          (before.shared.addAssignments proposal.assignments))
  | requeued
      (was : worker.phase = .rejected) :
      LastStep cfg before worker false
        (before.shared.requeuePendingRequestsFront worker.pending)

/-- The run holds the step that settled the batch. -/
def Ended (cfg : Config) (runtime : NumericRuntime σ)
    (actions : List Action) (workerId : ℕ) (batch : ClaimedBatch)
    (scheduled : Bool) : Prop :=
  ∃ earlier move later before after worker,
    actions = earlier ++ .work workerId move :: later ∧
      Transition.run (step cfg runtime) (new cfg) earlier = some before ∧
        step cfg runtime before (.work workerId move) = some after ∧
          before.workers.lookup workerId = some worker ∧
            worker.toClaimedBatch = batch ∧
              LastStep cfg before worker scheduled after.shared

/-- The batch is with the worker, and it is decided what became of it. -/
def SettledAs (workerId : ℕ) (batch : ClaimedBatch) (scheduled : Bool)
    (engine : Engine σ) : Prop :=
  ∃ worker,
    engine.workers.lookup workerId = some worker ∧
      worker.toClaimedBatch = batch ∧
        worker.phase.settled = some scheduled

theorem LoopStep.lastStep {move : WorkerMove} {phase : WorkerPhase σ}
    {shared : SharedState} {scheduled : Bool}
    (moves : LoopStep cfg engine worker move phase shared)
    (open_ : worker.phase.settled ≠ some scheduled)
    (settled : phase.settled = some scheduled) :
    LastStep cfg engine worker scheduled shared := by
  cases moves with
  | entered was => cases settled
  | observed was => cases settled
  | @solved tiers rollbacks _ _ proposal was =>
      rcases afterSolve_cases tiers rollbacks proposal with empty | proposed
      · rw [empty] at settled
        cases settled
      · rw [proposed] at settled
        cases settled
  | @rolledBack tiers rollbacks _ was checked =>
      rcases afterRollback_cases (σ := σ) cfg tiers rollbacks with
        empty | ⟨_, again⟩
      · rw [empty] at settled
        cases settled
      · rw [again] at settled
        cases settled
  | @committed _ _ proposal was =>
      rcases afterCommit_cases cfg proposal with learning | done
      · rw [learning] at settled
        cases settled
        exact .committed was
      · rw [done] at settled
        cases settled
        exact .committed was
  | requeued was =>
      cases settled
      exact .requeued was
  | merged was =>
      cases settled
      rw [was] at open_
      exact absurd rfl open_

theorem ended_of_run {actions : List Action} {workerId : ℕ}
    {batch : ClaimedBatch} {scheduled : Bool}
    (reached : Transition.run (step cfg runtime) (new cfg) actions =
      some engine)
    (settled : SettledAs workerId batch scheduled engine) :
    Ended cfg runtime actions workerId batch scheduled := by
  have initially : ¬ SettledAs workerId batch scheduled
      (new cfg : Engine σ) := by
    rintro ⟨_, found, _⟩
    cases found
  obtain ⟨earlier, action, later, before, after, split, start, taken, open_,
    worker, found, own, decided⟩ :=
      Transition.exists_step_of_run initially reached settled
  cases workerChange_of_step workerId taken with
  | passed _ lookup_eq _ =>
      rw [lookup_eq] at found
      exact absurd ⟨worker, found, own, decided⟩ open_
  | spawned _ started phase_eq _ =>
      rw [started] at found
      cases found
      rw [phase_eq] at decided
      cases decided
  | @moved proposer move phase _ was moves now _ =>
      rw [now] at found
      cases found
      have undecided : proposer.phase.settled ≠ some scheduled :=
        fun already => open_ ⟨proposer, was, own, already⟩
      exact ⟨earlier, move, later, before, after, proposer, split, start,
        taken, was, own, moves.lastStep undecided decided⟩
  | released _ absent _ =>
      rw [absent] at found
      cases found

/-- The commit loop of one worker in a run that has led to a state. -/
structure BoundedLoop (cfg : Config) (runtime : NumericRuntime σ)
    (actions : List Action) (engine : Engine σ) (workerId : ℕ) : Prop where
  rounds :
    actions.countP (Action.isMoveOf workerId WorkerMove.isSolve) ≤
      cfg.solver.rollbackMaxConsecutive + 1
  moves :
    actions.countP (Action.isMoveOf workerId fun _ => true) ≤
      3 * cfg.solver.rollbackMaxConsecutive + 5
  goesOn : ∀ worker oracle move,
    engine.workers.lookup workerId = some worker →
      Solvable cfg worker.toClaimedBatch →
        worker.phase.nextMove oracle = some move →
          engine.selecting = none →
            ∃ next, step cfg runtime engine (.work workerId move) = some next
  attempt : ∀ worker next,
    engine.workers.lookup workerId = some worker →
      step cfg runtime engine (.work workerId .commit) = some next →
        AttemptOutcome cfg engine workerId worker next
  ending : ∀ worker scheduled,
    engine.workers.lookup workerId = some worker →
      worker.phase = .finished scheduled →
        Ended cfg runtime actions workerId worker.toClaimedBatch scheduled

/-- In every run the rounds of a worker are bounded, it is stuck only while
the main loop holds the mutex, and it commits a proposal as a whole or requeues
its batch. -/
theorem commit_loop_bounded {actions : List Action}
    (reached : Transition.run (step cfg runtime) (new cfg) actions =
      some engine) :
    engine.shared.maxConsecutiveRollbacksSeen ≤
        cfg.solver.rollbackMaxConsecutive ∧
      (∀ selection, engine.selecting = some selection →
        ∃ next, step cfg runtime engine .claimBatch = some next ∧
          next.selecting = none) ∧
      ∀ workerId, BoundedLoop cfg runtime actions engine workerId := by
  have within := withinLimit_of_run reached
  refine ⟨within.seen, fun _ held => exists_step_claimBatch held,
    fun workerId => ?_⟩
  exact
    { rounds :=
        countP_moves_le
          (WorkerPhase.roundsLeft cfg.solver.rollbackMaxConsecutive)
          WorkerMove.isSolve (fun lower loops => loops.roundsLeft_le lower)
          reached workerId
      moves :=
        countP_moves_le
          (WorkerPhase.movesLeft cfg.solver.rollbackMaxConsecutive)
          (fun _ => true)
          (fun lower loops => by
            have fewer := loops.movesLeft_lt lower
            simp only [if_true]
            omega)
          reached workerId
      goesOn := fun worker oracle move found solvable goesOn free =>
        exists_step_of_nextMove free found goesOn solvable
      attempt := fun worker next found taken =>
        attemptOutcome_of_step within found taken
      ending := fun worker scheduled found done =>
        ended_of_run reached ⟨worker, found, rfl, by rw [done]; rfl⟩ }

/-- One request for each slot, and one rollback for each batch. -/
def crowdedConfig : Config :=
  { Config.default with
    solver := { SolverConfig.default with rollbackMaxConsecutive := 1 }
    capacityTiers :=
      [{ maxRequests := some 1, multiplier := 1 },
        { maxRequests := none, multiplier := 5 }] }

/-- Another profile takes the slot between the solve and the commit. -/
def contestedRun : List Action :=
  [.addRequest (.new 0 1 0 0),
    .addRequest { Request.new 0 2 0 0 with qosProfileId := ⟨"interactive"⟩ },
    .selectProfile 0 true (List.replicate 24 1), .claimBatch,
    .selectProfile 0 true (List.replicate 24 1), .claimBatch,
    .work 0 .enter, .work 0 .observe, .work 0 (.solve .steady),
    .work 1 .enter, .work 1 .observe, .work 1 (.solve .steady),
    .work 1 .commit, .work 0 .commit,
    .work 0 .observe, .work 0 (.solve .steady), .work 0 .commit]

/-- The first attempt is refused, and the second one commits the batch. -/
theorem contestedRun_bounded :
    ∃ engine,
      Transition.run (step crowdedConfig .least) (new crowdedConfig)
          contestedRun = some engine ∧
        engine.shared.totalRollbacks = 1 ∧
        engine.shared.maxConsecutiveRollbacksSeen ≤ 1 ∧
        BoundedLoop crowdedConfig .least contestedRun engine 0 ∧
        BoundedLoop crowdedConfig .least contestedRun engine 1 := by
  have computed :
      (Transition.run (step crowdedConfig .least) (new crowdedConfig)
        contestedRun).map (fun engine => engine.shared.totalRollbacks) =
          some 1 := by
    decide +kernel
  obtain ⟨engine, reached, refused⟩ := Option.map_eq_some_iff.mp computed
  obtain ⟨seen, _, bounded⟩ := commit_loop_bounded reached
  exact ⟨engine, reached, refused, seen, bounded 0, bounded 1⟩

end Engine

end Carbonshift
