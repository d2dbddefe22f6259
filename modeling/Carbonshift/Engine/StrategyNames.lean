import Carbonshift.Engine.DispatchSteps
import Carbonshift.Engine.LearnedSteps

/-!
# Strategy names

Routing trims the configured name and ignores its case; the swarm state is
built for the exact spellings only.  A name that routing accepts and the
constructor does not know gives workers without a state: their batches go back
to the queue, in every run.
-/

namespace Carbonshift

namespace OnlineSwarmState

variable {σ : Type}

/-- Is this an active swarm strategy? -/
def isActive : OnlineSwarmState σ → Bool
  | .none => false
  | .bandit _ => true
  | .aco _ => true

/-- The name of the strategy. -/
def name : OnlineSwarmState σ → String
  | .none => "dp"
  | .bandit _ => "bandit"
  | .aco _ => "ant_colony"

end OnlineSwarmState

section Agreement

variable {σ : Type} (runtime : NumericRuntime σ)
variable (solver : SolverConfig) (swarm : SwarmConfig)
variable (policy : AssignmentPolicy) (carbonForecast : List ℚ)

/-- Batches are routed to the swarm workers exactly when the state that is
built for them is an active one of the named strategy. -/
def RoutesToItsState : Prop :=
  isOnlineSwarmStrategy solver.solverStrategy = true ↔
    ∃ state ∈ OnlineSwarmState.fromConfig runtime solver swarm policy
        carbonForecast,
      state.isActive = true ∧ state.name = normalisedName solver.solverStrategy

/-- The name is spelled the way the constructor compares it. -/
def SpelledExactly (strategy : String) : Prop :=
  isOnlineSwarmStrategy strategy = true → normalisedName strategy = strategy

instance (strategy : String) : Decidable (SpelledExactly strategy) :=
  inferInstanceAs (Decidable (_ → _))

theorem isOnlineSwarmStrategy_iff {strategy : String} :
    isOnlineSwarmStrategy strategy = true ↔
      normalisedName strategy = "bandit" ∨
        normalisedName strategy = "ant_colony" := by
  rw [isOnlineSwarmStrategy, Bool.or_eq_true, beq_iff_eq, beq_iff_eq]

private theorem normalisedName_bandit : normalisedName "bandit" = "bandit" := by
  decide +kernel

private theorem normalisedName_antColony :
    normalisedName "ant_colony" = "ant_colony" := by
  decide +kernel

/-- A name the constructor does not know gives no state. -/
theorem fromConfig_of_unknown
    (noBandit : solver.solverStrategy ≠ "bandit")
    (noColony : solver.solverStrategy ≠ "ant_colony") :
    OnlineSwarmState.fromConfig runtime solver swarm policy carbonForecast =
      some .none := by
  rw [OnlineSwarmState.fromConfig, if_neg noBandit, if_neg noColony]

/-- A misspelled name is none of those the constructor knows. -/
theorem unknown_of_misspelled {strategy : String}
    (misspelled : ¬ SpelledExactly strategy) :
    strategy ≠ "bandit" ∧ strategy ≠ "ant_colony" := by
  constructor
  · rintro rfl
    exact misspelled fun _ => normalisedName_bandit
  · rintro rfl
    exact misspelled fun _ => normalisedName_antColony

/-- A colony needs a flavour to compare the slots by. -/
theorem fromConfig_antColony
    (colony : solver.solverStrategy = "ant_colony") :
    (∃ state ∈ OnlineSwarmState.fromConfig runtime solver swarm policy
        carbonForecast,
      state.isActive = true ∧ state.name = "ant_colony") ↔
      policy.flavours ≠ [] := by
  rw [OnlineSwarmState.fromConfig, colony, if_neg (by decide), if_pos rfl,
    OnlineAcoState.new]
  cases cheapest : policy.flavours.argmin Flavour.duration with
  | none =>
      rw [List.argmin_eq_none] at cheapest
      simp [cheapest]
  | some flavour =>
      have someFlavour : policy.flavours ≠ [] := by
        intro none
        rw [none, List.argmin_nil] at cheapest
        cases cheapest
      simp [someFlavour, OnlineSwarmState.isActive, OnlineSwarmState.name]

theorem routesToItsState_iff :
    RoutesToItsState runtime solver swarm policy carbonForecast ↔
      SpelledExactly solver.solverStrategy ∧
        (solver.solverStrategy = "ant_colony" → policy.flavours ≠ []) := by
  unfold RoutesToItsState
  by_cases routed : isOnlineSwarmStrategy solver.solverStrategy = true
  · by_cases exact_ : SpelledExactly solver.solverStrategy
    · have spelled := exact_ routed
      rw [spelled]
      rcases isOnlineSwarmStrategy_iff.mp routed with bandit | colony
      · rw [spelled] at bandit
        rw [bandit] at routed exact_ ⊢
        simp [routed, exact_, OnlineSwarmState.fromConfig, bandit,
          OnlineSwarmState.isActive, OnlineSwarmState.name]
      · rw [spelled] at colony
        have active := fromConfig_antColony runtime solver swarm policy
          carbonForecast colony
        rw [colony] at routed exact_ ⊢
        rw [active]
        simp [routed, exact_]
    · obtain ⟨noBandit, noColony⟩ := unknown_of_misspelled exact_
      rw [fromConfig_of_unknown runtime solver swarm policy carbonForecast
        noBandit noColony]
      simp [routed, exact_, OnlineSwarmState.isActive]
  · have noBandit : solver.solverStrategy ≠ "bandit" := by
      intro bandit
      refine routed (isOnlineSwarmStrategy_iff.mpr (Or.inl ?_))
      rw [bandit, normalisedName_bandit]
    have noColony : solver.solverStrategy ≠ "ant_colony" := by
      intro colony
      refine routed (isOnlineSwarmStrategy_iff.mpr (Or.inr ?_))
      rw [colony, normalisedName_antColony]
    rw [fromConfig_of_unknown runtime solver swarm policy carbonForecast
      noBandit noColony]
    simp [routed, SpelledExactly, noColony, OnlineSwarmState.isActive]

/-- A capital letter is enough to route batches to a missing state. -/
theorem capital_bandit_routes_to_no_state :
    ¬ RoutesToItsState NumericRuntime.least
      { Config.default.solver with solverStrategy := "Bandit" }
      Config.default.swarm Config.default.assignmentPolicy [] := by
  unfold RoutesToItsState
  decide +kernel

end Agreement

/-! ## A misspelled run -/

namespace Engine

variable {σ : Type} {cfg : Config} {runtime : NumericRuntime σ}
variable {engine next : Engine σ}

/-- Nothing was proposed, and what was learned is nothing. -/
def Fruitless : WorkerPhase σ → Prop
  | .observed _ _ (.batch _) => False
  | .observed _ _ (.swarmClone _ learned) => learned = .none
  | .proposed _ _ _ => False
  | .learning _ => False
  | .finished scheduled => scheduled = false
  | _ => True

/-- Every batch comes back to the queue. -/
structure Starved (engine : Engine σ) : Prop where
  learned : ∀ {profileId state},
    engine.scheduler.swarmStates.lookup profileId = some state →
      state = .none
  fruitless : ∀ {workerId worker},
    engine.workers.lookup workerId = some worker → Fruitless worker.phase
  unplaced : engine.shared.assignments = ∅

theorem Starved.new : Starved (Engine.new cfg : Engine σ) where
  learned stored := by
    have nothing : (none : Option (OnlineSwarmState σ)) = some _ := stored
    cases nothing
  fruitless found := by
    have nobody : (none : Option (BatchWorker σ)) = some _ := found
    cases nobody
  unplaced := rfl

/-- A swarm strategy whose name the constructor does not know. -/
structure Misspelled (cfg : Config) : Prop where
  routed : isOnlineSwarmStrategy cfg.solver.solverStrategy = true
  unknown : ¬ SpelledExactly cfg.solver.solverStrategy

theorem Misspelled.workerKind_ne (misspelled : Misspelled cfg) :
    cfg.workerKind ≠ .batch := by
  rw [Config.workerKind, if_pos misspelled.routed]
  split <;> simp

/-- What a worker's step leaves behind in a misspelled run. -/
structure StarvedMove (moved : BatchWorker σ × Engine σ)
    (engine : Engine σ) : Prop where
  learned : ∀ {profileId state},
    moved.2.scheduler.swarmStates.lookup profileId = some state →
      state = .none
  fruitless : Fruitless moved.1.phase
  assignments_eq : moved.2.shared.assignments = engine.shared.assignments

section Worker

variable {worker : BatchWorker σ} {moved : BatchWorker σ × Engine σ}

private theorem Starved.learnedState
    (misspelled : Misspelled cfg) (starved : Starved engine)
    (tiers : List CapacityTier) :
    learnedState cfg runtime engine worker tiers = some .none := by
  obtain ⟨noBandit, noColony⟩ := unknown_of_misspelled misspelled.unknown
  unfold Engine.learnedState
  cases stored : engine.scheduler.swarmStates.lookup
      (batchProfileId worker.pending) with
  | none =>
      exact fromConfig_of_unknown runtime cfg.solver cfg.swarm _ _ noBandit
        noColony
  | some state => exact congrArg some (starved.learned stored)

private theorem Starved.storeLearned (starved : Starved engine)
    {profileId : QosProfileId} {state : OnlineSwarmState σ}
    (stored : (engine.storeLearned worker .none).scheduler.swarmStates.lookup
      profileId = some state) :
    state = .none := by
  by_cases here : profileId = batchProfileId worker.pending
  · rw [here, Engine.storeLearned, AList.lookup_insert] at stored
    cases stored
    rfl
  · rw [Engine.storeLearned, AList.lookup_insert_ne here] at stored
    exact starved.learned stored

private theorem starved_enter (starved : Starved engine)
    (taken : enter cfg engine worker = some moved) :
    StarvedMove moved engine := by
  unfold enter at taken
  split at taken
  · cases taken
    dsimp only
    split
    · exact
        { learned := fun stored => by
            exact absurd (stored.symm.trans (AList.lookup_empty _))
              (Option.some_ne_none _)
          fruitless := trivial
          assignments_eq := rfl }
    · exact ⟨starved.learned, trivial, rfl⟩
  · cases taken

private theorem starved_observe
    (misspelled : Misspelled cfg) (starved : Starved engine)
    (taken : observe cfg runtime engine worker = some moved) :
    StarvedMove moved engine := by
  cases observe_cases taken with
  | batch kind _ => exact absurd kind misspelled.workerKind_ne
  | serialized _ _ => exact ⟨starved.learned, trivial, rfl⟩
  | merge _ _ present =>
      rw [starved.learnedState misspelled] at present
      cases present
      exact ⟨starved.storeLearned, rfl, rfl⟩

/-- Without a state a solve proposes nothing. -/
private theorem starved_solve {oracle : SolveOracle}
    (misspelled : Misspelled cfg) (starved : Starved engine)
    (before : Fruitless worker.phase)
    (taken : solve cfg runtime oracle engine worker = some moved) :
    StarvedMove moved engine := by
  cases solve_cases taken with
  | batch was _ =>
      rw [was] at before
      exact before.elim
  | serialized _ present answered =>
      rw [starved.learnedState misspelled] at present
      cases present
      cases answered
      exact ⟨starved.storeLearned, trivial, rfl⟩
  | merge was answered =>
      rw [was] at before
      have missing : _ = OnlineSwarmState.none := before
      rw [missing] at answered
      cases answered
      exact ⟨starved.learned, trivial, rfl⟩

private theorem starved_workerMove {move : WorkerMove}
    (misspelled : Misspelled cfg) (starved : Starved engine)
    (before : Fruitless worker.phase)
    (taken : workerMove cfg runtime engine worker move = some moved) :
    StarvedMove moved engine := by
  cases move with
  | enter => exact starved_enter starved taken
  | observe =>
      have observed : observe cfg runtime engine worker = some moved := taken
      exact starved_observe misspelled starved observed
  | solve oracle =>
      have solved : solve cfg runtime oracle engine worker = some moved := taken
      exact starved_solve misspelled starved before solved
  | commit =>
      rw [workerMove, commit] at taken
      split at taken
      · rename_i was
        rw [was] at before
        exact before.elim
      · cases taken
  | requeue =>
      rw [workerMove, requeue] at taken
      split at taken
      · cases taken
        exact ⟨starved.learned, rfl, rfl⟩
      · cases taken
  | mergeLearned =>
      rw [workerMove, mergeLearned] at taken
      split at taken
      · rename_i was
        rw [was] at before
        exact before.elim
      · cases taken

end Worker

/-- Beside the workers, nothing is placed or learned. -/
private theorem Starved.aside (starved : Starved engine)
    {action : Action} (beside : action.isWork = false)
    (taken : step cfg runtime engine action = some next) :
    Starved next := by
  have same := sameLearned_of_step beside taken
  have unplaced := starved.unplaced
  refine ⟨?_, ?_, ?_⟩
  · rw [same.swarmStates_eq]
    exact starved.learned
  · intro workerId worker found
    rcases worker_of_step beside taken found with fresh | before
    · rw [fresh]
      trivial
    · exact starved.fruitless before
  · cases step_effect taken with
    | queued _ assignments_eq _ _ => exact assignments_eq.trans unplaced
    | corrected _ _ assignments_eq _ _ _ _ =>
        rw [assignments_eq, unplaced]
        rfl
    | selected _ _ _ => exact unplaced
    | unclaimed _ _ assignments_eq _ _ => exact assignments_eq.trans unplaced
    | claimed _ _ _ _ assignments_eq _ _ _ _ _ =>
        exact assignments_eq.trans unplaced
    | worked _ _ _ _ _ _ => cases beside
    | released _ _ _ shared_eq _ _ _ _ => rw [shared_eq, unplaced]

theorem Starved.step (misspelled : Misspelled cfg) (starved : Starved engine)
    {action : Action}
    (taken : Engine.step cfg runtime engine action = some next) :
    Starved next := by
  by_cases worked : action.isWork = true
  · cases action with
    | work workerId move =>
        obtain ⟨worker, found, moves⟩ := Option.bind_eq_some_iff.mp taken
        obtain ⟨moved, performed, rfl⟩ := Option.map_eq_some_iff.mp moves
        obtain ⟨_, _, _, reservations⟩ := workerMove_moved performed
        have after := starved_workerMove misspelled starved
          (starved.fruitless found) performed
        refine ⟨after.learned, fun {otherId other} there => ?_,
          after.assignments_eq.trans starved.unplaced⟩
        dsimp only at there
        rw [reservations.workers_eq] at there
        by_cases mover : otherId = workerId
        · rw [mover, AList.lookup_insert] at there
          cases there
          exact after.fruitless
        · rw [AList.lookup_insert_ne mover] at there
          exact starved.fruitless there
    | _ => cases worked
  · exact starved.aside (Bool.not_eq_true _ ▸ worked) taken

/-- Under a misspelled name no run ever places a request. -/
theorem unplaced_of_misspelled (misspelled : Misspelled cfg)
    {actions : List Action}
    (reached : Transition.run (Engine.step cfg runtime) (Engine.new cfg)
      actions = some engine) :
    engine.shared.assignments = ∅ :=
  (Transition.run_induction (fun _ state => Starved state) Starved.new
    (fun _ _ _ _ starved taken => starved.step misspelled taken)
    reached).unplaced

end Engine

end Carbonshift
