import Carbonshift.Engine.CommittedPrices
import Carbonshift.Engine.DispatchBalance
import Carbonshift.Engine.LearnedSteps
import Carbonshift.Engine.SingleWriter
import Carbonshift.Engine.SwarmBudget

/-!
# Serialized swarm solves

A serialized solve trains the learned state in place, before its assignments
are committed.  One worker at a time, and nobody else commits: the occupancy
that it has read is still the committed one when it commits.
-/

namespace Carbonshift

namespace Engine

variable {σ : Type} {cfg : Config} {runtime : NumericRuntime σ}
variable {engine next : Engine σ} {known : List Request}

/-- The counts are the committed occupancy. -/
def CurrentCounts (now : Dictionary ℕ Assignment)
    (slotCounts : Dictionary ℤ ℤ) : Prop :=
  ∀ slot, slotCounts.getD slot 0 = slotOccupancy now.values slot

theorem CurrentCounts.of_same {now after : Dictionary ℕ Assignment}
    {slotCounts : Dictionary ℤ ℤ}
    (current : CurrentCounts now slotCounts)
    (same : ∀ slot, slotOccupancy after.values slot =
      slotOccupancy now.values slot) :
    CurrentCounts after slotCounts := by
  intro slot
  rw [same slot]
  exact current slot

/-- A commit that expects the committed occupancy, in the slots it uses,
breaches no tier. -/
theorem accepted_of_current {shared : SharedState}
    {slotCounts : Dictionary ℤ ℤ} {assignments : List Assignment}
    (current : ∀ assignment ∈ assignments,
      slotCounts.getD assignment.scheduledSlot 0 =
        slotOccupancy shared.assignments.values assignment.scheduledSlot)
    (tiers : List CapacityTier) (forceCommit : Bool) (rollbacks : ℕ) :
    (shared.tryAddAssignmentsChecked assignments
      (expectedPerSlot slotCounts assignments) tiers forceCommit
      rollbacks).1 = .committed := by
  have within : ∀ entry ∈ (expectedPerSlot slotCounts assignments).toPairs,
      shared.breachesTier assignments tiers entry.1 entry.2 = false := by
    rintro ⟨slot, expected⟩ member
    have used := Dictionary.mem_of_lookup_ofPairs
      (Dictionary.mem_toPairs_iff.mp member)
    obtain ⟨placed, listed, same⟩ := List.mem_map.mp used
    cases same
    obtain ⟨assignment, inside, rfl⟩ :=
      List.mem_map.mp (List.mem_dedup.mp listed)
    rw [SharedState.breachesTier, Bool.and_eq_false_iff]
    refine Or.inl (decide_eq_false (not_lt.mpr ?_))
    rw [current assignment inside]
  unfold SharedState.tryAddAssignmentsChecked
  rw [List.any_eq_false.mpr fun entry member => by simp [within entry member],
    Bool.and_false]
  rfl

theorem CurrentCounts.accepted {shared : SharedState}
    {slotCounts : Dictionary ℤ ℤ}
    (current : CurrentCounts shared.assignments slotCounts)
    (assignments : List Assignment) (tiers : List CapacityTier)
    (forceCommit : Bool) (rollbacks : ℕ) :
    (shared.tryAddAssignmentsChecked assignments
      (expectedPerSlot slotCounts assignments) tiers forceCommit
      rollbacks).1 = .committed :=
  accepted_of_current (fun assignment _ => current assignment.scheduledSlot)
    tiers forceCommit rollbacks

theorem CurrentCounts.committed {proposal : SolverProposal σ}
    (current : CurrentCounts engine.shared.assignments
      proposal.baselineSlotCounts)
    (cfg : Config) (tiers : List CapacityTier) (rollbacks : ℕ) :
    (commitAttempt cfg engine tiers rollbacks proposal).1 = .committed :=
  current.accepted _ _ _ _

/-! ## The worker -/

/-- The phases of a serialized worker.  What it has read is current, and it
has never been rolled back. -/
inductive SerialPhase (now : Dictionary ℕ Assignment) :
    WorkerPhase σ → Prop where
  | claimed : SerialPhase now .claimed
  | ready (tiers : List CapacityTier) : SerialPhase now (.ready tiers 0)
  | observed (tiers : List CapacityTier) {ctx : SwarmContext}
      (current : CurrentCounts now ctx.slotCount) :
      SerialPhase now (.observed tiers 0 (.swarm ctx))
  | proposed (tiers : List CapacityTier) {proposal : SolverProposal σ}
      (current : CurrentCounts now proposal.baselineSlotCounts) :
      SerialPhase now (.proposed tiers 0 proposal)
  | rejected : SerialPhase now .rejected
  | finished (scheduled : Bool) : SerialPhase now (.finished scheduled)

theorem SerialPhase.of_same {now after : Dictionary ℕ Assignment}
    {phase : WorkerPhase σ} (serial : SerialPhase now phase)
    (same : ∀ slot, slotOccupancy after.values slot =
      slotOccupancy now.values slot) :
    SerialPhase after phase := by
  cases serial with
  | claimed => exact .claimed
  | ready tiers => exact .ready tiers
  | observed tiers current => exact .observed tiers (current.of_same same)
  | proposed tiers current => exact .proposed tiers (current.of_same same)
  | rejected => exact .rejected
  | finished scheduled => exact .finished scheduled

theorem SerialPhase.afterSolve {now : Dictionary ℕ Assignment}
    {proposal : SolverProposal σ} (tiers : List CapacityTier)
    (current : CurrentCounts now proposal.baselineSlotCounts) :
    SerialPhase now (Engine.afterSolve tiers 0 proposal) := by
  unfold Engine.afterSolve
  split
  · exact .rejected
  · exact .proposed tiers current

/-- A solve: what it proposes, and the learned state that it leaves. -/
structure Session (σ : Type) where
  profileId : QosProfileId
  assignments : List Assignment
  learned : OnlineSwarmState σ

/-- The session of a worker that solves. -/
def sessionOf (cfg : Config) (runtime : NumericRuntime σ)
    (engine : Engine σ) (worker : BatchWorker σ) : Option (Session σ) :=
  match worker.phase with
  | .observed tiers _ (.swarm ctx) =>
      (learnedState cfg runtime engine worker tiers).bind fun learned =>
        (learned.solveBatch runtime worker.pending worker.slot
          worker.carbonForecast ctx
          (cfg.workerPolicy worker.pending tiers)).map fun solved =>
            { profileId := batchProfileId worker.pending
              assignments := ownedBy (batchProfileId worker.pending) solved.1
              learned := solved.2 }
  | _ => none

/-- The assignments that the worker's commit is going to record. -/
def acceptedBy (cfg : Config) (engine : Engine σ) (worker : BatchWorker σ) :
    Option (List Assignment) :=
  match worker.phase with
  | .proposed tiers rollbacks proposal =>
      if (commitAttempt cfg engine tiers rollbacks proposal).1 =
          .committed then
        some proposal.assignments
      else
        none
  | _ => none

/-- What a serialized worker does in a step. -/
inductive SerialEffect (cfg : Config) (runtime : NumericRuntime σ)
    (engine : Engine σ) (worker : BatchWorker σ) :
    WorkerMove → WorkerPhase σ → Engine σ → Prop where
  | entered {tiers : List CapacityTier} {next : Engine σ}
      (was : worker.phase = .claimed)
      (shared_eq : next.shared = engine.shared)
      (learned : next.scheduler.swarmStates = engine.scheduler.swarmStates ∨
        next.scheduler.swarmStates = ∅) :
      SerialEffect cfg runtime engine worker .enter (.ready tiers 0) next
  | observed {tiers : List CapacityTier}
      (was : worker.phase = .ready tiers 0) :
      SerialEffect cfg runtime engine worker .observe
        (.observed tiers 0 (.swarm (swarmContext engine worker))) engine
  | solved {tiers : List CapacityTier} {ctx : SwarmContext}
      {session : Session σ} {oracle : SolveOracle}
      (was : worker.phase = .observed tiers 0 (.swarm ctx))
      (trains : sessionOf cfg runtime engine worker = some session)
      (own : session.profileId = batchProfileId worker.pending) :
      SerialEffect cfg runtime engine worker (.solve oracle)
        (afterSolve tiers 0
          { assignments := session.assignments
            baselineSlotCounts := ctx.slotCount
            context := none
            delta := .none })
        (engine.storeLearned worker session.learned)
  | committed {tiers : List CapacityTier} {proposal : SolverProposal σ}
      {next : Engine σ}
      (was : worker.phase = .proposed tiers 0 proposal)
      (accepts : acceptedBy cfg engine worker = some proposal.assignments)
      (scheduler_eq : next.scheduler = engine.scheduler) :
      SerialEffect cfg runtime engine worker .commit (.finished true) next
  | requeued {next : Engine σ}
      (was : worker.phase = .rejected)
      (assignments_eq : next.shared.assignments = engine.shared.assignments)
      (scheduler_eq : next.scheduler = engine.scheduler) :
      SerialEffect cfg runtime engine worker .requeue (.finished false) next

section Inversion

variable {worker : BatchWorker σ} {moved : BatchWorker σ × Engine σ}
variable {now : Dictionary ℕ Assignment}

private theorem enter_serial
    (taken : enter cfg engine worker = some moved) :
    ∃ phase, moved.1 = worker.withPhase phase ∧
      SerialEffect cfg runtime engine worker .enter phase moved.2 := by
  unfold enter at taken
  split at taken
  · rename_i was
    cases taken
    refine ⟨_, rfl, .entered was ?_ ?_⟩
    · dsimp only
      split <;> rfl
    · dsimp only
      split
      · exact Or.inr rfl
      · exact Or.inl rfl
  · cases taken

private theorem observe_serial
    (kind : cfg.workerKind = .swarmSerialized)
    (serial : SerialPhase now worker.phase)
    (taken : observe cfg runtime engine worker = some moved) :
    ∃ phase, moved.1 = worker.withPhase phase ∧
      SerialEffect cfg runtime engine worker .observe phase moved.2 := by
  cases observe_cases taken with
  | serialized _ was =>
      have whole := was
      rw [was] at serial
      cases serial
      exact ⟨_, rfl, .observed whole⟩
  | batch other _ =>
      rw [kind] at other
      cases other
  | merge other _ _ =>
      rw [kind] at other
      cases other

private theorem solve_serial {oracle : SolveOracle}
    (serial : SerialPhase now worker.phase)
    (taken : solve cfg runtime oracle engine worker = some moved) :
    ∃ phase, moved.1 = worker.withPhase phase ∧
      SerialEffect cfg runtime engine worker (.solve oracle) phase moved.2 := by
  cases solve_cases taken with
  | @serialized _ _ _ _ solved was present answered =>
      have trains : sessionOf cfg runtime engine worker =
          some
            { profileId := batchProfileId worker.pending
              assignments := ownedBy (batchProfileId worker.pending) solved.1
              learned := solved.2 } := by
        rw [sessionOf, was]
        dsimp only
        rw [present, Option.bind_some, answered, Option.map_some]
      have whole := was
      rw [was] at serial
      cases serial
      exact ⟨_, rfl, .solved whole trains rfl⟩
  | batch was _ =>
      rw [was] at serial
      cases serial
  | merge was _ =>
      rw [was] at serial
      cases serial

private theorem commit_serial
    (kind : cfg.workerKind = .swarmSerialized)
    (serial : SerialPhase engine.shared.assignments worker.phase)
    (taken : commit cfg engine worker = some moved) :
    ∃ phase, moved.1 = worker.withPhase phase ∧
      SerialEffect cfg runtime engine worker .commit phase moved.2 := by
  unfold commit at taken
  split at taken
  · rename_i tiers rollbacks proposal was
    have whole := was
    rw [was] at serial
    cases serial with
    | proposed _ current =>
        have accepted := current.committed cfg tiers 0
        split at taken
        · rename_i attempt
          rw [attempt] at accepted
          cases accepted
        · cases taken
          refine ⟨_, ?_, .committed whole ?_ rfl⟩
          · dsimp only
            rw [afterCommit, kind, if_neg (by decide)]
          · rw [acceptedBy, whole]
            exact if_pos accepted
  · cases taken

/-- Inversion of the steps of a serialized worker. -/
theorem workerMove_serial {move : WorkerMove}
    (kind : cfg.workerKind = .swarmSerialized)
    (serial : SerialPhase engine.shared.assignments worker.phase)
    (taken : workerMove cfg runtime engine worker move = some moved) :
    ∃ phase, moved.1 = worker.withPhase phase ∧
      SerialEffect cfg runtime engine worker move phase moved.2 := by
  cases move with
  | enter => exact enter_serial taken
  | observe => exact observe_serial kind serial taken
  | solve oracle => exact solve_serial serial taken
  | commit => exact commit_serial kind serial taken
  | requeue =>
      rw [workerMove, requeue] at taken
      split at taken
      · rename_i was
        cases taken
        exact ⟨_, rfl, .requeued was rfl rfl⟩
      · cases taken
  | mergeLearned =>
      rw [workerMove, mergeLearned] at taken
      split at taken
      · rename_i was
        rw [was] at serial
        cases serial
      · cases taken

end Inversion

/-- A serialized worker reaches a phase with current counts. -/
theorem SerialEffect.serial {worker : BatchWorker σ} {move : WorkerMove}
    {phase : WorkerPhase σ}
    (serial : SerialPhase engine.shared.assignments worker.phase)
    (effect : SerialEffect cfg runtime engine worker move phase next) :
    SerialPhase next.shared.assignments phase := by
  cases effect with
  | entered was shared_eq learned => exact .ready _
  | observed was => exact .observed _ fun slot => getD_countSlots _ slot
  | solved was trains own =>
      rw [was] at serial
      cases serial with
      | observed _ current => exact .afterSolve _ current
  | committed was accepts scheduler_eq => exact .finished true
  | requeued was assignments_eq scheduler_eq => exact .finished false

/-! ## Training -/

/-- The sessions so far, and what was committed. -/
structure Training (σ : Type) where
  sessions : List (Session σ)
  committed : List (List Assignment)

namespace Training

def untrained : Training σ := ⟨[], []⟩

/-- Record the sessions and the commits. -/
def record (cfg : Config) (runtime : NumericRuntime σ) (engine : Engine σ) :
    Action → Training σ → Training σ
  | .work workerId (.solve _), training =>
      { training with
        sessions := training.sessions ++
          ((engine.workers.lookup workerId).bind
            (sessionOf cfg runtime engine)).toList }
  | .work workerId .commit, training =>
      { training with
        committed := training.committed ++
          ((engine.workers.lookup workerId).bind
            (acceptedBy cfg engine)).toList }
  | _, training => training

end Training

/-- A step of the scheduler that is recorded. -/
def trainedStep (cfg : Config) (runtime : NumericRuntime σ) :
    Engine σ × Training σ → Action → Option (Engine σ × Training σ) :=
  Transition.observed (step cfg runtime) (Training.record cfg runtime)

/-- The assignments that a worker is about to commit. -/
def proposalsOf : WorkerPhase σ → List (List Assignment)
  | .proposed _ _ proposal => [proposal.assignments]
  | _ => []

def proposals (engine : Engine σ) : List (List Assignment) :=
  engine.workers.values.flatMap fun worker => proposalsOf worker.phase

/-- Every learned state was left by a session, and what a session has placed
is committed or about to be. -/
structure Trains (engine : Engine σ) (training : Training σ) : Prop where
  serial : ∀ {workerId worker},
    engine.workers.lookup workerId = some worker →
      SerialPhase engine.shared.assignments worker.phase
  learned : ∀ {profileId state},
    engine.scheduler.swarmStates.lookup profileId = some state →
      ∃ session ∈ training.sessions,
        session.profileId = profileId ∧ session.learned = state
  placed :
    (training.sessions.map Session.assignments).filter
        (fun assignments => !assignments.isEmpty) =
      training.committed ++ engine.proposals

/-! ## One worker -/

/-- The only worker there is. -/
theorem values_of_solo
    (solo : engine.workers.values.length ≤ 1) {workerId : ℕ}
    {worker : BatchWorker σ}
    (found : engine.workers.lookup workerId = some worker)
    (moved : BatchWorker σ) :
    engine.workers.values = [worker] ∧
      Dictionary.values (engine.workers.insert workerId moved) = [moved] := by
  obtain ⟨others, before, after⟩ :=
    Dictionary.values_insert_of_lookup found moved
  have sizes := before.length_eq
  rw [List.length_cons] at sizes
  have nobody : others = [] := List.length_eq_zero_iff.mp (by omega)
  rw [nobody] at before after
  exact ⟨List.perm_singleton.mp before, after⟩

namespace Trains

variable {training : Training σ}

theorem new : Trains (Engine.new cfg : Engine σ) .untrained := by
  refine ⟨fun {workerId worker} found => ?_, fun {profileId state} found => ?_,
    rfl⟩
  · have nobody : (none : Option (BatchWorker σ)) = some worker := found
    cases nobody
  · have nothing : (none : Option (OnlineSwarmState σ)) = some state := found
    cases nothing

/-- Beside the workers no proposal is made or dropped. -/
private theorem proposals_aside
    (solo : engine.workers.values.length ≤ 1)
    (reserved : Reserved cfg known engine) {action : Action}
    (beside : action.isWork = false)
    (effect : StepEffect cfg runtime engine action next) :
    next.proposals = engine.proposals := by
  have unchanged : next.workers = engine.workers →
      next.proposals = engine.proposals := by
    intro workers_eq
    rw [proposals, proposals, workers_eq]
  cases effect with
  | queued _ _ _ same => exact unchanged same.workers_eq
  | corrected _ _ _ _ _ _ same => exact unchanged same.workers_eq
  | selected _ _ _ => exact unchanged rfl
  | unclaimed _ _ _ _ same => exact unchanged same.workers_eq
  | claimed _ _ _ _ _ _ workers_eq _ _ _ =>
      have fresh : engine.spawned ∉ engine.workers := by
        intro present
        obtain ⟨worker, found⟩ := Dictionary.exists_lookup_of_mem present
        exact lt_irrefl _ (reserved.spawned found)
      rw [proposals, workers_eq, Dictionary.values_insert_of_absent fresh]
      rfl
  | worked _ _ _ _ _ _ => cases beside
  | @released workerId worker scheduled _ found was _ _ workers_eq _ _ _ =>
      have alone := (values_of_solo solo found worker).1
      have left : Dictionary.values (engine.workers.erase workerId) = [] := by
        have sizes := (Dictionary.values_erase_of_lookup found).length_eq
        rw [alone, List.length_cons] at sizes
        exact List.length_eq_zero_iff.mp (by simpa using sizes.symm)
      rw [proposals, proposals, workers_eq, left, alone, List.flatMap_nil,
        List.flatMap_singleton, was]
      rfl

/-- Beside the workers nothing is trained or committed. -/
private theorem aside
    (trains : Trains engine training)
    (solo : engine.workers.values.length ≤ 1)
    (reserved : Reserved cfg known engine) {action : Action}
    (beside : action.isWork = false)
    (taken : Engine.step cfg runtime engine action = some next) :
    Trains next training := by
  have quiet : action.isCommit = false := by
    cases action <;> first | rfl | cases beside
  have same := slotOccupancy_of_step quiet taken
  have learned := sameLearned_of_step beside taken
  have proposals_eq := proposals_aside solo reserved beside (step_effect taken)
  refine ⟨fun found => ?_, ?_, ?_⟩
  · rcases worker_of_step beside taken found with fresh | before
    · rw [fresh]
      exact .claimed
    · exact (trains.serial before).of_same same
  · rw [learned.swarmStates_eq]
    exact trains.learned
  · rw [proposals_eq]
    exact trains.placed

/-- What a step of the worker adds to the record. -/
private theorem record_of_effect
    {workerId : ℕ} {worker : BatchWorker σ} {move : WorkerMove}
    {phase : WorkerPhase σ}
    (found : engine.workers.lookup workerId = some worker)
    (effect : SerialEffect cfg runtime engine worker move phase next)
    (learned : ∀ {profileId state},
      engine.scheduler.swarmStates.lookup profileId = some state →
        ∃ session ∈ training.sessions,
          session.profileId = profileId ∧ session.learned = state)
    (placed :
      (training.sessions.map Session.assignments).filter
          (fun assignments => !assignments.isEmpty) =
        training.committed ++ proposalsOf worker.phase) :
    (∀ {profileId state},
      next.scheduler.swarmStates.lookup profileId = some state →
        ∃ session ∈ (Training.record cfg runtime engine
            (.work workerId move) training).sessions,
          session.profileId = profileId ∧ session.learned = state) ∧
      ((Training.record cfg runtime engine
          (.work workerId move) training).sessions.map Session.assignments).filter
            (fun assignments => !assignments.isEmpty) =
        (Training.record cfg runtime engine
          (.work workerId move) training).committed ++ proposalsOf phase := by
  cases effect with
  | entered was _ kept =>
      rw [was] at placed
      refine ⟨fun {profileId state} stored => ?_, placed⟩
      rcases kept with same | cleared
      · rw [same] at stored
        exact learned stored
      · rw [cleared, AList.lookup_empty] at stored
        cases stored
  | observed was =>
      rw [was] at placed
      exact ⟨learned, placed⟩
  | @solved tiers ctx session oracle was trains own =>
      rw [was] at placed
      have recorded : Training.record cfg runtime engine
          (.work workerId (.solve oracle)) training =
            { training with sessions := training.sessions ++ [session] } := by
        rw [Training.record, found, Option.bind_some, trains,
          Option.toList_some]
      rw [recorded]
      refine ⟨fun {profileId state} stored => ?_, ?_⟩
      · by_cases here : profileId = batchProfileId worker.pending
        · rw [here] at stored
          rw [storeLearned, AList.lookup_insert] at stored
          cases stored
          exact ⟨session, List.mem_concat_self, own.trans here.symm, rfl⟩
        · rw [storeLearned, AList.lookup_insert_ne here] at stored
          obtain ⟨earlier, member, found⟩ := learned stored
          exact ⟨earlier, List.mem_append_left _ member, found⟩
      · rw [List.map_append, List.filter_append, placed, List.map_singleton]
        rw [Engine.afterSolve]
        cases assignments : session.assignments with
        | nil => simp [proposalsOf]
        | cons assignment rest => simp [proposalsOf]
  | @committed tiers proposal _ was accepts scheduler_eq =>
      rw [was] at placed
      have recorded : Training.record cfg runtime engine
          (.work workerId .commit) training =
            { training with
              committed := training.committed ++ [proposal.assignments] } := by
        rw [Training.record, found, Option.bind_some, accepts,
          Option.toList_some]
      rw [recorded, scheduler_eq]
      refine ⟨learned, ?_⟩
      exact placed.trans (List.append_nil _).symm
  | requeued was _ scheduler_eq =>
      rw [was] at placed
      rw [scheduler_eq]
      exact ⟨learned, placed⟩

/-- A step of the only worker. -/
private theorem work
    (kind : cfg.workerKind = .swarmSerialized)
    (trains : Trains engine training)
    (solo : engine.workers.values.length ≤ 1)
    {workerId : ℕ} {move : WorkerMove}
    (taken : Engine.step cfg runtime engine (.work workerId move) =
      some next) :
    Trains next
      (Training.record cfg runtime engine (.work workerId move) training) := by
  obtain ⟨worker, found, moves⟩ := Option.bind_eq_some_iff.mp taken
  obtain ⟨moved, performed, rfl⟩ := Option.map_eq_some_iff.mp moves
  obtain ⟨_, _, _, reservations⟩ := workerMove_moved performed
  have serial := trains.serial found
  obtain ⟨phase, worker_eq, effect⟩ := workerMove_serial kind serial performed
  have serialAfter := effect.serial serial
  obtain ⟨alone, after⟩ := values_of_solo solo found moved.1
  rw [← reservations.workers_eq] at after
  have placed := trains.placed
  rw [proposals, alone, List.flatMap_singleton] at placed
  obtain ⟨learned, placed⟩ := record_of_effect found effect trains.learned placed
  refine ⟨fun {otherId other} there => ?_, learned, ?_⟩
  · have member : other ∈
        Dictionary.values (moved.2.workers.insert workerId moved.1) :=
      Dictionary.mem_values_iff.mpr ⟨otherId, there⟩
    rw [after, List.mem_singleton] at member
    rw [member, worker_eq]
    exact serialAfter
  · rw [proposals, after, List.flatMap_singleton, worker_eq]
    exact placed

/-- Every step keeps training and commits together. -/
theorem step
    (kind : cfg.workerKind = .swarmSerialized)
    (trains : Trains engine training)
    (balanced : Balanced cfg engine) (reserved : Reserved cfg known engine)
    {action : Action}
    (taken : Engine.step cfg runtime engine action = some next) :
    Trains next (Training.record cfg runtime engine action training) := by
  have solo : engine.workers.values.length ≤ 1 := by
    have sizes := balanced.served.length_eq
    have limit := balanced.limit
    rw [servedProfiles, List.length_map] at sizes
    rw [Config.maxWorkers, if_pos kind] at limit
    have counted := balanced.activeWorkers_eq
    omega
  by_cases beside : action.isWork = false
  · have untouched : Training.record cfg runtime engine action training = training := by
      cases action <;> first | rfl | cases beside
    rw [untouched]
    exact trains.aside solo reserved beside taken
  · cases action with
    | work workerId move => exact trains.work kind solo taken
    | _ => exact absurd rfl beside

end Trains

/-- A serialized swarm trains on what it commits. -/
structure NeverRollsBack (cfg : Config) (engine : Engine σ)
    (training : Training σ) : Prop where
  /-- Every commit attempt succeeds, and it is the first. -/
  firstTry : ∀ {workerId worker tiers rollbacks proposal},
    engine.workers.lookup workerId = some worker →
    worker.phase = .proposed tiers rollbacks proposal →
      rollbacks = 0 ∧
        (commitAttempt cfg engine tiers rollbacks proposal).1 = .committed
  /-- Every learned state was left by a session for its profile. -/
  learned : ∀ {profileId state},
    engine.scheduler.swarmStates.lookup profileId = some state →
      ∃ session ∈ training.sessions,
        session.profileId = profileId ∧ session.learned = state
  /-- What the sessions have placed is committed, in their order, up to what
  is about to be. -/
  placed :
    (training.sessions.map Session.assignments).filter
        (fun assignments => !assignments.isEmpty) =
      training.committed ++ engine.proposals

/-- A serialized swarm never rolls back, whatever else goes on. -/
theorem serialized_swarm_never_rolls_back
    (cfg : Config) (runtime : NumericRuntime σ) (actions : List Action)
    (engine : Engine σ) (training : Training σ)
    (kind : cfg.workerKind = .swarmSerialized)
    (reached : Transition.run (trainedStep cfg runtime)
      (new cfg, .untrained) actions = some (engine, training)) :
    NeverRollsBack cfg engine training := by
  have trains : Trains engine training := by
    refine (Transition.run_induction
      (fun history (state : Engine σ × Training σ) =>
        (Reserved cfg (receivedBy history) state.1 ∧
          Balanced cfg state.1) ∧ Trains state.1 state.2)
      ⟨⟨.new, .new⟩, .new⟩ ?_ reached).2
    rintro history ⟨state, seen⟩ action ⟨next, recorded⟩
      ⟨⟨reserved, balanced⟩, trains⟩ taken
    obtain ⟨stepped, same⟩ := Transition.observed_eq_some_iff.mp taken
    dsimp only at stepped same
    subst same
    rw [receivedBy_concat]
    exact ⟨⟨reserved.step (step_effect stepped),
      balanced.step reserved (dispatch_effect stepped)⟩,
      trains.step kind balanced reserved stepped⟩
  refine ⟨fun {workerId worker tiers rollbacks proposal} found was => ?_,
    trains.learned, trains.placed⟩
  have serial := trains.serial found
  rw [was] at serial
  cases serial with
  | proposed _ current => exact ⟨rfl, current.committed cfg tiers 0⟩

/-- The bandit has solved its batch, and a later request waits. -/
def trainedRun : List Action :=
  [.addRequests [.new 0 1 0 3, .new 0 2 0 3],
    .selectProfile 0 true (List.replicate 24 1), .claimBatch, .work 0 .enter,
    .work 0 .observe, .addRequest (.new 0 3 0 3), .work 0 (.solve .steady)]

theorem trainedRun_never_rolls_back :
    ∃ engine training,
      Transition.run (trainedStep banditConfig .least)
          (new banditConfig, .untrained) trainedRun =
        some (engine, training) ∧
        engine.proposals.length = 1 ∧
        NeverRollsBack banditConfig engine training := by
  have computed :
      (Transition.run (trainedStep banditConfig .least)
        (new banditConfig, .untrained) trainedRun).map
          (fun state => state.1.proposals.length) = some 1 := by
    decide +kernel
  obtain ⟨⟨engine, training⟩, reached, proposed⟩ :=
    Option.map_eq_some_iff.mp computed
  exact ⟨engine, training, reached, proposed,
    serialized_swarm_never_rolls_back banditConfig .least trainedRun engine
      training (by decide) reached⟩

end Engine

end Carbonshift
