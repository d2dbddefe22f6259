import Carbonshift.Engine.MainLoop

/-!
# The queue and the reservations

A claim takes the first requests of a profile and reserves the profile and a
worker slot.  This is the inversion lemma for the invariants that count
reservations or follow the order of the queue.
-/

namespace Carbonshift

/-- A profile's requests, in their order. -/
def profileRequests (profileId : QosProfileId) (requests : List Request) :
    List Request :=
  requests.filter fun request => decide (request.qosProfileId = profileId)

section ProfileRequests

variable {profileId : QosProfileId}

@[simp]
theorem profileRequests_append (front back : List Request) :
    profileRequests profileId (front ++ back) =
      profileRequests profileId front ++ profileRequests profileId back :=
  List.filter_append front back

theorem profileRequests_cons_own {request : Request}
    (own : request.qosProfileId = profileId) (rest : List Request) :
    profileRequests profileId (request :: rest) =
      request :: profileRequests profileId rest :=
  List.filter_cons_of_pos (decide_eq_true own)

theorem profileRequests_cons_foreign {request : Request}
    (foreign : request.qosProfileId ≠ profileId) (rest : List Request) :
    profileRequests profileId (request :: rest) =
      profileRequests profileId rest :=
  List.filter_cons_of_neg (by rwa [decide_eq_true_eq])

/-- A batch of the profile is its own subsequence. -/
theorem profileRequests_of_own {requests : List Request}
    (own : ∀ request ∈ requests, request.qosProfileId = profileId) :
    profileRequests profileId requests = requests :=
  List.filter_eq_self.mpr fun request member =>
    decide_eq_true (own request member)

/-- A batch of another profile has nothing of this one. -/
theorem profileRequests_of_foreign {other : QosProfileId}
    {requests : List Request} (different : profileId ≠ other)
    (own : ∀ request ∈ requests, request.qosProfileId = other) :
    profileRequests profileId requests = [] := by
  refine List.filter_eq_nil_iff.mpr fun request member matching => ?_
  rw [decide_eq_true_eq, own request member] at matching
  exact different matching.symm

end ProfileRequests

namespace SharedState

/-- A claim takes a prefix of the profile's requests and keeps the order of
the rest. -/
theorem profileRequests_splitClaim
    (profileId : QosProfileId) (count : ℕ) (requests : List Request) :
    (splitClaim profileId count requests).1 ++
        profileRequests profileId (splitClaim profileId count requests).2 =
      profileRequests profileId requests := by
  induction requests generalizing count with
  | nil => cases count <;> rfl
  | cons request rest inductionHypothesis =>
      cases count with
      | zero => rfl
      | succ count =>
          rw [splitClaim]
          split
          · rename_i own
            rw [profileRequests_cons_own own]
            exact congrArg (request :: ·) (inductionHypothesis count)
          · rename_i foreign
            rw [profileRequests_cons_foreign foreign]
            dsimp only
            rw [profileRequests_cons_foreign foreign]
            exact inductionHypothesis (count + 1)

/-- A claim leaves the other profiles' requests where they are. -/
theorem profileRequests_splitClaim_of_ne
    {profileId other : QosProfileId} (different : other ≠ profileId)
    (count : ℕ) (requests : List Request) :
    profileRequests other (splitClaim profileId count requests).2 =
      profileRequests other requests := by
  induction requests generalizing count with
  | nil => cases count <;> rfl
  | cons request rest inductionHypothesis =>
      cases count with
      | zero => rfl
      | succ count =>
          rw [splitClaim]
          split
          · rename_i own
            rw [profileRequests_cons_foreign (by rw [own]; exact different.symm)]
            exact inductionHypothesis count
          · have kept := inductionHypothesis (count + 1)
            dsimp only
            by_cases mine : request.qosProfileId = other
            · rw [profileRequests_cons_own mine, profileRequests_cons_own mine,
                kept]
            · rw [profileRequests_cons_foreign mine,
                profileRequests_cons_foreign mine, kept]

/-- A claim that takes nothing leaves the queue alone. -/
theorem splitClaim_eq_of_empty
    {profileId : QosProfileId} {count : ℕ} {requests : List Request}
    (empty : (splitClaim profileId count requests).1 = []) :
    (splitClaim profileId count requests).2 = requests := by
  induction requests generalizing count with
  | nil => cases count <;> rfl
  | cons request rest inductionHypothesis =>
      cases count with
      | zero => rfl
      | succ count =>
          rw [splitClaim] at empty ⊢
          split at empty
          · cases empty
          · rename_i foreign
            rw [if_neg foreign]
            exact congrArg (request :: ·) (inductionHypothesis empty)

end SharedState

namespace Engine

variable {σ : Type} {cfg : Config} {runtime : NumericRuntime σ}

/-- The counters and the picked profile agree. -/
structure SameCounters (before after : Engine σ) : Prop where
  activeWorkers_eq :
    after.scheduler.activeWorkers = before.scheduler.activeWorkers
  activeProfiles_eq :
    after.scheduler.activeProfiles = before.scheduler.activeProfiles
  selecting_eq : after.selecting = before.selecting

/-- What a step does to the queue, the batches and the reservations. -/
inductive DispatchEffect (cfg : Config) (engine : Engine σ) :
    Action → Engine σ → Prop where
  | queued {action : Action} {next : Engine σ}
      (pending_eq :
        next.shared.pending = engine.shared.pending ++ action.received)
      (workers_eq : next.workers = engine.workers)
      (same : SameCounters engine next) :
      DispatchEffect cfg engine action next
  | selected {elapsedSlots : ℕ} {flush : Bool} {carbonForecast : List ℚ}
      {selection : ProfileSelection}
      (idle : engine.scheduler.activeWorkers < cfg.maxWorkers)
      (minPending_eq :
        selection.minPending = if flush then 1 else cfg.solver.batchSize)
      (enough : selection.minPending ≤ selection.profilePendingCount)
      (counted :
        selection.profilePendingCount =
          (profileRequests selection.profileId engine.shared.pending).length) :
      DispatchEffect cfg engine
        (.selectProfile elapsedSlots flush carbonForecast)
        { engine with selecting := some selection }
  | unclaimed {selection : ProfileSelection} {claim : List Request × List Request}
      {next : Engine σ}
      (picked : engine.selecting = some selection)
      (claim_eq :
        claim =
          SharedState.splitClaim selection.profileId
            (min selection.profilePendingCount cfg.solver.batchSize)
            engine.shared.pending)
      (tooFew : claim.1 = [] ∨ claim.1.length < selection.minPending)
      (pending_eq : next.shared.pending = claim.1 ++ claim.2)
      (workers_eq : next.workers = engine.workers)
      (same : SameCounters { engine with selecting := none } next) :
      DispatchEffect cfg engine .claimBatch next
  | claimed {selection : ProfileSelection} {claim : List Request × List Request}
      {next : Engine σ}
      (picked : engine.selecting = some selection)
      (claim_eq :
        claim =
          SharedState.splitClaim selection.profileId
            (min selection.profilePendingCount cfg.solver.batchSize)
            engine.shared.pending)
      (someRequest : claim.1 ≠ [])
      (pending_eq : next.shared.pending = claim.2)
      (workers_eq :
        next.workers =
          engine.workers.insert engine.spawned (spawnWorker selection claim.1))
      (activeWorkers_eq :
        next.scheduler.activeWorkers = engine.scheduler.activeWorkers + 1)
      (activeProfiles_eq :
        next.scheduler.activeProfiles =
          engine.scheduler.activeProfiles.insert selection.profileId)
      (selecting_eq : next.selecting = none) :
      DispatchEffect cfg engine .claimBatch next
  | moved {workerId : ℕ} {move : WorkerMove} {worker : BatchWorker σ}
      {phase : WorkerPhase σ} {next : Engine σ}
      (found : engine.workers.lookup workerId = some worker)
      (owns : phase.ownsBatch = true → worker.phase.ownsBatch = true)
      (pending_eq : next.shared.pending = engine.shared.pending)
      (workers_eq :
        next.workers = engine.workers.insert workerId (worker.withPhase phase))
      (same : SameCounters engine next) :
      DispatchEffect cfg engine (.work workerId move) next
  | requeued {workerId : ℕ} {move : WorkerMove} {worker : BatchWorker σ}
      {next : Engine σ}
      (found : engine.workers.lookup workerId = some worker)
      (was : worker.phase = .rejected)
      (pending_eq :
        next.shared.pending = worker.pending ++ engine.shared.pending)
      (workers_eq :
        next.workers =
          engine.workers.insert workerId (worker.withPhase (.finished false)))
      (same : SameCounters engine next) :
      DispatchEffect cfg engine (.work workerId move) next
  | released {workerId : ℕ} {worker : BatchWorker σ} {next : Engine σ}
      (found : engine.workers.lookup workerId = some worker)
      (free : engine.selecting = none)
      (pending_eq : next.shared.pending = engine.shared.pending)
      (workers_eq : next.workers = engine.workers.erase workerId)
      (activeWorkers_eq :
        next.scheduler.activeWorkers = engine.scheduler.activeWorkers - 1)
      (activeProfiles_eq :
        next.scheduler.activeProfiles =
          engine.scheduler.activeProfiles.erase worker.profileId)
      (selecting_eq : next.selecting = none) :
      DispatchEffect cfg engine (.release workerId) next

section Inversion

variable {engine next : Engine σ} {action : Action}

/-- A worker requeues its batch, or it leaves the queue alone and takes no
batch back. -/
private theorem WorkerEffect.queue
    {worker : BatchWorker σ} {phase : WorkerPhase σ} {shared : SharedState}
    (effect : WorkerEffect cfg runtime engine worker phase shared) :
    (worker.phase = .rejected ∧ phase = .finished false ∧
        shared.pending = worker.pending ++ engine.shared.pending) ∨
      ((phase.ownsBatch = true → worker.phase.ownsBatch = true) ∧
        shared.pending = engine.shared.pending) := by
  cases effect with
  | requeued was => exact Or.inl ⟨was, rfl, rfl⟩
  | entered was => exact Or.inr ⟨fun _ => by rw [was]; rfl, rfl⟩
  | observedBatch _ was => exact Or.inr ⟨fun _ => by rw [was]; rfl, rfl⟩
  | observedSwarm _ was _ => exact Or.inr ⟨fun _ => by rw [was]; rfl, rfl⟩
  | solvedBatch was _ => exact Or.inr ⟨fun _ => by rw [was]; rfl, rfl⟩
  | solvedSwarm was _ _ => exact Or.inr ⟨fun _ => by rw [was]; rfl, rfl⟩
  | rolledBack was same =>
      exact Or.inr ⟨fun _ => by rw [was]; rfl, same.pending_eq⟩
  | committed was _ same =>
      refine Or.inr ⟨fun _ => by rw [was]; rfl, ?_⟩
      rw [same.pending_eq, SharedState.addAssignments_pending]
  | merged _ => exact Or.inr ⟨nofun, rfl⟩

private theorem selectProfile_dispatchEffect
    {elapsedSlots : ℕ} {flush : Bool} {carbonForecast : List ℚ}
    (taken : selectProfile cfg elapsedSlots flush carbonForecast engine =
      some next) :
    DispatchEffect cfg engine
      (.selectProfile elapsedSlots flush carbonForecast) next := by
  have idle : engine.scheduler.activeWorkers < cfg.maxWorkers := by
    by_contra full
    rw [selectProfile, if_pos (by simp [Nat.not_lt.mp full])] at taken
    cases taken
  obtain ⟨chosen, picked, rfl⟩ := selectProfile_cases taken
  obtain ⟨queued, allowed⟩ := nextProfileToDispatch_mem picked
  simp only [dispatchable, Bool.and_eq_true, decide_eq_true_eq] at allowed
  refine .selected idle rfl allowed.1.1 ?_
  rw [profileRequests, ← List.countP_eq_length_filter]
  exact (mem_pendingProfileCounts_iff.mp queued).2

private theorem claimBatch_dispatchEffect
    (taken : claimBatch cfg engine = some next) :
    DispatchEffect cfg engine .claimBatch next := by
  obtain ⟨selection, picked, claimed⟩ := Option.map_eq_some_iff.mp taken
  dsimp only [SharedState.claimPendingRequestsForProfile] at claimed
  split at claimed
  · rename_i empty
    have nothing := List.isEmpty_iff.mp empty
    subst claimed
    refine .unclaimed picked rfl (Or.inl nothing) ?_ rfl ⟨rfl, rfl, rfl⟩
    rw [nothing, List.nil_append]
  · rename_i nonempty
    split at claimed
    · rename_i short
      subst claimed
      exact .unclaimed picked rfl (Or.inr short) rfl rfl ⟨rfl, rfl, rfl⟩
    · subst claimed
      exact .claimed picked rfl
        (fun empty => nonempty (List.isEmpty_iff.mpr empty)) rfl rfl rfl rfl
        rfl

private theorem work_dispatchEffect {workerId : ℕ} {move : WorkerMove}
    (taken : step cfg runtime engine (.work workerId move) = some next) :
    DispatchEffect cfg engine (.work workerId move) next := by
  obtain ⟨worker, found, moves⟩ := Option.bind_eq_some_iff.mp taken
  obtain ⟨moved, performed, rfl⟩ := Option.map_eq_some_iff.mp moves
  obtain ⟨phase, worker_eq, effect, reservations⟩ := workerMove_moved performed
  have same : SameCounters engine
      { moved.2 with workers := moved.2.workers.insert workerId moved.1 } :=
    ⟨(sameDispatch_of_move performed).1, reservations.activeProfiles_eq,
      reservations.selecting_eq⟩
  have workers_eq : moved.2.workers.insert workerId moved.1 =
      engine.workers.insert workerId (worker.withPhase phase) := by
    rw [worker_eq, reservations.workers_eq]
  rcases effect.queue with ⟨was, rfl, pending⟩ | ⟨owns, pending⟩
  · exact .requeued found was pending workers_eq same
  · exact .moved found owns pending workers_eq same

/-- Inversion of the step function, for queue and reservations. -/
theorem dispatch_effect
    (taken : step cfg runtime engine action = some next) :
    DispatchEffect cfg engine action next := by
  cases action with
  | addRequest request =>
      cases taken
      exact .queued rfl rfl ⟨rfl, rfl, rfl⟩
  | addRequests requests =>
      cases taken
      exact .queued rfl rfl ⟨rfl, rfl, rfl⟩
  | setCurrentSlot slot =>
      cases taken
      exact .queued (List.append_nil _).symm rfl ⟨rfl, rfl, rfl⟩
  | initializeCapacityTiers tiers =>
      rw [step] at taken
      split at taken
      · cases taken
      · cases taken
        exact .queued
          ((SharedState.sameWork_initializeCapacityTiers tiers).pending_eq.trans
            (List.append_nil _).symm) rfl ⟨rfl, rfl, rfl⟩
  | replaceCapacityTiers tiers =>
      rw [step] at taken
      split at taken
      · cases taken
      · cases taken
        exact .queued (List.append_nil _).symm rfl ⟨rfl, rfl, rfl⟩
  | correctAssignmentError requestId actualError =>
      cases taken
      exact .queued
        ((SharedState.correctAssignmentError_pending requestId
          actualError).trans (List.append_nil _).symm) rfl ⟨rfl, rfl, rfl⟩
  | correctAssignmentCarbonCost requestId actualCarbonCost =>
      cases taken
      exact .queued
        ((SharedState.correctAssignmentCarbonCost_pending requestId
          actualCarbonCost).trans (List.append_nil _).symm) rfl
        ⟨rfl, rfl, rfl⟩
  | selectProfile elapsedSlots flush carbonForecast =>
      exact selectProfile_dispatchEffect taken
  | claimBatch => exact claimBatch_dispatchEffect taken
  | work workerId move => exact work_dispatchEffect taken
  | release workerId =>
      obtain ⟨worker, found, released⟩ := Option.bind_eq_some_iff.mp taken
      unfold release at released
      split at released
      · rename_i scheduled free was
        cases released
        exact .released found free rfl rfl rfl rfl free
      · cases released

end Inversion

end Engine

end Carbonshift
