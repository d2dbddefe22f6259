import Carbonshift.Engine.Conservation
import Carbonshift.Engine.DispatchSteps

/-!
# Order of a profile's queue

The requests of a profile are served in the order of their submission.  Only
one batch of a profile is in flight, and a batch that comes back goes to the
front of the shared queue, before everything of its profile that still waits.
-/

namespace Carbonshift

namespace Engine

variable {σ : Type} {cfg : Config} {runtime : NumericRuntime σ}
variable {known : List Request} {engine next : Engine σ} {action : Action}

/-- What waits of a profile, behind its batch in flight, is in submission
order. -/
structure InOrder (known : List Request) (engine : Engine σ) : Prop where
  waiting : ∀ profileId,
    (profileRequests profileId engine.shared.pending).Sublist
      (profileRequests profileId known)
  inFlight : ∀ {workerId worker},
    engine.workers.lookup workerId = some worker →
    worker.phase.ownsBatch = true →
      (worker.pending ++
        profileRequests worker.profileId engine.shared.pending).Sublist
          (profileRequests worker.profileId known)

namespace InOrder

theorem new : InOrder [] (Engine.new cfg : Engine σ) := by
  refine ⟨fun profileId => List.Sublist.refl _, fun {workerId worker} found => ?_⟩
  have nobody : (none : Option (BatchWorker σ)) = some worker := found
  cases nobody

/-- New requests go behind everything that waits. -/
private theorem of_queued
    (ordered : InOrder known engine)
    (pending_eq :
      next.shared.pending = engine.shared.pending ++ action.received)
    (workers_eq : next.workers = engine.workers) :
    InOrder (known ++ action.received) next := by
  refine ⟨fun profileId => ?_, fun found owns => ?_⟩
  · rw [pending_eq, profileRequests_append, profileRequests_append]
    exact (ordered.waiting profileId).append_right _
  · rw [workers_eq] at found
    rw [pending_eq, profileRequests_append, profileRequests_append,
      ← List.append_assoc]
    exact (ordered.inFlight found owns).append_right _

/-- Steps that bring no request. -/
private theorem of_same
    (ordered : InOrder known engine)
    (pending_eq : next.shared.pending = engine.shared.pending)
    (kept : ∀ {workerId worker},
      next.workers.lookup workerId = some worker →
      worker.phase.ownsBatch = true →
        ∃ earlier, engine.workers.lookup workerId = some earlier ∧
          earlier.phase.ownsBatch = true ∧
          earlier.toClaimedBatch = worker.toClaimedBatch) :
    InOrder known next := by
  refine ⟨fun profileId => ?_, fun found owns => ?_⟩
  · rw [pending_eq]
    exact ordered.waiting profileId
  · obtain ⟨earlier, before, owned, same⟩ := kept found owns
    have sorted := ordered.inFlight before owned
    rw [same] at sorted
    rw [pending_eq]
    exact sorted

/-- A claim takes the first requests of its profile. -/
private theorem of_claimed
    (ordered : InOrder known engine) (reserved : Reserved cfg known engine)
    {selection : ProfileSelection} {count : ℕ}
    (picked : engine.selecting = some selection)
    (pending_eq :
      next.shared.pending =
        (SharedState.splitClaim selection.profileId count
          engine.shared.pending).2)
    (workers_eq :
      next.workers =
        engine.workers.insert engine.spawned
          (spawnWorker selection
            (SharedState.splitClaim selection.profileId count
              engine.shared.pending).1)) :
    InOrder known next := by
  have split_eq := SharedState.profileRequests_splitClaim selection.profileId
    count engine.shared.pending
  refine ⟨fun profileId => ?_, fun {workerId worker} found owns => ?_⟩
  · rw [pending_eq]
    by_cases own : profileId = selection.profileId
    · subst own
      refine List.Sublist.trans ?_ (ordered.waiting selection.profileId)
      rw [← split_eq]
      exact List.sublist_append_right _ _
    · rw [SharedState.profileRequests_splitClaim_of_ne own]
      exact ordered.waiting profileId
  · rw [workers_eq] at found
    rw [pending_eq]
    by_cases fresh : workerId = engine.spawned
    · subst fresh
      rw [AList.lookup_insert] at found
      cases found
      have sorted := ordered.waiting selection.profileId
      rw [← split_eq] at sorted
      exact sorted
    · rw [AList.lookup_insert_ne fresh] at found
      have different : worker.profileId ≠ selection.profileId := by
        intro same
        have served := reserved.active found
        rw [same] at served
        exact (reserved.selectable picked).1 served
      rw [SharedState.profileRequests_splitClaim_of_ne different]
      exact ordered.inFlight found owns

/-- A batch that comes back goes before what waits of its profile. -/
private theorem of_requeued
    (ordered : InOrder known engine) (reserved : Reserved cfg known engine)
    {workerId : ℕ} {worker : BatchWorker σ}
    (found : engine.workers.lookup workerId = some worker)
    (was : worker.phase = .rejected)
    (pending_eq :
      next.shared.pending = worker.pending ++ engine.shared.pending)
    (workers_eq :
      next.workers =
        engine.workers.insert workerId (worker.withPhase (.finished false))) :
    InOrder known next := by
  have own := (reserved.wellFormed found).own
  refine ⟨fun profileId => ?_, fun {otherId other} there owns => ?_⟩
  · rw [pending_eq, profileRequests_append]
    by_cases same : profileId = worker.profileId
    · subst same
      rw [profileRequests_of_own own]
      exact ordered.inFlight found (by rw [was]; rfl)
    · rw [profileRequests_of_foreign same own, List.nil_append]
      exact ordered.waiting profileId
  · rw [workers_eq] at there
    by_cases mover : otherId = workerId
    · subst mover
      rw [AList.lookup_insert] at there
      cases there
      cases owns
    · rw [AList.lookup_insert_ne mover] at there
      have different : other.profileId ≠ worker.profileId :=
        fun same => mover (reserved.exclusive there found same)
      rw [pending_eq, profileRequests_append,
        profileRequests_of_foreign different own, List.nil_append]
      exact ordered.inFlight there owns

end InOrder

/-- The picked profile still has the requests that were counted. -/
def CountsPending (cfg : Config) (engine : Engine σ) : Prop :=
  ∀ selection, engine.selecting = some selection →
    selection.minPending ≤ max 1 cfg.solver.batchSize ∧
      selection.minPending ≤ selection.profilePendingCount ∧
      selection.profilePendingCount ≤
        (profileRequests selection.profileId engine.shared.pending).length

theorem countsPending_new (cfg : Config) :
    CountsPending cfg (Engine.new cfg : Engine σ) :=
  fun _ picked => absurd picked nofun

theorem length_claim (profileId : QosProfileId) (count : ℕ)
    (requests : List Request) :
    (SharedState.splitClaim profileId count requests).1.length =
      min count (profileRequests profileId requests).length := by
  rw [length_splitClaim, profileRequests, List.countP_eq_length_filter]

/-- A claim gets the whole batch it was picked for, or takes nothing. -/
theorem CountsPending.claim_eq_nil
    (counts : CountsPending cfg engine) {selection : ProfileSelection}
    (picked : engine.selecting = some selection)
    (tooFew :
      let claim := SharedState.splitClaim selection.profileId
        (min selection.profilePendingCount cfg.solver.batchSize)
        engine.shared.pending
      claim.1 = [] ∨ claim.1.length < selection.minPending) :
    (SharedState.splitClaim selection.profileId
      (min selection.profilePendingCount cfg.solver.batchSize)
      engine.shared.pending).1 = [] := by
  rcases tooFew with empty | short
  · exact empty
  · obtain ⟨small, enough, present⟩ := counts selection picked
    have length := length_claim selection.profileId
      (min selection.profilePendingCount cfg.solver.batchSize)
      engine.shared.pending
    refine List.length_eq_zero_iff.mp ?_
    omega

/-- Nothing leaves the queue while a profile is picked. -/
theorem CountsPending.step
    (counts : CountsPending cfg engine)
    (effect : DispatchEffect cfg engine action next) :
    CountsPending cfg next := by
  cases effect with
  | queued pending_eq _ same =>
      intro selection picked
      rw [same.selecting_eq] at picked
      obtain ⟨small, enough, present⟩ := counts selection picked
      refine ⟨small, enough, ?_⟩
      rw [pending_eq, profileRequests_append, List.length_append]
      omega
  | @selected _ flush _ selection _ minPending_eq enough counted =>
      intro other picked
      cases picked
      refine ⟨?_, enough, counted.le⟩
      rw [minPending_eq]
      split <;> omega
  | unclaimed _ _ _ _ _ same =>
      intro selection picked
      rw [same.selecting_eq] at picked
      cases picked
  | claimed _ _ _ _ _ _ _ selecting_eq =>
      intro selection picked
      rw [selecting_eq] at picked
      cases picked
  | moved _ _ pending_eq _ same =>
      intro selection picked
      rw [same.selecting_eq] at picked
      rw [pending_eq]
      exact counts selection picked
  | requeued _ _ pending_eq _ same =>
      intro selection picked
      rw [same.selecting_eq] at picked
      obtain ⟨small, enough, present⟩ := counts selection picked
      refine ⟨small, enough, ?_⟩
      rw [pending_eq, profileRequests_append, List.length_append]
      omega
  | released _ _ _ _ _ _ selecting_eq =>
      intro selection picked
      rw [selecting_eq] at picked
      cases picked

/-- Every step keeps the order. -/
theorem InOrder.step
    (ordered : InOrder known engine) (reserved : Reserved cfg known engine)
    (counts : CountsPending cfg engine)
    (effect : DispatchEffect cfg engine action next) :
    InOrder (known ++ action.received) next := by
  cases effect with
  | queued pending_eq workers_eq _ =>
      exact ordered.of_queued pending_eq workers_eq
  | selected _ _ _ _ =>
      exact ordered.of_queued (List.append_nil _).symm rfl
  | unclaimed picked claim_eq tooFew pending_eq workers_eq _ =>
      subst claim_eq
      have nothing := counts.claim_eq_nil picked tooFew
      refine ordered.of_queued ?_ workers_eq
      rw [pending_eq, nothing, SharedState.splitClaim_eq_of_empty nothing]
      exact (List.append_nil _).symm
  | claimed picked claim_eq _ pending_eq workers_eq _ _ _ =>
      subst claim_eq
      have received : Action.claimBatch.received = [] := rfl
      rw [received, List.append_nil]
      exact ordered.of_claimed reserved picked pending_eq workers_eq
  | @moved workerId move worker phase _ found owns pending_eq workers_eq _ =>
      have received : (Action.work workerId move).received = [] := rfl
      rw [received, List.append_nil]
      refine ordered.of_same pending_eq fun {otherId other} there owned => ?_
      rw [workers_eq] at there
      by_cases mover : otherId = workerId
      · subst mover
        rw [AList.lookup_insert] at there
        cases there
        exact ⟨worker, found, owns owned, rfl⟩
      · rw [AList.lookup_insert_ne mover] at there
        exact ⟨other, there, owned, rfl⟩
  | @requeued workerId move _ _ found was pending_eq workers_eq _ =>
      have received : (Action.work workerId move).received = [] := rfl
      rw [received, List.append_nil]
      exact ordered.of_requeued reserved found was pending_eq workers_eq
  | @released workerId worker _ found _ pending_eq workers_eq _ _ _ =>
      have received : (Action.release workerId).received = [] := rfl
      rw [received, List.append_nil]
      refine ordered.of_same pending_eq fun {otherId other} there owned => ?_
      rw [workers_eq] at there
      by_cases leaver : otherId = workerId
      · subst leaver
        rw [AList.lookup_erase] at there
        cases there
      · rw [AList.lookup_erase_ne leaver] at there
        exact ⟨other, there, owned, rfl⟩

theorem InOrder.of_run {actions : List Action}
    (reached : Transition.run (Engine.step cfg runtime) (Engine.new cfg)
      actions = some engine) :
    InOrder (receivedBy actions) engine ∧ CountsPending cfg engine := by
  refine (Transition.run_induction
    (fun history state =>
      Reserved cfg (receivedBy history) state ∧
        InOrder (receivedBy history) state ∧ CountsPending cfg state)
    ⟨.new, .new, countsPending_new cfg⟩ ?_ reached).2
  rintro history state action next ⟨reserved, ordered, counts⟩ taken
  have effect := dispatch_effect taken
  rw [receivedBy_concat]
  exact ⟨reserved.step (step_effect taken),
    ordered.step reserved counts effect, counts.step effect⟩

/-- What a claim takes, and what it leaves of the profile. -/
structure ClaimsPrefix (submitted : List Request) (engine next : Engine σ)
    (worker : BatchWorker σ) : Prop where
  /-- The batch is a prefix of what waits of its profile. -/
  split_eq :
    worker.pending ++ profileRequests worker.profileId next.shared.pending =
      profileRequests worker.profileId engine.shared.pending
  /-- What is left was submitted after what is claimed. -/
  earlier : ∀ request ∈ worker.pending,
    ∀ waiting ∈ profileRequests worker.profileId next.shared.pending,
      [request, waiting].Sublist submitted
  /-- The other profiles lose nothing. -/
  others : ∀ profileId, profileId ≠ worker.profileId →
    profileRequests profileId next.shared.pending =
      profileRequests profileId engine.shared.pending

/-- A profile's queue is in submission order, and batches are claimed from its
front. -/
structure ServedInOrder (cfg : Config) (runtime : NumericRuntime σ)
    (submitted : List Request) (engine : Engine σ) : Prop where
  waiting : ∀ profileId,
    (profileRequests profileId engine.shared.pending).Sublist
      (profileRequests profileId submitted)
  /-- A claim takes nothing, or it spawns a worker with a first batch. -/
  claims : ∀ {next}, Engine.step cfg runtime engine .claimBatch = some next →
    (next.shared.pending = engine.shared.pending ∧
        next.workers = engine.workers) ∨
      ∃ workerId worker,
        next.workers = engine.workers.insert workerId worker ∧
          workerId ∉ engine.workers ∧
          ClaimsPrefix submitted engine next worker
  /-- Only a claim spawns a worker. -/
  spawns : ∀ {action next workerId},
    Engine.step cfg runtime engine action = some next →
    workerId ∈ next.workers → workerId ∉ engine.workers → action = .claimBatch

/-- In every reachable state the queue of each profile is first in, first
out. -/
theorem profile_queue_is_fifo
    (cfg : Config) (runtime : NumericRuntime σ) (actions : List Action)
    (engine : Engine σ)
    (reached : Transition.run (step cfg runtime) (new cfg) actions =
      some engine) :
    ServedInOrder cfg runtime (receivedBy actions) engine := by
  have reserved := Reserved.of_run reached
  obtain ⟨ordered, counts⟩ := InOrder.of_run reached
  refine ⟨ordered.waiting, fun {next} taken => ?_,
    fun {action next workerId} taken present absent => ?_⟩
  · cases dispatch_effect taken with
    | queued pending_eq workers_eq _ =>
        exact Or.inl ⟨pending_eq.trans (List.append_nil _), workers_eq⟩
    | unclaimed picked claim_eq tooFew pending_eq workers_eq _ =>
        subst claim_eq
        have nothing := counts.claim_eq_nil picked tooFew
        refine Or.inl ⟨?_, workers_eq⟩
        rw [pending_eq, nothing, SharedState.splitClaim_eq_of_empty nothing]
        rfl
    | @claimed selection claim _ picked claim_eq _ pending_eq workers_eq _ _
        _ =>
        subst claim_eq
        have fresh : engine.spawned ∉ engine.workers := by
          intro present
          obtain ⟨worker, found⟩ := Dictionary.exists_lookup_of_mem present
          exact lt_irrefl _ (reserved.spawned found)
        have split_eq := SharedState.profileRequests_splitClaim
          selection.profileId
          (min selection.profilePendingCount cfg.solver.batchSize)
          engine.shared.pending
        refine Or.inr ⟨_, _, workers_eq, fresh, ?_, ?_, ?_⟩
        · rw [pending_eq]
          exact split_eq
        · intro request claimed waiting left
          rw [pending_eq] at left
          have behind := (List.singleton_sublist.mpr claimed).append
            (List.singleton_sublist.mpr left)
          have sorted := ordered.waiting selection.profileId
          rw [← split_eq] at sorted
          exact (behind.trans sorted).trans List.filter_sublist
        · intro profileId different
          rw [pending_eq]
          exact SharedState.profileRequests_splitClaim_of_ne different _ _
  · cases dispatch_effect taken with
    | queued _ workers_eq _ =>
        rw [workers_eq] at present
        exact absurd present absent
    | selected _ _ _ _ => exact absurd present absent
    | unclaimed _ _ _ _ _ _ => rfl
    | claimed _ _ _ _ _ _ _ _ => rfl
    | moved found _ _ workers_eq _ =>
        rw [workers_eq, AList.mem_insert] at present
        rcases present with rfl | present
        · exact absurd (Dictionary.mem_of_lookup found) absent
        · exact absurd present absent
    | requeued found _ _ workers_eq _ =>
        rw [workers_eq, AList.mem_insert] at present
        rcases present with rfl | present
        · exact absurd (Dictionary.mem_of_lookup found) absent
        · exact absurd present absent
    | released _ _ _ workers_eq _ _ _ =>
        rw [workers_eq, AList.mem_erase] at present
        exact absurd present.2 absent

/-- A batch with a request that only arrives past the error window comes back
while a third request has arrived. -/
def requeuedRun : List Action :=
  [.addRequests [.new 0 1 0 3, .new 0 2 20 22],
    .selectProfile 0 true (List.replicate 24 1), .claimBatch, .work 0 .enter,
    .work 0 .observe, .addRequest (.new 0 3 0 3), .work 0 (.solve .steady),
    .work 0 .requeue, .release 0,
    .selectProfile 1 true (List.replicate 24 1)]

/-- The requests are claimed again in the order of their submission. -/
theorem requeuedRun_served_in_order :
    ∃ engine,
      Transition.run (step .default .least) (new .default) requeuedRun =
          some engine ∧
        requestIds engine.shared.pending = [1, 2, 3] ∧
        ServedInOrder .default .least (receivedBy requeuedRun) engine := by
  have computed :
      (Transition.run (step .default .least) (new .default) requeuedRun).map
          (fun engine => requestIds engine.shared.pending) =
        some [1, 2, 3] := by
    decide +kernel
  obtain ⟨engine, reached, queue⟩ := Option.map_eq_some_iff.mp computed
  exact ⟨engine, reached, queue,
    profile_queue_is_fifo .default .least requeuedRun engine reached⟩

end Engine

end Carbonshift
