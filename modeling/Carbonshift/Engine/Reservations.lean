import Carbonshift.Engine.Promises

/-!
# Reservations

Every worker runs a non-empty batch of one profile, and no two workers run
batches of the same profile at a time.
-/

namespace Carbonshift

namespace Engine

variable {σ : Type} {cfg : Config} {runtime : NumericRuntime σ}

/-- The requests received so far. -/
def receivedBy (history : List Action) : List Request :=
  history.flatMap Action.received

@[simp]
theorem receivedBy_nil : receivedBy [] = [] := rfl

@[simp]
theorem receivedBy_concat (history : List Action) (action : Action) :
    receivedBy (history ++ [action]) = receivedBy history ++ action.received := by
  simp [receivedBy]

end Engine

/-- A non-empty batch of one profile, claimed from the known requests. -/
structure ClaimedBatch.WellFormed (cfg : Config) (known : List Request)
    (batch : ClaimedBatch) : Prop where
  someRequest : batch.pending ≠ []
  known : ∀ request ∈ batch.pending, request ∈ known
  own : ∀ request ∈ batch.pending, request.qosProfileId = batch.profileId
  dispatched : ∃ elapsedSlots, batch.slot = Engine.dispatchSlot cfg elapsedSlots

namespace ClaimedBatch.WellFormed

variable {cfg : Config} {known : List Request} {batch : ClaimedBatch}

theorem mono {more : List Request} (grows : known ⊆ more)
    (wellFormed : batch.WellFormed cfg known) :
    batch.WellFormed cfg more :=
  { wellFormed with
    known := fun request member => grows (wellFormed.known request member) }

/-- The swarm solvers count the batch for the profile it was claimed for. -/
theorem batchProfileId_eq (wellFormed : batch.WellFormed cfg known) :
    batchProfileId batch.pending = batch.profileId := by
  obtain ⟨request, rest, pending⟩ :=
    List.exists_cons_of_ne_nil wellFormed.someRequest
  have own := wellFormed.own request (by simp [pending])
  rw [pending]
  exact own

/-- A dispatch slot lies in the horizon. -/
theorem slot_nonneg (horizon : 0 < cfg.totalSlots)
    (wellFormed : batch.WellFormed cfg known) : 0 ≤ batch.slot := by
  obtain ⟨elapsedSlots, slot_eq⟩ := wellFormed.dispatched
  rw [slot_eq, Engine.dispatchSlot]
  omega

end ClaimedBatch.WellFormed

namespace Engine

variable {σ : Type} {cfg : Config} {runtime : NumericRuntime σ}

/-- The reservations of the scheduler are consistent. -/
structure Reserved (cfg : Config) (known : List Request)
    (engine : Engine σ) : Prop where
  queued : ∀ request ∈ engine.shared.pending, request ∈ known
  wellFormed : ∀ {workerId worker},
    engine.workers.lookup workerId = some worker →
      worker.toClaimedBatch.WellFormed cfg known
  spawned : ∀ {workerId worker},
    engine.workers.lookup workerId = some worker → workerId < engine.spawned
  active : ∀ {workerId worker},
    engine.workers.lookup workerId = some worker →
      worker.profileId ∈ engine.scheduler.activeProfiles
  /-- Two workers never serve one profile. -/
  exclusive : ∀ {left right worker other},
    engine.workers.lookup left = some worker →
    engine.workers.lookup right = some other →
    worker.profileId = other.profileId → left = right
  selectable : ∀ {selection},
    engine.selecting = some selection →
      selection.profileId ∉ engine.scheduler.activeProfiles ∧
        ∃ elapsedSlots, selection.slot = dispatchSlot cfg elapsedSlots

namespace Reserved

theorem new : Reserved cfg [] (Engine.new cfg : Engine σ) := by
  refine ⟨?_, nofun, nofun, nofun, nofun, nofun⟩
  intro request member
  cases member

variable {known more : List Request} {engine next : Engine σ}

/-- Steps that leave workers and reservations alone. -/
private theorem of_sameReservations
    (reserved : Reserved cfg known engine)
    (same : SameReservations engine next) (grows : known ⊆ more)
    (queued : ∀ request ∈ next.shared.pending, request ∈ more) :
    Reserved cfg more next := by
  refine ⟨queued, ?_, ?_, ?_, ?_, ?_⟩
  · rw [same.workers_eq]
    exact fun found => (reserved.wellFormed found).mono grows
  · rw [same.workers_eq, same.spawned_eq]
    exact reserved.spawned
  · rw [same.workers_eq, same.activeProfiles_eq]
    exact reserved.active
  · rw [same.workers_eq]
    exact reserved.exclusive
  · rw [same.selecting_eq, same.activeProfiles_eq]
    exact reserved.selectable

/-- A worker of the next state runs a batch of the state before. -/
private theorem lookup_of_lookup_insert
    {workerId moving : ℕ} {worker moved : BatchWorker σ}
    {phase : WorkerPhase σ}
    (before : engine.workers.lookup moving = some worker)
    (found : (engine.workers.insert moving (worker.withPhase phase)).lookup
      workerId = some moved) :
    ∃ earlier, engine.workers.lookup workerId = some earlier ∧
      earlier.toClaimedBatch = moved.toClaimedBatch := by
  by_cases own : workerId = moving
  · subst own
    rw [AList.lookup_insert] at found
    cases found
    exact ⟨worker, before, rfl⟩
  · rw [AList.lookup_insert_ne own] at found
    exact ⟨moved, found, rfl⟩

private theorem spawned_worker
    {workers : Dictionary ℕ (BatchWorker σ)} {fresh workerId : ℕ}
    {newcomer worker : BatchWorker σ}
    (found : (workers.insert fresh newcomer).lookup workerId = some worker) :
    (workerId = fresh ∧ worker = newcomer) ∨
      workers.lookup workerId = some worker := by
  by_cases own : workerId = fresh
  · subst own
    rw [AList.lookup_insert] at found
    exact Or.inl ⟨rfl, (Option.some.inj found).symm⟩
  · rw [AList.lookup_insert_ne own] at found
    exact Or.inr found

/-- What a worker's step can add to the queue is its own batch. -/
private theorem pending_subset_of_effect
    {worker : BatchWorker σ} {phase : WorkerPhase σ} {shared : SharedState}
    (effect : WorkerEffect cfg runtime engine worker phase shared) :
    shared.pending ⊆ worker.pending ++ engine.shared.pending := by
  cases effect with
  | entered _ => exact List.subset_append_right _ _
  | observedBatch _ _ => exact List.subset_append_right _ _
  | observedSwarm _ _ _ => exact List.subset_append_right _ _
  | solvedBatch _ _ => exact List.subset_append_right _ _
  | solvedSwarm _ _ _ => exact List.subset_append_right _ _
  | rolledBack _ same =>
      rw [same.pending_eq]
      exact List.subset_append_right _ _
  | committed _ _ same =>
      rw [same.pending_eq, SharedState.addAssignments_pending]
      exact List.subset_append_right _ _
  | requeued _ => exact List.Subset.refl _
  | merged _ => exact List.subset_append_right _ _

/-- Every step keeps the reservations consistent. -/
theorem step {action : Action}
    (reserved : Reserved cfg known engine)
    (effect : StepEffect cfg runtime engine action next) :
    Reserved cfg (known ++ action.received) next := by
  have grows : known ⊆ known ++ action.received :=
    List.subset_append_left _ _
  cases effect with
  | queued pending_eq _ _ same =>
      refine reserved.of_sameReservations same grows ?_
      rw [pending_eq]
      exact List.forall_mem_append.mpr
        ⟨fun request member => grows (reserved.queued request member),
          fun request member => List.mem_append_right _ member⟩
  | corrected _ pending_eq _ _ _ _ same =>
      refine reserved.of_sameReservations same grows ?_
      rw [pending_eq]
      exact fun request member => grows (reserved.queued request member)
  | selected free slot_eq inactive =>
      refine ⟨fun request member => grows (reserved.queued request member),
        fun found => (reserved.wellFormed found).mono grows, reserved.spawned,
        reserved.active, reserved.exclusive, ?_⟩
      intro selection picked
      cases picked
      exact ⟨inactive, _, slot_eq⟩
  | unclaimed picked pending_perm _ _ same =>
      have idle : Reserved cfg known { engine with selecting := none } :=
        ⟨reserved.queued, reserved.wellFormed, reserved.spawned,
          reserved.active, reserved.exclusive, nofun⟩
      refine idle.of_sameReservations same grows fun request member => ?_
      exact grows (reserved.queued request (pending_perm.subset member))
  | @claimed selection claimed _ picked someRequest own pending_perm _ _
      workers_eq spawned_eq selecting_eq activeProfiles_eq =>
      obtain ⟨inactive, elapsedSlots, slot_eq⟩ := reserved.selectable picked
      have newcomer :
          (spawnWorker (σ := σ) selection claimed).toClaimedBatch.WellFormed cfg
            (known ++ Action.claimBatch.received) :=
        ⟨someRequest,
          fun request member => grows (reserved.queued request
            (pending_perm.subset (List.mem_append_left _ member))),
          own, elapsedSlots, slot_eq⟩
      refine ⟨fun request member => ?_, ?_, ?_, ?_, ?_, ?_⟩
      · exact grows (reserved.queued request
          (pending_perm.subset (List.mem_append_right _ member)))
      · rw [workers_eq]
        intro workerId worker found
        rcases spawned_worker found with ⟨rfl, rfl⟩ | before
        · exact newcomer
        · exact (reserved.wellFormed before).mono grows
      · rw [workers_eq, spawned_eq]
        intro workerId worker found
        rcases spawned_worker found with ⟨rfl, _⟩ | before
        · exact Nat.lt_succ_self _
        · exact Nat.lt_succ_of_lt (reserved.spawned before)
      · rw [workers_eq, activeProfiles_eq]
        intro workerId worker found
        rcases spawned_worker found with ⟨_, rfl⟩ | before
        · exact List.mem_insert_self
        · exact List.mem_insert_of_mem (reserved.active before)
      · rw [workers_eq]
        intro left right worker other found there sameProfile
        rcases spawned_worker found with ⟨rfl, rfl⟩ | before
        · rcases spawned_worker there with ⟨rfl, _⟩ | earlier
          · rfl
          · have served := reserved.active earlier
            rw [← sameProfile] at served
            exact absurd served inactive
        · rcases spawned_worker there with ⟨rfl, rfl⟩ | earlier
          · have served := reserved.active before
            rw [sameProfile] at served
            exact absurd served inactive
          · exact reserved.exclusive before earlier sameProfile
      · rw [selecting_eq]
        exact nofun
  | worked found effect workers_eq spawned_eq selecting_eq
      activeProfiles_eq =>
      refine ⟨fun request member => ?_, ?_, ?_, ?_, ?_, ?_⟩
      · refine grows ?_
        rcases List.mem_append.mp (pending_subset_of_effect effect member)
          with own | waiting
        · exact (reserved.wellFormed found).known request own
        · exact reserved.queued request waiting
      · rw [workers_eq]
        intro workerId moved there
        obtain ⟨earlier, before, batch_eq⟩ :=
          lookup_of_lookup_insert found there
        rw [← batch_eq]
        exact (reserved.wellFormed before).mono grows
      · rw [workers_eq, spawned_eq]
        intro workerId moved there
        obtain ⟨earlier, before, _⟩ := lookup_of_lookup_insert found there
        exact reserved.spawned before
      · rw [workers_eq, activeProfiles_eq]
        intro workerId moved there
        obtain ⟨earlier, before, batch_eq⟩ :=
          lookup_of_lookup_insert found there
        rw [← batch_eq]
        exact reserved.active before
      · rw [workers_eq]
        intro left right worker other there elsewhere sameProfile
        obtain ⟨first, before, first_eq⟩ := lookup_of_lookup_insert found there
        obtain ⟨second, earlier, second_eq⟩ :=
          lookup_of_lookup_insert found elsewhere
        rw [← first_eq, ← second_eq] at sameProfile
        exact reserved.exclusive before earlier sameProfile
      · rw [selecting_eq, activeProfiles_eq]
        exact reserved.selectable
  | @released leaver worker _ _ found _ _ shared_eq workers_eq spawned_eq
      selecting_eq activeProfiles_eq =>
      have remaining : ∀ {workerId : ℕ} {other : BatchWorker σ},
          next.workers.lookup workerId = some other →
            workerId ≠ leaver ∧
              engine.workers.lookup workerId = some other := by
        intro workerId other there
        rw [workers_eq] at there
        by_cases own : workerId = leaver
        · subst own
          rw [AList.lookup_erase] at there
          cases there
        · rw [AList.lookup_erase_ne own] at there
          exact ⟨own, there⟩
      refine ⟨?_, ?_, ?_, ?_, ?_, ?_⟩
      · rw [shared_eq]
        exact fun request member => grows (reserved.queued request member)
      · exact fun there =>
          (reserved.wellFormed (remaining there).2).mono grows
      · rw [spawned_eq]
        exact fun there => reserved.spawned (remaining there).2
      · rw [activeProfiles_eq]
        intro workerId other there
        obtain ⟨different, before⟩ := remaining there
        refine (List.mem_erase_of_ne fun sameProfile => ?_).mpr
          (reserved.active before)
        exact different (reserved.exclusive before found sameProfile)
      · exact fun there elsewhere sameProfile =>
          reserved.exclusive (remaining there).2 (remaining elsewhere).2
            sameProfile
      · rw [selecting_eq]
        exact nofun

/-- The reservations are consistent in every reachable state. -/
theorem of_run {actions : List Action}
    (reached : Transition.run (Engine.step cfg runtime) (Engine.new cfg)
      actions = some engine) :
    Reserved cfg (receivedBy actions) engine := by
  refine Transition.run_induction
    (fun history state => Reserved cfg (receivedBy history) state) new ?_
      reached
  intro history state action next before taken
  rw [receivedBy_concat]
  exact before.step (step_effect taken)

end Reserved

end Engine

end Carbonshift
