import Carbonshift.Engine.Conservation
import Carbonshift.Engine.DispatchSteps

/-!
# Balance of the reservations

The worker counter, the active profiles and the spawned workers count the same
batches, from the claim of a batch to the release of its worker.
-/

namespace Carbonshift

namespace Engine

variable {σ : Type} {cfg : Config} {runtime : NumericRuntime σ}
variable {known : List Request} {engine next : Engine σ} {action : Action}

/-- The profiles that the workers serve. -/
def servedProfiles (engine : Engine σ) : List QosProfileId :=
  engine.workers.values.map fun worker => worker.profileId

/-- Counter, active profiles and workers agree, within the limits. -/
structure Balanced (cfg : Config) (engine : Engine σ) : Prop where
  served : engine.scheduler.activeProfiles.Perm engine.servedProfiles
  single : engine.scheduler.activeProfiles.Nodup
  activeWorkers_eq :
    engine.scheduler.activeWorkers = engine.scheduler.activeProfiles.length
  limit : engine.scheduler.activeWorkers ≤ cfg.maxWorkers
  /-- A worker slot is free while a profile is picked. -/
  spare : engine.selecting.isSome = true →
    engine.scheduler.activeWorkers < cfg.maxWorkers
  size : ∀ worker ∈ engine.workers.values,
    worker.pending.length ≤ cfg.solver.batchSize

namespace Balanced

theorem new : Balanced cfg (Engine.new cfg : Engine σ) := by
  refine ⟨List.Perm.refl _, List.nodup_nil, rfl, Nat.zero_le _, nofun, ?_⟩
  intro worker member
  exact absurd member List.not_mem_nil

/-- Steps that leave workers and counters alone. -/
private theorem of_sameCounters
    (balanced : Balanced cfg engine) (same : SameCounters engine next)
    (workers_eq : next.workers = engine.workers) :
    Balanced cfg next := by
  refine ⟨?_, ?_, ?_, ?_, ?_, ?_⟩
  · rw [servedProfiles, workers_eq, same.activeProfiles_eq]
    exact balanced.served
  · rw [same.activeProfiles_eq]
    exact balanced.single
  · rw [same.activeProfiles_eq, same.activeWorkers_eq]
    exact balanced.activeWorkers_eq
  · rw [same.activeWorkers_eq]
    exact balanced.limit
  · rw [same.activeWorkers_eq, same.selecting_eq]
    exact balanced.spare
  · rw [workers_eq]
    exact balanced.size

/-- A worker moves on with its batch. -/
private theorem of_withPhase
    (balanced : Balanced cfg engine) (same : SameCounters engine next)
    {workerId : ℕ} {worker : BatchWorker σ} {phase : WorkerPhase σ}
    (found : engine.workers.lookup workerId = some worker)
    (workers_eq :
      next.workers =
        engine.workers.insert workerId (worker.withPhase phase)) :
    Balanced cfg next := by
  obtain ⟨others, before, after⟩ :=
    Dictionary.values_insert_of_lookup found (worker.withPhase phase)
  have served : engine.servedProfiles.Perm next.servedProfiles := by
    rw [servedProfiles, servedProfiles, workers_eq, after]
    exact before.map _
  refine ⟨?_, ?_, ?_, ?_, ?_, ?_⟩
  · rw [same.activeProfiles_eq]
    exact balanced.served.trans served
  · rw [same.activeProfiles_eq]
    exact balanced.single
  · rw [same.activeProfiles_eq, same.activeWorkers_eq]
    exact balanced.activeWorkers_eq
  · rw [same.activeWorkers_eq]
    exact balanced.limit
  · rw [same.activeWorkers_eq, same.selecting_eq]
    exact balanced.spare
  · intro other member
    rw [workers_eq, after] at member
    rcases List.mem_cons.mp member with rfl | member
    · exact balanced.size worker (before.mem_iff.mpr List.mem_cons_self)
    · exact balanced.size other
        (before.mem_iff.mpr (List.mem_cons_of_mem _ member))

/-- A worker to be released is counted. -/
theorem activeWorkers_pos
    (balanced : Balanced cfg engine) {workerId : ℕ} {worker : BatchWorker σ}
    (found : engine.workers.lookup workerId = some worker) :
    0 < engine.scheduler.activeWorkers := by
  rw [balanced.activeWorkers_eq, balanced.served.length_eq, servedProfiles,
    List.length_map, List.length_pos_iff_exists_mem]
  exact ⟨worker, Dictionary.mem_values_iff.mpr ⟨workerId, found⟩⟩

/-- Every step keeps the balance. -/
theorem step
    (balanced : Balanced cfg engine) (reserved : Reserved cfg known engine)
    (effect : DispatchEffect cfg engine action next) :
    Balanced cfg next := by
  cases effect with
  | queued _ workers_eq same => exact balanced.of_sameCounters same workers_eq
  | selected idle _ _ _ =>
      exact ⟨balanced.served, balanced.single, balanced.activeWorkers_eq,
        balanced.limit, fun _ => idle, balanced.size⟩
  | unclaimed _ _ _ _ workers_eq same =>
      have dropped : Balanced cfg { engine with selecting := none } :=
        ⟨balanced.served, balanced.single, balanced.activeWorkers_eq,
          balanced.limit, nofun, balanced.size⟩
      exact dropped.of_sameCounters same workers_eq
  | @claimed selection claim _ picked claim_eq _ _ workers_eq
      activeWorkers_eq activeProfiles_eq selecting_eq =>
      have inactive := (reserved.selectable picked).1
      have fresh : engine.spawned ∉ engine.workers := by
        intro present
        obtain ⟨worker, found⟩ := Dictionary.exists_lookup_of_mem present
        exact lt_irrefl _ (reserved.spawned found)
      have values_eq : next.workers.values =
          spawnWorker selection claim.1 :: engine.workers.values := by
        rw [workers_eq, Dictionary.values_insert_of_absent fresh]
      have profiles_eq : next.scheduler.activeProfiles =
          selection.profileId :: engine.scheduler.activeProfiles := by
        rw [activeProfiles_eq, List.insert_of_not_mem inactive]
      refine ⟨?_, ?_, ?_, ?_, ?_, ?_⟩
      · rw [profiles_eq, servedProfiles, values_eq, List.map_cons]
        exact balanced.served.cons _
      · rw [profiles_eq]
        exact List.nodup_cons.mpr ⟨inactive, balanced.single⟩
      · rw [activeWorkers_eq, profiles_eq, List.length_cons,
          balanced.activeWorkers_eq]
      · rw [activeWorkers_eq]
        exact balanced.spare (by rw [picked]; rfl)
      · rw [selecting_eq]
        exact nofun
      · intro worker member
        rw [values_eq] at member
        rcases List.mem_cons.mp member with rfl | member
        · have length := length_splitClaim selection.profileId
            (min selection.profilePendingCount cfg.solver.batchSize)
            engine.shared.pending
          rw [← claim_eq] at length
          have pending_eq :
              (spawnWorker (σ := σ) selection claim.1).pending = claim.1 := rfl
          rw [pending_eq]
          omega
        · exact balanced.size worker member
  | moved found _ _ workers_eq same =>
      exact balanced.of_withPhase same found workers_eq
  | requeued found _ _ workers_eq same =>
      exact balanced.of_withPhase same found workers_eq
  | @released workerId worker _ found _ _ workers_eq activeWorkers_eq
      activeProfiles_eq selecting_eq =>
      have values_perm := Dictionary.values_erase_of_lookup found
      have served : engine.servedProfiles.Perm
          (worker.profileId :: next.servedProfiles) := by
        rw [servedProfiles, servedProfiles, workers_eq]
        exact values_perm.map _
      have present : worker.profileId ∈ engine.scheduler.activeProfiles :=
        reserved.active found
      refine ⟨?_, ?_, ?_, ?_, ?_, ?_⟩
      · rw [activeProfiles_eq]
        refine List.Perm.cons_inv (a := worker.profileId) ?_
        exact (List.perm_cons_erase present).symm.trans
          (balanced.served.trans served)
      · rw [activeProfiles_eq]
        exact balanced.single.erase _
      · rw [activeWorkers_eq, activeProfiles_eq,
          List.length_erase_of_mem present, balanced.activeWorkers_eq]
      · rw [activeWorkers_eq]
        exact (Nat.sub_le _ _).trans balanced.limit
      · rw [selecting_eq]
        exact nofun
      · intro other member
        refine balanced.size other (values_perm.mem_iff.mpr ?_)
        rw [workers_eq] at member
        exact List.mem_cons_of_mem _ member

theorem of_run {actions : List Action}
    (reached : Transition.run (Engine.step cfg runtime) (Engine.new cfg)
      actions = some engine) :
    Balanced cfg engine := by
  refine (Transition.run_induction
    (fun history state =>
      Reserved cfg (receivedBy history) state ∧ Balanced cfg state)
    ⟨.new, .new⟩ ?_ reached).2
  rintro history state action next ⟨reserved, balanced⟩ taken
  rw [receivedBy_concat]
  exact ⟨reserved.step (step_effect taken),
    balanced.step reserved (dispatch_effect taken)⟩

end Balanced

/-- What the reservations promise of the batches in flight. -/
structure DispatchInvariant (cfg : Config) (runtime : NumericRuntime σ)
    (engine : Engine σ) : Prop where
  /-- Counter, active profiles and batches in flight count alike. -/
  profiles_eq :
    engine.scheduler.activeProfiles.length = engine.scheduler.activeWorkers
  profilesNodup : engine.scheduler.activeProfiles.Nodup
  batches_eq :
    engine.workers.values.length = engine.scheduler.activeWorkers
  limit : engine.scheduler.activeWorkers ≤ cfg.maxWorkers
  serialized : cfg.workerKind = .swarmSerialized →
    engine.scheduler.activeWorkers ≤ 1
  nonempty : ∀ {workerId worker},
    engine.workers.lookup workerId = some worker → worker.pending ≠ []
  size : ∀ {workerId worker},
    engine.workers.lookup workerId = some worker →
      worker.pending.length ≤ cfg.solver.batchSize
  own : ∀ {workerId worker},
    engine.workers.lookup workerId = some worker →
      ∀ request ∈ worker.pending, request.qosProfileId = worker.profileId
  active : ∀ {workerId worker},
    engine.workers.lookup workerId = some worker →
      worker.profileId ∈ engine.scheduler.activeProfiles
  exclusive : ∀ {left right worker other},
    engine.workers.lookup left = some worker →
    engine.workers.lookup right = some other →
    worker.profileId = other.profileId → left = right
  /-- A release finds a worker to take off the counter. -/
  noUnderflow : ∀ {workerId next},
    Engine.step cfg runtime engine (.release workerId) = some next →
      0 < engine.scheduler.activeWorkers

/-- The reservations are balanced in every reachable state. -/
theorem dispatch_reservations_balanced
    (cfg : Config) (runtime : NumericRuntime σ) (actions : List Action)
    (engine : Engine σ)
    (reached : Transition.run (step cfg runtime) (new cfg) actions =
      some engine) :
    DispatchInvariant cfg runtime engine := by
  have reserved := Reserved.of_run reached
  have balanced := Balanced.of_run reached
  refine ⟨balanced.activeWorkers_eq.symm, balanced.single, ?_, balanced.limit,
    ?_, fun found => (reserved.wellFormed found).someRequest,
    fun found => balanced.size _ (Dictionary.mem_values_iff.mpr ⟨_, found⟩),
    fun found => (reserved.wellFormed found).own, reserved.active,
    reserved.exclusive, ?_⟩
  · rw [balanced.activeWorkers_eq, balanced.served.length_eq, servedProfiles,
      List.length_map]
  · intro kind
    have limit := balanced.limit
    rwa [Config.maxWorkers, if_pos kind] at limit
  · intro workerId next taken
    obtain ⟨worker, found, _⟩ := Option.bind_eq_some_iff.mp taken
    exact balanced.activeWorkers_pos found

/-- Two requests of one profile and a late one: a batch is in flight. -/
theorem overlappingRun_dispatches :
    ∃ engine,
      Transition.run (step Config.default .least) (new Config.default)
          (overlappingRun.take 6) = some engine ∧
        engine.scheduler.activeWorkers = 1 ∧
        DispatchInvariant Config.default .least engine := by
  have computed :
      (Transition.run (step Config.default .least) (new Config.default)
        (overlappingRun.take 6)).map
          (fun engine => engine.scheduler.activeWorkers) = some 1 := by
    decide +kernel
  obtain ⟨engine, reached, busy⟩ := Option.map_eq_some_iff.mp computed
  exact ⟨engine, reached, busy,
    dispatch_reservations_balanced Config.default .least _ engine reached⟩

end Engine

end Carbonshift
