import Carbonshift.Engine.SchedulerSteps

/-!
# The main loop

An iteration reads the queue and the worker count, decides on a dispatch pass,
and claims batches until no profile qualifies.  The other threads may act
between its reads and its claims, so what it read is a value of its own.
-/

namespace Carbonshift

/-- What the main loop keeps between iterations. -/
structure LoopState where
  lastFlushSlot : ℤ
  flushBacklog : Bool
  deriving DecidableEq, Repr

/-- What an iteration reads before it dispatches. -/
structure LoopReading where
  pendingCount : ℕ
  activeWorkers : ℕ
  /-- Virtual time in slots. -/
  elapsedSlots : ℕ
  /-- Does the flush request name the current slot? -/
  closeSlotFlush : Bool
  carbonForecast : List ℚ
  pendingProfileCounts : List (QosProfileId × ℕ)
  /-- Age in milliseconds of the first request in the queue. -/
  oldestPendingAgeMs : Option ℕ
  deriving DecidableEq, Repr

/-- The dispatch passes of the main loop. -/
inductive DispatchPass where
  | fullBatches
  | flush
  | timeoutFlush
  | idle
  deriving DecidableEq, Repr

namespace SharedState

/-- Virtual age in milliseconds of the oldest pending request. -/
def getOldestPendingAgeMs (state : SharedState) (virtualMs : ℕ) : Option ℕ :=
  state.pending.head?.map fun request =>
    virtualMs - (request.arrivalTime * 1000).floor.toNat

end SharedState

namespace Engine

variable {σ : Type}

/-- An iteration that reads one state of the engine. -/
def readLoop (engine : Engine σ) (elapsedSlots virtualMs : ℕ)
    (closeSlotFlush : Bool) (carbonForecast : List ℚ) : LoopReading where
  pendingCount := engine.shared.pending.length
  activeWorkers := engine.scheduler.activeWorkers
  elapsedSlots := elapsedSlots
  closeSlotFlush := closeSlotFlush
  carbonForecast := carbonForecast
  pendingProfileCounts := engine.shared.pendingProfileCounts
  oldestPendingAgeMs := engine.shared.getOldestPendingAgeMs virtualMs

section MainLoop

variable (cfg : Config)

/-- Does some profile fill a batch? -/
def hasFullProfileBatch (reading : LoopReading) : Bool :=
  reading.pendingProfileCounts.any fun entry =>
    decide (cfg.solver.batchSize ≤ entry.2)

/-- Choose the pass of an iteration; timeouts of 0 never flush. -/
def dispatchPass (batchTimeoutSecs : ℚ) (loop : LoopState)
    (reading : LoopReading) : DispatchPass :=
  let workerFree :=
    decide (reading.activeWorkers < cfg.solver.maxBatchSolverParallelism)
  let slot := dispatchSlot cfg reading.elapsedSlots
  if hasFullProfileBatch cfg reading && workerFree then
    .fullBatches
  else if decide (0 < reading.pendingCount) && workerFree &&
      (reading.closeSlotFlush || decide (loop.lastFlushSlot < slot) ||
        loop.flushBacklog) then
    .flush
  else if decide (0 < batchTimeoutSecs) && decide (0 < reading.pendingCount) &&
      workerFree &&
      reading.oldestPendingAgeMs.any (fun ageMs =>
        decide (batchTimeoutSecs * 1000 ≤ ageMs)) then
    .timeoutFlush
  else
    .idle

/-- Is some queued profile not suppressed? -/
def hasRetryableProfilePending (engine : Engine σ) (slot : ℤ) : Bool :=
  engine.shared.pendingProfileCounts.any fun entry =>
    decide (0 < entry.2) &&
      decide (engine.scheduler.lastInfeasible.lookup entry.1 ≠
        some (slot, entry.2))

/-- Claim batches until no profile qualifies or a claim fails; every turn but
the last takes a worker slot. -/
def dispatchTurns (elapsedSlots : ℕ) (flush : Bool)
    (carbonForecast : List ℚ) : ℕ → Engine σ → Engine σ
  | 0, engine => engine
  | turns + 1, engine =>
      match selectProfile cfg elapsedSlots flush carbonForecast engine with
      | none => engine
      | some picked =>
          match claimBatch cfg picked with
          | none => picked
          | some claimed =>
              if engine.spawned < claimed.spawned then
                dispatchTurns elapsedSlots flush carbonForecast turns claimed
              else
                claimed

/-- A dispatch pass. -/
def dispatchBatchWorkers (elapsedSlots : ℕ) (flush : Bool)
    (carbonForecast : List ℚ) (engine : Engine σ) : Engine σ :=
  dispatchTurns cfg elapsedSlots flush carbonForecast
    (cfg.maxWorkers - engine.scheduler.activeWorkers) engine

/-- One iteration of the main loop, from what it read and the state in which
it starts to dispatch. -/
def mainLoopIteration (batchTimeoutSecs : ℚ) (loop : LoopState)
    (reading : LoopReading) (engine : Engine σ) : LoopState × Engine σ :=
  let slot := dispatchSlot cfg reading.elapsedSlots
  let current := engine.withShared (engine.shared.setCurrentSlot slot)
  let dispatch := fun flush =>
    dispatchBatchWorkers cfg reading.elapsedSlots flush reading.carbonForecast
      current
  match dispatchPass cfg batchTimeoutSecs loop reading with
  | .fullBatches => (loop, dispatch false)
  | .flush =>
      let after := dispatch true
      ({ lastFlushSlot := slot
         flushBacklog := hasRetryableProfilePending after slot },
        after)
  | .timeoutFlush =>
      let after := dispatch true
      ({ loop with flushBacklog := hasRetryableProfilePending after slot },
        after)
  | .idle => (loop, current)

end MainLoop

/-! ## Picking and claiming -/

section Claims

variable {cfg : Config} {engine : Engine σ}

/-- A profile is picked as soon as one qualifies. -/
theorem exists_nextProfileToDispatch
    {pendingByProfile : List (QosProfileId × ℕ)}
    {scheduler : SchedulerMutableState σ} {slot : ℤ} {minPending : ℕ}
    {entry : QosProfileId × ℕ} (queued : entry ∈ pendingByProfile)
    (qualified : dispatchable scheduler slot minPending entry = true) :
    ∃ chosen,
      nextProfileToDispatch pendingByProfile scheduler slot minPending =
        some chosen := by
  unfold nextProfileToDispatch
  dsimp only
  generalize sorted : List.insertionSort
    (fun left right : QosProfileId × ℕ => left.1 ≤ right.1)
    (pendingByProfile.filter (dispatchable scheduler slot minPending)) = eligible
  have member : entry ∈ eligible := by
    rw [← sorted, List.mem_insertionSort]
    exact List.mem_filter.mpr ⟨queued, qualified⟩
  have nonempty : 0 < eligible.length := List.length_pos_of_mem member
  cases found : scheduler.lastDispatchedProfile.bind fun cursor =>
      eligible.findIdx? fun entry => !decide (entry.1 ≤ cursor) with
  | none => exact ⟨eligible[0], List.getElem?_eq_getElem nonempty⟩
  | some index =>
      obtain ⟨cursor, _, position⟩ := Option.bind_eq_some_iff.mp found
      have bound : index < eligible.length :=
        (List.findIdx?_eq_some_iff_getElem.mp position).1
      exact ⟨eligible[index], List.getElem?_eq_getElem bound⟩

theorem nextProfileToDispatch_mem
    {pendingByProfile : List (QosProfileId × ℕ)}
    {scheduler : SchedulerMutableState σ} {slot : ℤ} {minPending : ℕ}
    {chosen : QosProfileId × ℕ}
    (picked : nextProfileToDispatch pendingByProfile scheduler slot minPending =
      some chosen) :
    chosen ∈ pendingByProfile ∧
      dispatchable scheduler slot minPending chosen = true := by
  have member := List.mem_of_getElem? picked
  rw [List.mem_insertionSort] at member
  exact List.mem_filter.mp member

/-- The queued profiles with their numbers of requests. -/
theorem mem_pendingProfileCounts_iff
    {state : SharedState} {profileId : QosProfileId} {count : ℕ} :
    (profileId, count) ∈ state.pendingProfileCounts ↔
      0 < count ∧
        count = state.pending.countP
          fun request => request.qosProfileId = profileId := by
  unfold SharedState.pendingProfileCounts
  simp only [List.mem_map, List.mem_insertionSort, List.mem_dedup,
    Prod.mk.injEq]
  constructor
  · rintro ⟨_, ⟨request, member, rfl⟩, rfl, rfl⟩
    exact ⟨List.countP_pos_iff.mpr ⟨request, member, by simp⟩, rfl⟩
  · rintro ⟨positive, rfl⟩
    obtain ⟨request, member, own⟩ := List.countP_pos_iff.mp positive
    exact ⟨profileId, ⟨request, member, by simpa using own⟩, rfl, rfl⟩

/-- A claim takes as many of the profile's requests as it may. -/
theorem length_splitClaim
    (profileId : QosProfileId) (count : ℕ) (requests : List Request) :
    (SharedState.splitClaim profileId count requests).1.length =
      min count
        (requests.countP fun request => request.qosProfileId = profileId) := by
  induction requests generalizing count with
  | nil => cases count <;> simp [SharedState.splitClaim]
  | cons request rest inductionHypothesis =>
      cases count with
      | zero => simp [SharedState.splitClaim]
      | succ count =>
          rw [SharedState.splitClaim]
          split
          · rename_i own
            rw [List.countP_cons_of_pos (by simpa using own)]
            dsimp only
            rw [List.length_cons, inductionHypothesis count]
            omega
          · rename_i foreign
            rw [List.countP_cons_of_neg (by simpa using foreign)]
            exact inductionHypothesis (count + 1)

/-- A claim spawns a worker with a batch of the picked profile, or it spawns
no worker. -/
theorem claimBatch_cases
    {selection : ProfileSelection} {next : Engine σ}
    (picked : engine.selecting = some selection)
    (taken : claimBatch cfg engine = some next) :
    let claimed := (SharedState.splitClaim selection.profileId
      (min selection.profilePendingCount cfg.solver.batchSize)
      engine.shared.pending).1
    (claimed ≠ [] ∧ selection.minPending ≤ claimed.length ∧
        next.selecting = none ∧ next.spawned = engine.spawned + 1 ∧
        next.workers =
          engine.workers.insert engine.spawned
            (spawnWorker selection claimed) ∧
        next.scheduler.activeWorkers = engine.scheduler.activeWorkers + 1) ∨
      ((claimed = [] ∨ claimed.length < selection.minPending) ∧
        next.spawned = engine.spawned ∧ next.workers = engine.workers) := by
  intro claimed
  rw [claimBatch, picked, Option.map_some, Option.some_inj] at taken
  dsimp only [SharedState.claimPendingRequestsForProfile] at taken
  split at taken
  · rename_i empty
    subst taken
    exact Or.inr ⟨Or.inl (List.isEmpty_iff.mp empty), rfl, rfl⟩
  · rename_i nonempty
    split at taken
    · rename_i short
      subst taken
      exact Or.inr ⟨Or.inr short, rfl, rfl⟩
    · rename_i enough
      subst taken
      exact Or.inl ⟨fun empty => nonempty (List.isEmpty_iff.mpr empty),
        Nat.not_lt.mp enough, rfl, rfl, rfl, rfl⟩

theorem selectProfile_cases
    {elapsedSlots : ℕ} {flush : Bool} {carbonForecast : List ℚ}
    {next : Engine σ}
    (taken : selectProfile cfg elapsedSlots flush carbonForecast engine =
      some next) :
    ∃ chosen,
      nextProfileToDispatch engine.shared.pendingProfileCounts engine.scheduler
          (dispatchSlot cfg elapsedSlots)
          (if flush then 1 else cfg.solver.batchSize) = some chosen ∧
        next =
          { engine with
            selecting :=
              some
                { slot := dispatchSlot cfg elapsedSlots
                  minPending := if flush then 1 else cfg.solver.batchSize
                  profileId := chosen.1
                  profilePendingCount := chosen.2
                  carbonForecast := carbonForecast } } := by
  unfold selectProfile at taken
  dsimp only at taken
  split at taken
  · cases taken
  · obtain ⟨chosen, picked, rfl⟩ := Option.map_eq_some_iff.mp taken
    exact ⟨chosen, picked, rfl⟩

/-- A turn that claims a batch spawns a worker for the picked profile. -/
private theorem spawned_of_turn
    {elapsedSlots : ℕ} {flush : Bool} {carbonForecast : List ℚ}
    {picked claimed : Engine σ}
    (selected : selectProfile cfg elapsedSlots flush carbonForecast engine =
      some picked)
    (taken : claimBatch cfg picked = some claimed)
    (spawns : engine.spawned < claimed.spawned) :
    ∃ selection batch,
      claimed.workers =
          engine.workers.insert engine.spawned (spawnWorker selection batch) ∧
        claimed.spawned = engine.spawned + 1 ∧
        batch ≠ [] ∧
        batch = (SharedState.splitClaim selection.profileId
          (min selection.profilePendingCount cfg.solver.batchSize)
          engine.shared.pending).1 ∧
        (selection.profileId, selection.profilePendingCount) ∈
          engine.shared.pendingProfileCounts ∧
        dispatchable engine.scheduler (dispatchSlot cfg elapsedSlots)
          (if flush then 1 else cfg.solver.batchSize)
          (selection.profileId, selection.profilePendingCount) = true := by
  obtain ⟨chosen, next, rfl⟩ := selectProfile_cases selected
  obtain ⟨queued, qualified⟩ := nextProfileToDispatch_mem next
  rcases claimBatch_cases rfl taken with
    ⟨nonempty, _, _, spawned, workers, _⟩ | ⟨_, unspawned, _⟩
  · exact ⟨_, _, workers, spawned, nonempty, rfl, queued, qualified⟩
  · exact absurd (unspawned ▸ spawns) (lt_irrefl _)

/-- A turn claims a batch and goes on, or it spawns nothing and is the last. -/
private theorem dispatchTurns_succ_cases
    (cfg : Config) (engine : Engine σ) (elapsedSlots : ℕ) (flush : Bool)
    (carbonForecast : List ℚ) (turns : ℕ) :
    (∃ picked claimed,
        selectProfile cfg elapsedSlots flush carbonForecast engine =
            some picked ∧
          claimBatch cfg picked = some claimed ∧
          engine.spawned < claimed.spawned ∧
          dispatchTurns cfg elapsedSlots flush carbonForecast (turns + 1)
              engine =
            dispatchTurns cfg elapsedSlots flush carbonForecast turns
              claimed) ∨
      ((dispatchTurns cfg elapsedSlots flush carbonForecast (turns + 1)
            engine).spawned = engine.spawned ∧
        (dispatchTurns cfg elapsedSlots flush carbonForecast (turns + 1)
            engine).workers = engine.workers) := by
  rw [dispatchTurns]
  cases selected :
      selectProfile cfg elapsedSlots flush carbonForecast engine with
  | none => exact Or.inr ⟨rfl, rfl⟩
  | some picked =>
      obtain ⟨chosen, _, rfl⟩ := selectProfile_cases selected
      dsimp only
      cases taken : claimBatch cfg _ with
      | none => exact Or.inr ⟨rfl, rfl⟩
      | some claimed =>
          dsimp only
          by_cases spawns : engine.spawned < claimed.spawned
          · rw [if_pos spawns]
            exact Or.inl ⟨_, claimed, rfl, taken, spawns, rfl⟩
          · rw [if_neg spawns]
            rcases claimBatch_cases rfl taken with
              ⟨_, _, _, spawned, _⟩ | ⟨_, spawned, workers⟩
            · exact absurd (spawned ▸ Nat.lt_succ_self _) spawns
            · exact Or.inr ⟨spawned, workers⟩

/-- Later turns keep the workers there are. -/
private theorem lookup_dispatchTurns
    (cfg : Config) (elapsedSlots : ℕ) (flush : Bool)
    (carbonForecast : List ℚ) (turns : ℕ) {engine : Engine σ}
    {workerId : ℕ} (known : workerId < engine.spawned) :
    engine.spawned ≤
        (dispatchTurns cfg elapsedSlots flush carbonForecast turns
          engine).spawned ∧
      (dispatchTurns cfg elapsedSlots flush carbonForecast turns
          engine).workers.lookup workerId =
        engine.workers.lookup workerId := by
  induction turns generalizing engine with
  | zero => exact ⟨le_refl _, rfl⟩
  | succ turns inductionHypothesis =>
      rcases dispatchTurns_succ_cases cfg engine elapsedSlots flush
          carbonForecast turns with
        ⟨picked, claimed, selected, taken, spawns, goesOn⟩ |
          ⟨spawned, workers⟩
      · obtain ⟨_, _, inserted, _⟩ := spawned_of_turn selected taken spawns
        obtain ⟨more, kept⟩ := inductionHypothesis (known.trans spawns)
        rw [goesOn]
        refine ⟨spawns.le.trans more, kept.trans ?_⟩
        rw [inserted, AList.lookup_insert_ne known.ne]
      · exact ⟨spawned.ge, by rw [workers]⟩

/-- A pass ends before it runs out of turns. -/
theorem dispatchTurns_enough
    {elapsedSlots : ℕ} {flush : Bool} {carbonForecast : List ℚ} {turns : ℕ}
    (enough : cfg.maxWorkers - engine.scheduler.activeWorkers ≤ turns) :
    dispatchTurns cfg elapsedSlots flush carbonForecast (turns + 1) engine =
      dispatchTurns cfg elapsedSlots flush carbonForecast turns engine := by
  induction turns generalizing engine with
  | zero =>
      have busy : cfg.maxWorkers ≤ engine.scheduler.activeWorkers := by omega
      have full :
          selectProfile cfg elapsedSlots flush carbonForecast engine = none := by
        unfold selectProfile
        dsimp only
        exact if_pos (by simp [busy])
      rw [dispatchTurns.eq_2, full]
      rfl
  | succ turns inductionHypothesis =>
      rw [dispatchTurns]
      conv_rhs => rw [dispatchTurns]
      cases selected :
          selectProfile cfg elapsedSlots flush carbonForecast engine with
      | none => rfl
      | some picked =>
          obtain ⟨chosen, _, rfl⟩ := selectProfile_cases selected
          dsimp only
          cases taken : claimBatch cfg _ with
          | none => rfl
          | some claimed =>
              dsimp only
              by_cases spawns : engine.spawned < claimed.spawned
              · rw [if_pos spawns, if_pos spawns]
                refine inductionHypothesis ?_
                rcases claimBatch_cases rfl taken with
                  ⟨_, _, _, _, _, active⟩ | ⟨_, spawned, _⟩
                · dsimp only at active
                  omega
                · exact absurd (spawned ▸ spawns) (lt_irrefl _)
              · rw [if_neg spawns, if_neg spawns]

end Claims

/-! ## Progress of a flush -/

/-- A batch of a queued profile was claimed that was neither in flight nor
suppressed. -/
def ClaimsBatch (slot : ℤ) (engine after : Engine σ) : Prop :=
  engine.spawned < after.spawned ∧
    ∃ worker,
      after.workers.lookup engine.spawned = some worker ∧
        worker.pending ≠ [] ∧
        (∀ request ∈ worker.pending,
          request.qosProfileId = worker.profileId) ∧
        ∃ count,
          (worker.profileId, count) ∈ engine.shared.pendingProfileCounts ∧
            dispatchable engine.scheduler slot 1 (worker.profileId, count) =
              true

section Progress

variable {cfg : Config} {engine : Engine σ}

theorem dispatchable_of_le
    {scheduler : SchedulerMutableState σ} {slot : ℤ} {smaller larger : ℕ}
    {entry : QosProfileId × ℕ} (ordered : smaller ≤ entry.2)
    (qualified : dispatchable scheduler slot larger entry = true) :
    dispatchable scheduler slot smaller entry = true := by
  simp only [dispatchable, Bool.and_eq_true, decide_eq_true_eq] at qualified ⊢
  exact ⟨⟨ordered, qualified.1.2⟩, qualified.2⟩

private theorem exists_dispatchable_of_claimsBatch
    {slot : ℤ} {elapsedSlots turns : ℕ} {flush : Bool}
    {carbonForecast : List ℚ}
    (progress : ClaimsBatch slot engine
      (dispatchTurns cfg elapsedSlots flush carbonForecast turns engine)) :
    0 < cfg.solver.batchSize ∧
      ∃ entry ∈ engine.shared.pendingProfileCounts,
        dispatchable engine.scheduler (dispatchSlot cfg elapsedSlots)
          (if flush then 1 else cfg.solver.batchSize) entry = true := by
  cases turns with
  | zero => exact absurd progress.1 (lt_irrefl _)
  | succ turns =>
      rcases dispatchTurns_succ_cases cfg engine elapsedSlots flush
          carbonForecast turns with
        ⟨picked, claimed, selected, taken, spawns, _⟩ | ⟨spawned, _⟩
      · obtain ⟨selection, batch, _, _, nonempty, split_, queued, qualified⟩ :=
          spawned_of_turn selected taken spawns
        refine ⟨?_, _, queued, qualified⟩
        have length := length_splitClaim selection.profileId
          (min selection.profilePendingCount cfg.solver.batchSize)
          engine.shared.pending
        rw [← split_] at length
        have positive := List.length_pos_iff.mpr nonempty
        omega
      · exact absurd progress.1 (by rw [spawned]; exact lt_irrefl _)

private theorem claimsBatch_of_dispatchable
    {elapsedSlots turns : ℕ} {flush : Bool} {carbonForecast : List ℚ}
    (idle : engine.selecting = none)
    (free : engine.scheduler.activeWorkers < cfg.maxWorkers)
    (batches : 0 < cfg.solver.batchSize)
    {entry : QosProfileId × ℕ}
    (queued : entry ∈ engine.shared.pendingProfileCounts)
    (qualified : dispatchable engine.scheduler (dispatchSlot cfg elapsedSlots)
      (if flush then 1 else cfg.solver.batchSize) entry = true) :
    ClaimsBatch (dispatchSlot cfg elapsedSlots) engine
      (dispatchTurns cfg elapsedSlots flush carbonForecast (turns + 1)
        engine) := by
  obtain ⟨chosen, next⟩ := exists_nextProfileToDispatch queued qualified
  obtain ⟨present, allowed⟩ := nextProfileToDispatch_mem next
  obtain ⟨positive, counted⟩ := mem_pendingProfileCounts_iff.mp present
  have enough : (if flush then 1 else cfg.solver.batchSize) ≤ chosen.2 := by
    simp only [dispatchable, Bool.and_eq_true, decide_eq_true_eq] at allowed
    exact allowed.1.1
  obtain ⟨picked, selected⟩ : ∃ picked,
      selectProfile cfg elapsedSlots flush carbonForecast engine =
        some picked := by
    unfold selectProfile
    dsimp only
    rw [if_neg (by simp [idle, free]), next]
    exact ⟨_, rfl⟩
  obtain ⟨_, again, unclaimed⟩ := selectProfile_cases selected
  cases again.symm.trans next
  obtain ⟨selection, selecting, same, least⟩ : ∃ selection,
      picked.selecting = some selection ∧
        (selection.profileId, selection.profilePendingCount) = chosen ∧
        selection.minPending = if flush then 1 else cfg.solver.batchSize := by
    rw [unclaimed]
    exact ⟨_, rfl, rfl, rfl⟩
  subst same
  have shared : picked.shared = engine.shared := by rw [unclaimed]
  have spawned : picked.spawned = engine.spawned := by rw [unclaimed]
  have length := length_splitClaim selection.profileId
    (min selection.profilePendingCount cfg.solver.batchSize)
    engine.shared.pending
  have fits : (if flush then 1 else cfg.solver.batchSize) ≤
      cfg.solver.batchSize := by
    split <;> omega
  obtain ⟨claimed, taken⟩ : ∃ claimed, claimBatch cfg picked = some claimed := by
    rw [claimBatch, selecting]
    exact ⟨_, rfl⟩
  rcases claimBatch_cases selecting taken with
    ⟨nonempty, _, _, more, workers, _⟩ | ⟨failed, _⟩
  · have spawns : engine.spawned < claimed.spawned := by omega
    have goesOn : dispatchTurns cfg elapsedSlots flush carbonForecast
        (turns + 1) engine =
          dispatchTurns cfg elapsedSlots flush carbonForecast turns
            claimed := by
      rw [dispatchTurns, selected]
      dsimp only
      rw [taken]
      exact if_pos spawns
    obtain ⟨kept, lookup⟩ := lookup_dispatchTurns cfg elapsedSlots flush
      carbonForecast turns spawns
    rw [goesOn]
    refine ⟨spawns.trans_le kept, spawnWorker selection _, lookup.trans ?_,
      nonempty, (SharedState.splitClaim_spec _ _ _).2,
      selection.profilePendingCount, present,
      dispatchable_of_le positive allowed⟩
    rw [workers, spawned, AList.lookup_insert]
  · rw [shared] at failed
    dsimp only at enough counted
    rcases failed with empty | short
    · rw [empty, List.length_nil] at length
      omega
    · omega

/-- A pass claims a batch exactly when some profile qualifies for it. -/
theorem claimsBatch_dispatchBatchWorkers_iff
    (engine : Engine σ)
    {elapsedSlots : ℕ} {flush : Bool} {carbonForecast : List ℚ}
    (idle : engine.selecting = none)
    (free : engine.scheduler.activeWorkers < cfg.maxWorkers) :
    ClaimsBatch (dispatchSlot cfg elapsedSlots) engine
        (dispatchBatchWorkers cfg elapsedSlots flush carbonForecast engine) ↔
      0 < cfg.solver.batchSize ∧
        ∃ entry ∈ engine.shared.pendingProfileCounts,
          dispatchable engine.scheduler (dispatchSlot cfg elapsedSlots)
            (if flush then 1 else cfg.solver.batchSize) entry = true := by
  obtain ⟨turns, enough⟩ :=
    Nat.exists_eq_succ_of_ne_zero (Nat.sub_pos_of_lt free).ne'
  rw [dispatchBatchWorkers, enough]
  constructor
  · exact exists_dispatchable_of_claimsBatch
  · rintro ⟨batches, entry, queued, qualified⟩
    exact claimsBatch_of_dispatchable idle free batches queued qualified

/-- A flush of the current slot is requested, a worker slot is free when the
loop looks and when it dispatches, and some profile waits that is neither in
flight nor suppressed. -/
structure FlushDue (cfg : Config) (reading : LoopReading) (engine : Engine σ) :
    Prop where
  requested : reading.closeSlotFlush = true
  queued : 0 < reading.pendingCount
  freeWhenRead : reading.activeWorkers < cfg.solver.maxBatchSolverParallelism
  idle : engine.selecting = none
  free : engine.scheduler.activeWorkers < cfg.maxWorkers
  waiting : ∃ entry ∈ engine.shared.pendingProfileCounts,
    dispatchable engine.scheduler (dispatchSlot cfg reading.elapsedSlots) 1
      entry = true

/-- A requested flush claims a batch exactly when batches are not empty and no
profile fills one, or some profile that fills one can run. -/
theorem flush_claims_batch_iff
    {reading : LoopReading} (due : FlushDue cfg reading engine)
    (batchTimeoutSecs : ℚ) (loop : LoopState) :
    ClaimsBatch (dispatchSlot cfg reading.elapsedSlots) engine
        (mainLoopIteration cfg batchTimeoutSecs loop reading engine).2 ↔
      0 < cfg.solver.batchSize ∧
        (hasFullProfileBatch cfg reading = true →
          ∃ entry ∈ engine.shared.pendingProfileCounts,
            dispatchable engine.scheduler
              (dispatchSlot cfg reading.elapsedSlots) cfg.solver.batchSize
              entry = true) := by
  have pass : ∀ flush,
      ClaimsBatch (dispatchSlot cfg reading.elapsedSlots) engine
          (dispatchBatchWorkers cfg reading.elapsedSlots flush
            reading.carbonForecast
            (engine.withShared (engine.shared.setCurrentSlot
              (dispatchSlot cfg reading.elapsedSlots)))) ↔
        0 < cfg.solver.batchSize ∧
          ∃ entry ∈ engine.shared.pendingProfileCounts,
            dispatchable engine.scheduler
              (dispatchSlot cfg reading.elapsedSlots)
              (if flush then 1 else cfg.solver.batchSize) entry = true :=
    fun flush => claimsBatch_dispatchBatchWorkers_iff
      (engine.withShared (engine.shared.setCurrentSlot
        (dispatchSlot cfg reading.elapsedSlots))) due.idle due.free
  have workerFree : decide (reading.activeWorkers <
      cfg.solver.maxBatchSolverParallelism) = true :=
    decide_eq_true due.freeWhenRead
  cases full : hasFullProfileBatch cfg reading with
  | true =>
      have chosen : dispatchPass cfg batchTimeoutSecs loop reading =
          .fullBatches := by
        rw [dispatchPass, full, workerFree]
        rfl
      rw [mainLoopIteration, chosen]
      simpa using pass false
  | false =>
      have chosen : dispatchPass cfg batchTimeoutSecs loop reading = .flush := by
        rw [dispatchPass, full, workerFree, due.requested,
          decide_eq_true due.queued]
        rfl
      rw [mainLoopIteration, chosen]
      refine (pass true).trans ?_
      simp only [if_true, due.waiting, and_true, Bool.false_eq_true,
        false_implies]

end Progress

/-! ## A full profile in flight -/

/-- Batches of two requests. -/
def pairConfig : Config :=
  { Config.default with
    solver := { SolverConfig.default with batchSize := 2 } }

/-- A profile fills a second batch while its first one is being solved, and
another profile has a single request. -/
def fullInFlightRun : List Action :=
  [.addRequests [.new 0 1 0 0, .new 0 2 0 0],
    .selectProfile 0 false (List.replicate 24 1), .claimBatch,
    .addRequests [.new 0 3 0 0, .new 0 4 0 0],
    .addRequest { Request.new 0 5 0 0 with qosProfileId := ⟨"interactive"⟩ }]

/-- Is a flush due, and does the iteration start a worker? -/
private def flushOutcome (cfg : Config) (reading : LoopReading)
    (engine : Engine σ) : Bool × Bool :=
  (reading.closeSlotFlush && decide (0 < reading.pendingCount) &&
      decide (reading.activeWorkers < cfg.solver.maxBatchSolverParallelism) &&
      engine.selecting.isNone &&
      decide (engine.scheduler.activeWorkers < cfg.maxWorkers) &&
      engine.shared.pendingProfileCounts.any (dispatchable engine.scheduler
        (dispatchSlot cfg reading.elapsedSlots) 1),
    decide (engine.spawned <
      (mainLoopIteration cfg 0 { lastFlushSlot := -1, flushBacklog := false }
        reading engine).2.spawned))

private theorem flushDue_of_outcome
    {cfg : Config} {reading : LoopReading} {engine : Engine σ}
    (checks : (flushOutcome cfg reading engine).1 = true) :
    FlushDue cfg reading engine := by
  simp only [flushOutcome, Bool.and_eq_true, decide_eq_true_eq,
    Option.isNone_iff_eq_none, List.any_eq_true] at checks
  obtain ⟨⟨⟨⟨⟨requested, queued⟩, freeWhenRead⟩, idle⟩, free⟩, waiting⟩ := checks
  exact ⟨requested, queued, freeWhenRead, idle, free, waiting⟩

/-- The single request is not flushed, because the other profile is full. -/
theorem flush_passes_over_partial_profile :
    ∃ engine,
      Transition.run (step pairConfig .least) (new pairConfig)
          fullInFlightRun = some engine ∧
        FlushDue pairConfig (readLoop engine 0 0 true (List.replicate 24 1))
          engine ∧
        ¬ ClaimsBatch 0 engine
          (mainLoopIteration pairConfig 0
            { lastFlushSlot := -1, flushBacklog := false }
            (readLoop engine 0 0 true (List.replicate 24 1)) engine).2 := by
  have computed :
      (Transition.run (step pairConfig .least) (new pairConfig)
          fullInFlightRun).map (fun engine =>
        flushOutcome pairConfig
          (readLoop engine 0 0 true (List.replicate 24 1)) engine) =
        some (true, false) := by
    decide +kernel
  obtain ⟨engine, reached, outcome⟩ := Option.map_eq_some_iff.mp computed
  refine ⟨engine, reached,
    flushDue_of_outcome (congrArg Prod.fst outcome), fun claims => ?_⟩
  have started := congrArg Prod.snd outcome
  rw [flushOutcome, decide_eq_false_iff_not] at started
  exact started claims.1

/-- A batch of one profile is being solved and a single request of it waits;
another profile has a single request, too. -/
def singlesInFlightRun : List Action :=
  [.addRequests [.new 0 1 0 0, .new 0 2 0 0],
    .selectProfile 0 false (List.replicate 24 1), .claimBatch,
    .addRequest (.new 0 3 0 0),
    .addRequest { Request.new 0 5 0 0 with qosProfileId := ⟨"interactive"⟩ }]

/-- With nothing but partial batches, the request of the profile that is not
in flight is flushed. -/
theorem flush_claims_batch_alone :
    ∃ engine,
      Transition.run (step pairConfig .least) (new pairConfig)
          singlesInFlightRun = some engine ∧
        .defaultProfile ∈ engine.scheduler.activeProfiles ∧
        ClaimsBatch 0 engine
          (mainLoopIteration pairConfig 0
            { lastFlushSlot := -1, flushBacklog := false }
            (readLoop engine 0 0 true (List.replicate 24 1)) engine).2 := by
  have computed :
      (Transition.run (step pairConfig .least) (new pairConfig)
          singlesInFlightRun).map (fun engine =>
        (flushOutcome pairConfig
            (readLoop engine 0 0 true (List.replicate 24 1)) engine,
          decide (.defaultProfile ∈ engine.scheduler.activeProfiles),
          hasFullProfileBatch pairConfig
            (readLoop engine 0 0 true (List.replicate 24 1)))) =
        some ((true, true), true, false) := by
    decide +kernel
  obtain ⟨engine, reached, outcome⟩ := Option.map_eq_some_iff.mp computed
  obtain ⟨flushed, outcome⟩ := Prod.mk.inj outcome
  obtain ⟨inFlight, unfilled⟩ := Prod.mk.inj outcome
  refine ⟨engine, reached, of_decide_eq_true inFlight, ?_⟩
  refine (flush_claims_batch_iff
    (flushDue_of_outcome (congrArg Prod.fst flushed)) 0
    { lastFlushSlot := -1, flushBacklog := false }).mpr
    ⟨by decide, fun full => ?_⟩
  rw [unfilled] at full
  cases full

end Engine

end Carbonshift
