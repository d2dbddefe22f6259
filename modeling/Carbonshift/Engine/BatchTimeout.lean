import Carbonshift.Engine.DispatchSteps
import Carbonshift.Engine.MainLoop
import Mathlib.Data.Fintype.EquivFin

/-!
# The batch timeout

The age of the queue is that of its first request, by the arrival time the
request carries.  Here every queued request also remembers the virtual time
at which it was added.  The reported age covers every wait as long as arrival
times are on the virtual clock and no requeue puts a request in front of one
that was added earlier.
-/

namespace Carbonshift

/-- A queued request and the virtual time at which it was added. -/
structure TimedRequest where
  request : Request
  addedAtMs : ℕ
  deriving DecidableEq, Repr

/-- The arrival time in milliseconds, as the age is computed from it. -/
def Request.arrivalMs (request : Request) : ℕ :=
  (request.arrivalTime * 1000).floor.toNat

/-- The virtual clock, the queue, and the batches that are claimed. -/
structure TimedQueue where
  virtualElapsedMs : ℕ
  pending : List TimedRequest
  claimed : Dictionary ℕ (List TimedRequest)

namespace TimedQueue

/-- Forget when the requests were added. -/
def requests (timed : List TimedRequest) : List Request :=
  timed.map TimedRequest.request

/-- The queue as the shared state holds it. -/
def shared (queue : TimedQueue) : SharedState :=
  { SharedState.new with pending := requests queue.pending }

def empty : TimedQueue where
  virtualElapsedMs := 0
  pending := []
  claimed := ∅

/-! ## Steps -/

inductive QueueAction where
  | submit (requests : List Request)
  | claim (holder : ℕ) (profileId : QosProfileId) (count : ℕ)
  | requeue (holder : ℕ)
  /-- The batch of a holder is committed. -/
  | settle (holder : ℕ)
  | setVirtualElapsedMs (elapsedMs : ℕ)

/-- Split off the first `count` requests of a profile. -/
def splitTimed (profileId : QosProfileId) :
    ℕ → List TimedRequest → List TimedRequest × List TimedRequest
  | _, [] => ([], [])
  | 0, timed :: rest => ([], timed :: rest)
  | count + 1, timed :: rest =>
      if timed.request.qosProfileId = profileId then
        let parts := splitTimed profileId count rest
        (timed :: parts.1, parts.2)
      else
        let parts := splitTimed profileId (count + 1) rest
        (parts.1, timed :: parts.2)

def step (queue : TimedQueue) : QueueAction → Option TimedQueue
  | .submit requests =>
      some
        { queue with
          pending :=
            queue.pending ++ requests.map fun request =>
              { request := request, addedAtMs := queue.virtualElapsedMs } }
  | .claim holder profileId count =>
      let parts := splitTimed profileId count queue.pending
      some
        { queue with
          pending := parts.2
          claimed := queue.claimed.insert holder parts.1 }
  | .requeue holder =>
      (queue.claimed.lookup holder).map fun batch =>
        { queue with
          pending := batch ++ queue.pending
          claimed := queue.claimed.erase holder }
  | .settle holder =>
      some { queue with claimed := queue.claimed.erase holder }
  | .setVirtualElapsedMs elapsedMs =>
      some { queue with virtualElapsedMs := elapsedMs }

/-! ## The timeout -/

/-- How long a request has been waiting. -/
def waitedMs (queue : TimedQueue) (waiting : TimedRequest) : ℕ :=
  queue.virtualElapsedMs - waiting.addedAtMs

/-- The age the main loop reads. -/
def reportedAgeMs (queue : TimedQueue) : Option ℕ :=
  queue.shared.getOldestPendingAgeMs queue.virtualElapsedMs

/-- An iteration of the main loop gets as far as the timeout. -/
structure ReachesTimeout (cfg : Config) (loop : LoopState)
    (reading : LoopReading) (queue : TimedQueue) : Prop where
  age_eq : reading.oldestPendingAgeMs = queue.reportedAgeMs
  queued : 0 < reading.pendingCount
  workerFree : reading.activeWorkers < cfg.solver.maxBatchSolverParallelism
  notFull : Engine.hasFullProfileBatch cfg reading = false
  notDue :
    (reading.closeSlotFlush ||
      decide (loop.lastFlushSlot < Engine.dispatchSlot cfg
        reading.elapsedSlots) || loop.flushBacklog) = false

/-- Once a request has waited for the timeout, the reported age covers its
wait, and the main loop flushes. -/
structure TimeoutFires (batchTimeoutSecs : ℚ) (queue : TimedQueue) :
    Prop where
  reports : ∀ waiting ∈ queue.pending,
    batchTimeoutSecs * 1000 ≤ queue.waitedMs waiting →
      ∃ ageMs, queue.reportedAgeMs = some ageMs ∧
        queue.waitedMs waiting ≤ ageMs
  flushes : ∀ waiting ∈ queue.pending, 0 < batchTimeoutSecs →
    batchTimeoutSecs * 1000 ≤ queue.waitedMs waiting →
      ∀ cfg loop reading, ReachesTimeout cfg loop reading queue →
        Engine.dispatchPass cfg batchTimeoutSecs loop reading = .timeoutFlush

/-- Requests arrive on the virtual clock, which does not stand before the time
at which a queued one was added, and a requeue puts no request in front of one
that was added earlier. -/
def InOrder (queue : TimedQueue) : QueueAction → Prop
  | .submit requests =>
      (∀ request ∈ requests, request.arrivalMs ≤ queue.virtualElapsedMs) ∧
        ∀ waiting ∈ queue.pending, waiting.addedAtMs ≤ queue.virtualElapsedMs
  | .requeue holder =>
      ∀ batch, queue.claimed.lookup holder = some batch →
        ∀ claimed ∈ batch, ∀ waiting ∈ queue.pending,
          claimed.addedAtMs ≤ waiting.addedAtMs
  | _ => True

instance (queue : TimedQueue) : DecidablePred (InOrder queue)
  | .submit requests =>
      inferInstanceAs (Decidable ((∀ request ∈ requests, _) ∧ _))
  | .requeue holder =>
      inferInstanceAs (Decidable (∀ batch ∈ queue.claimed.lookup holder, _))
  | .claim _ _ _ => isTrue trivial
  | .settle _ => isTrue trivial
  | .setVirtualElapsedMs _ => isTrue trivial

/-! ## A claim -/

/-- Both parts of a claim keep the order of the queue. -/
theorem splitTimed_sublist (profileId : QosProfileId) (count : ℕ)
    (timed : List TimedRequest) :
    (splitTimed profileId count timed).1.Sublist timed ∧
      (splitTimed profileId count timed).2.Sublist timed := by
  induction timed generalizing count with
  | nil => cases count <;> exact ⟨List.Sublist.slnil, List.Sublist.slnil⟩
  | cons first rest inductionHypothesis =>
      cases count with
      | zero => exact ⟨List.nil_sublist _, List.Sublist.refl _⟩
      | succ count =>
          rw [splitTimed]
          split
          · obtain ⟨claimed, kept⟩ := inductionHypothesis count
            exact ⟨claimed.cons_cons first, kept.cons first⟩
          · obtain ⟨claimed, kept⟩ := inductionHypothesis (count + 1)
            exact ⟨claimed.cons first, kept.cons_cons first⟩

/-- The claim is that of the shared state. -/
theorem requests_splitTimed (profileId : QosProfileId) (count : ℕ)
    (timed : List TimedRequest) :
    SharedState.splitClaim profileId count (requests timed) =
      (requests (splitTimed profileId count timed).1,
        requests (splitTimed profileId count timed).2) := by
  induction timed generalizing count with
  | nil => cases count <;> rfl
  | cons first rest inductionHypothesis =>
      cases count with
      | zero => rfl
      | succ count =>
          rw [splitTimed, requests, List.map_cons, SharedState.splitClaim]
          split
          · exact congrArg
              (fun parts : List Request × List Request =>
                (first.request :: parts.1, parts.2))
              (inductionHypothesis count)
          · exact congrArg
              (fun parts : List Request × List Request =>
                (parts.1, first.request :: parts.2))
              (inductionHypothesis (count + 1))

/-! ## The invariant -/

/-- Added in this order, and stamped no later than added. -/
structure Ordered (timed : List TimedRequest) : Prop where
  sorted : timed.Pairwise fun earlier later =>
    earlier.addedAtMs ≤ later.addedAtMs
  stamped : ∀ waiting ∈ timed, waiting.request.arrivalMs ≤ waiting.addedAtMs

theorem Ordered.sublist {timed part : List TimedRequest}
    (ordered : Ordered timed) (sublist : part.Sublist timed) :
    Ordered part where
  sorted := ordered.sorted.sublist sublist
  stamped waiting member := ordered.stamped waiting (sublist.subset member)

theorem Ordered.append {front back : List TimedRequest}
    (first : Ordered front) (second : Ordered back)
    (before : ∀ earlier ∈ front, ∀ later ∈ back,
      earlier.addedAtMs ≤ later.addedAtMs) :
    Ordered (front ++ back) where
  sorted := List.pairwise_append.mpr ⟨first.sorted, second.sorted, before⟩
  stamped waiting member := by
    rcases List.mem_append.mp member with ahead | behind
    · exact first.stamped waiting ahead
    · exact second.stamped waiting behind

/-- Queue and claimed batches are in order. -/
structure Orderly (queue : TimedQueue) : Prop where
  pending : Ordered queue.pending
  claimed : ∀ {holder batch},
    queue.claimed.lookup holder = some batch → Ordered batch

theorem orderly_empty : Orderly empty where
  pending := ⟨List.Pairwise.nil, fun _ member => by cases member⟩
  claimed found := by
    have nothing : (none : Option (List TimedRequest)) = some _ := found
    cases nothing

section Steps

variable {queue next : TimedQueue}

private theorem claimed_erase (orderly : Orderly queue) {holder : ℕ}
    {other : ℕ} {batch : List TimedRequest}
    (found : (queue.claimed.erase holder).lookup other = some batch) :
    Ordered batch := by
  by_cases same : other = holder
  · rw [same, AList.lookup_erase] at found
    cases found
  · rw [AList.lookup_erase_ne same] at found
    exact orderly.claimed found

theorem Orderly.step (orderly : Orderly queue) {action : QueueAction}
    (inOrder : InOrder queue action)
    (taken : TimedQueue.step queue action = some next) : Orderly next := by
  cases action with
  | submit requests =>
      cases taken
      obtain ⟨stamped, current⟩ := inOrder
      refine ⟨orderly.pending.append ?_ ?_, orderly.claimed⟩
      · refine ⟨?_, ?_⟩
        · exact List.pairwise_map.mpr
            (List.pairwise_of_forall fun _ _ => le_rfl)
        · intro waiting member
          obtain ⟨request, listed, rfl⟩ := List.mem_map.mp member
          exact stamped request listed
      · intro earlier member later added
        obtain ⟨request, _, rfl⟩ := List.mem_map.mp added
        exact current earlier member
  | claim holder profileId count =>
      cases taken
      obtain ⟨claimed, kept⟩ := splitTimed_sublist profileId count
        queue.pending
      refine ⟨orderly.pending.sublist kept, fun {other batch} found => ?_⟩
      by_cases same : other = holder
      · rw [same, AList.lookup_insert] at found
        cases found
        exact orderly.pending.sublist claimed
      · rw [AList.lookup_insert_ne same] at found
        exact orderly.claimed found
  | requeue holder =>
      obtain ⟨batch, found, rfl⟩ := Option.map_eq_some_iff.mp taken
      exact ⟨(orderly.claimed found).append orderly.pending
        (inOrder batch found), claimed_erase orderly⟩
  | settle holder =>
      cases taken
      exact ⟨orderly.pending, claimed_erase orderly⟩
  | setVirtualElapsedMs elapsedMs =>
      cases taken
      exact ⟨orderly.pending, orderly.claimed⟩

/-- In order, the first request is the oldest. -/
theorem Orderly.reports (orderly : Orderly queue) {waiting : TimedRequest}
    (member : waiting ∈ queue.pending) :
    ∃ ageMs, queue.reportedAgeMs = some ageMs ∧
      queue.waitedMs waiting ≤ ageMs := by
  cases pending_eq : queue.pending with
  | nil =>
      rw [pending_eq] at member
      cases member
  | cons first rest =>
      refine ⟨queue.virtualElapsedMs - first.request.arrivalMs, ?_, ?_⟩
      · rw [reportedAgeMs, SharedState.getOldestPendingAgeMs, shared, requests,
          pending_eq]
        rfl
      · have sorted := orderly.pending.sorted
        have stamped := orderly.pending.stamped first (by simp [pending_eq])
        rw [pending_eq] at sorted member
        have oldest : first.addedAtMs ≤ waiting.addedAtMs := by
          rcases List.mem_cons.mp member with rfl | behind
          · exact le_rfl
          · exact (List.pairwise_cons.mp sorted).1 waiting behind
        unfold waitedMs
        omega

/-- An age beyond the timeout makes the main loop flush. -/
theorem dispatchPass_of_overdue {batchTimeoutSecs : ℚ} {cfg : Config}
    {loop : LoopState} {reading : LoopReading} {ageMs : ℕ}
    (reaches : ReachesTimeout cfg loop reading queue)
    (enabled : 0 < batchTimeoutSecs)
    (reported : queue.reportedAgeMs = some ageMs)
    (overdue : batchTimeoutSecs * 1000 ≤ ageMs) :
    Engine.dispatchPass cfg batchTimeoutSecs loop reading =
      .timeoutFlush := by
  rw [Engine.dispatchPass]
  rw [reaches.notFull, reaches.notDue, reaches.age_eq, reported]
  simp [reaches.queued, reaches.workerFree, enabled, overdue]

theorem Orderly.timeoutFires (orderly : Orderly queue)
    (batchTimeoutSecs : ℚ) : TimeoutFires batchTimeoutSecs queue where
  reports waiting member _ := orderly.reports member
  flushes waiting member enabled overdue cfg loop reading reaches := by
    obtain ⟨ageMs, reported, covers⟩ := orderly.reports member
    refine dispatchPass_of_overdue reaches enabled reported ?_
    exact overdue.trans (by exact_mod_cast covers)

end Steps

/-- In every run whose steps are in order the timeout fires. -/
theorem timeout_fires_of_inOrder {actions : List QueueAction}
    {queue : TimedQueue}
    (inOrder : Transition.Guarded step InOrder empty actions)
    (reached : Transition.run step empty actions = some queue)
    (batchTimeoutSecs : ℚ) : TimeoutFires batchTimeoutSecs queue := by
  have orderly := Transition.guarded_induction
    (fun _ state => Orderly state) orderly_empty
    (fun _ _ _ _ before allowed taken => before.step allowed taken)
    inOrder reached
  exact orderly.timeoutFires batchTimeoutSecs

/-- Arrival times are set on the virtual clock, as a caller must do who wants
the timeout; the first request is claimed and requeued in front of the second
one. -/
def punctualRun : List QueueAction :=
  [.submit [.new 0 1 0 3],
    .setVirtualElapsedMs 5000,
    .claim 0 .defaultProfile 1,
    .submit [.new 5 2 0 3],
    .requeue 0,
    .setVirtualElapsedMs 16000]

theorem punctualRun_fires :
    ∃ queue, Transition.run step empty punctualRun = some queue ∧
      queue.pending.map queue.waitedMs = [16000, 11000] ∧
        TimeoutFires 10 queue := by
  have computed : (Transition.run step empty punctualRun).map
      (fun queue => queue.pending.map queue.waitedMs) =
        some [16000, 11000] := by
    decide +kernel
  obtain ⟨queue, reached, waits⟩ := Option.map_eq_some_iff.mp computed
  exact ⟨queue, reached, waits,
    timeout_fires_of_inOrder (by decide +kernel) reached 10⟩

/-- The first request, stamped with the time of day as the constructors do. -/
def stampedRun : List QueueAction :=
  [.submit [.new 1700000000 1 0 3], .setVirtualElapsedMs 60000]

/-- Its age is never seen. -/
theorem stampedRun_never_fires :
    ∃ queue, Transition.run step empty stampedRun = some queue ∧
      ¬ TimeoutFires 10 queue := by
  refine ⟨⟨60000, [⟨.new 1700000000 1 0 3, 0⟩], ∅⟩, rfl, fun fires => ?_⟩
  obtain ⟨ageMs, reported, covers⟩ := fires.reports _
    (List.mem_singleton_self _) (by norm_num [waitedMs])
  have nothing : reportedAgeMs
      ⟨60000, [⟨.new 1700000000 1 0 3, 0⟩], ∅⟩ = some 0 := by
    decide +kernel
  cases nothing.symm.trans reported
  exact absurd covers (by decide)

/-- Two profiles on the virtual clock; a batch that was claimed across the
other profile's request comes back as a whole. -/
def mixedRun : List QueueAction :=
  [.submit [.new 0 1 0 3],
    .setVirtualElapsedMs 5000,
    .submit [{ Request.new 5 2 0 3 with qosProfileId := ⟨"interactive"⟩ }],
    .setVirtualElapsedMs 10000, .submit [.new 10 3 0 3],
    .claim 0 .defaultProfile 2, .requeue 0, .claim 1 .defaultProfile 1,
    .setVirtualElapsedMs 16000]

/-- Now the younger request hides the older one behind it. -/
theorem mixedRun_never_fires :
    ∃ queue, Transition.run step empty mixedRun = some queue ∧
      ¬ TimeoutFires 10 queue := by
  have computed : (Transition.run step empty mixedRun).map
      (fun queue => (queue.reportedAgeMs,
        queue.pending.map queue.waitedMs)) =
        some (some 6000, [6000, 11000]) := by
    decide +kernel
  obtain ⟨queue, reached, outcome⟩ := Option.map_eq_some_iff.mp computed
  obtain ⟨reported, waits⟩ := Prod.mk.inj outcome
  have longest : 11000 ∈ queue.pending.map queue.waitedMs := by
    rw [waits]
    decide
  obtain ⟨waiting, member, waited⟩ := List.mem_map.mp longest
  refine ⟨queue, reached, fun fires => ?_⟩
  obtain ⟨ageMs, shown, covers⟩ := fires.reports waiting member
    (by rw [waited]; norm_num)
  rw [reported] at shown
  cases shown
  omega

/-! ## The queue of the scheduler -/

section Scheduler

variable {σ : Type} {cfg : Config} {runtime : NumericRuntime σ}
variable {engine after : Engine σ} {queue : TimedQueue}

/-- The timed queue holds the scheduler's queue and its workers' batches. -/
structure Shadows (engine : Engine σ) (queue : TimedQueue) : Prop where
  pending_eq : engine.shared.pending = requests queue.pending
  batches : ∀ {workerId worker},
    engine.workers.lookup workerId = some worker →
      worker.phase.ownsBatch = true →
        ∃ batch, queue.claimed.lookup workerId = some batch ∧
          worker.pending = requests batch

theorem shadows_new :
    Shadows (Engine.new cfg : Engine σ) empty where
  pending_eq := rfl
  batches found := by
    have nobody : (none : Option (BatchWorker σ)) = some _ := found
    cases nobody

/-- Workers and queue stay as they are. -/
private theorem Shadows.of_same (shadows : Shadows engine queue)
    (pending_eq : after.shared.pending = engine.shared.pending)
    (workers_eq : after.workers = engine.workers) :
    Shadows after queue where
  pending_eq := pending_eq.trans shadows.pending_eq
  batches found := shadows.batches (workers_eq ▸ found)

/-- Nobody works under a fresh number. -/
private theorem exists_free (engine : Engine σ) :
    ∃ holder, engine.workers.lookup holder = none := by
  obtain ⟨holder, fresh⟩ :=
    Infinite.exists_notMem_finset engine.workers.keys.toFinset
  refine ⟨holder, AList.lookup_eq_none.mpr fun member => fresh ?_⟩
  exact List.mem_toFinset.mpr member

/-- Every step of the scheduler is a number of steps of the timed queue. -/
theorem Shadows.step (shadows : Shadows engine queue) {action : Engine.Action}
    (taken : Engine.step cfg runtime engine action = some after) :
    ∃ queueActions next,
      Transition.run TimedQueue.step queue queueActions = some next ∧
        Shadows after next := by
  cases Engine.dispatch_effect taken with
  | queued pending_eq workers_eq _ =>
      refine ⟨[.submit action.received], _, rfl, ?_, ?_⟩
      · dsimp only
        rw [pending_eq, shadows.pending_eq, requests, requests, List.map_append,
          List.map_map]
        exact congrArg _ (List.map_id _).symm
      · exact fun found owns => shadows.batches (workers_eq ▸ found) owns
  | selected _ _ _ _ =>
      exact ⟨[], queue, rfl, shadows.of_same rfl rfl⟩
  | @unclaimed selection claim _ _ claim_eq _ pending_eq workers_eq _ =>
      obtain ⟨holder, free⟩ := exists_free engine
      rw [shadows.pending_eq, requests_splitTimed] at claim_eq
      generalize splitTimed_eq : splitTimed selection.profileId
        (min selection.profilePendingCount cfg.solver.batchSize)
        queue.pending = parts at claim_eq
      refine ⟨[.claim holder selection.profileId
        (min selection.profilePendingCount cfg.solver.batchSize),
        .requeue holder],
        { queue with
          pending := parts.1 ++ parts.2
          claimed := (queue.claimed.insert holder parts.1).erase holder },
        ?_, ?_, ?_⟩
      · simp [Transition.run, TimedQueue.step, splitTimed_eq]
      · dsimp only
        rw [pending_eq, claim_eq, requests, requests, requests, List.map_append]
      · intro workerId worker found owns
        rw [workers_eq] at found
        obtain ⟨batch, held, same⟩ := shadows.batches found owns
        have different : workerId ≠ holder := by
          rintro rfl
          rw [free] at found
          cases found
        refine ⟨batch, ?_, same⟩
        dsimp only
        rw [AList.lookup_erase_ne different, AList.lookup_insert_ne different]
        exact held
  | @claimed selection claim _ _ claim_eq _ pending_eq workers_eq _ _ _ =>
      rw [shadows.pending_eq, requests_splitTimed] at claim_eq
      refine ⟨[.claim engine.spawned selection.profileId
        (min selection.profilePendingCount cfg.solver.batchSize)], _, rfl,
        ?_, ?_⟩
      · dsimp only
        rw [pending_eq, claim_eq]
      · intro workerId worker found owns
        rw [workers_eq] at found
        by_cases newcomer : workerId = engine.spawned
        · subst newcomer
          rw [AList.lookup_insert] at found
          cases found
          refine ⟨_, AList.lookup_insert _, ?_⟩
          rw [claim_eq]
          rfl
        · rw [AList.lookup_insert_ne newcomer] at found
          obtain ⟨batch, held, same⟩ := shadows.batches found owns
          exact ⟨batch, (AList.lookup_insert_ne newcomer).trans held, same⟩
  | @moved workerId _ worker phase _ found keeps pending_eq workers_eq _ =>
      refine ⟨[], queue, rfl, pending_eq.trans shadows.pending_eq, ?_⟩
      intro otherId other there owns
      rw [workers_eq] at there
      by_cases mover : otherId = workerId
      · rw [mover, AList.lookup_insert] at there
        cases there
        have held := shadows.batches found (keeps owns)
        rw [mover]
        exact held
      · rw [AList.lookup_insert_ne mover] at there
        exact shadows.batches there owns
  | @requeued workerId _ worker _ found was pending_eq workers_eq _ =>
      obtain ⟨batch, held, same⟩ := shadows.batches found (by rw [was]; rfl)
      refine ⟨[.requeue workerId],
        { queue with
          pending := batch ++ queue.pending
          claimed := queue.claimed.erase workerId }, ?_, ?_, ?_⟩
      · simp [Transition.run, TimedQueue.step, held]
      · dsimp only
        rw [pending_eq, same, shadows.pending_eq, requests, requests, requests,
          List.map_append]
      · intro otherId other there owns
        rw [workers_eq] at there
        by_cases mover : otherId = workerId
        · rw [mover, AList.lookup_insert] at there
          cases there
          cases owns
        · rw [AList.lookup_insert_ne mover] at there
          obtain ⟨batch, held, same⟩ := shadows.batches there owns
          exact ⟨batch, (AList.lookup_erase_ne mover).trans held, same⟩
  | @released workerId _ _ _ _ pending_eq workers_eq _ _ _ =>
      refine ⟨[], queue, rfl, pending_eq.trans shadows.pending_eq, ?_⟩
      intro otherId other there owns
      rw [workers_eq] at there
      by_cases own : otherId = workerId
      · rw [own, AList.lookup_erase] at there
        cases there
      · rw [AList.lookup_erase_ne own] at there
        exact shadows.batches there owns

/-- The queue of every run of the scheduler is that of a run of the timed
queue. -/
theorem exists_queue_of_run {actions : List Engine.Action}
    (reached : Transition.run (Engine.step cfg runtime) (Engine.new cfg)
      actions = some engine) :
    ∃ queueActions queue,
      Transition.run step empty queueActions = some queue ∧
        Shadows engine queue := by
  refine Transition.run_induction
    (fun _ state => ∃ queueActions queue,
      Transition.run step empty queueActions = some queue ∧
        Shadows state queue)
    ⟨[], empty, rfl, shadows_new⟩ ?_ reached
  rintro _ state action next ⟨earlier, queue, run, shadows⟩ taken
  obtain ⟨later, following, continued, after⟩ := shadows.step taken
  refine ⟨earlier ++ later, following, ?_, after⟩
  rw [Transition.run_append, run, Option.bind_some, continued]

end Scheduler

end TimedQueue

end Carbonshift
