import Carbonshift.Engine.CommittedPrices

/-!
# Prices of a single writer

The strategies count the occupancy of the slots in different ways: future
assignments only, running counts of a batch, the counts of a fallback, or the
whole history.  They look the duration of a flavour up again by its name.
Without a commit in between, all of them charge the position that is really
taken, at the duration that is stored.
-/

namespace Carbonshift

/-! ## Stored durations -/

/-- Cost of an assignment at a position of its slot, at its stored
duration. -/
def storedCost (policy : AssignmentPolicy) (carbonForecast : List ℚ)
    (assignment : Assignment) (position : ℤ) : ℚ :=
  (slotEntry carbonForecast assignment.scheduledSlot).getD 1 *
    getCapacityMultiplier policy.capacityTiers position *
    assignment.flavourDuration * policy.carbonCostDurationScale

/-- The assignment costs what its position costs. -/
def CostsPosition (policy : AssignmentPolicy) (carbonForecast : List ℚ)
    (assignment : Assignment) (position : ℤ) : Prop :=
  assignment.carbonCost = storedCost policy carbonForecast assignment position

theorem eq_of_same_name {flavours : List Flavour}
    (distinct : (flavours.map Flavour.name).Nodup)
    {flavour other : Flavour} (offered : flavour ∈ flavours)
    (there : other ∈ flavours) (same : other.name = flavour.name) :
    other = flavour :=
  List.inj_on_of_nodup_map distinct there offered same

private theorem find?_name {flavours offered : List Flavour}
    (distinct : (flavours.map Flavour.name).Nodup)
    (inside : ∀ flavour ∈ offered, flavour ∈ flavours)
    {flavour : Flavour} (member : flavour ∈ offered) :
    (offered.find? fun other => other.name == flavour.name) = some flavour := by
  cases found : offered.find? fun other => other.name == flavour.name with
  | none =>
      have named := List.find?_eq_none.mp found flavour member
      simp at named
  | some other =>
      have sameName : other.name = flavour.name := by
        simpa using List.find?_some found
      rw [eq_of_same_name distinct (inside flavour member)
        (inside other (List.mem_of_find?_eq_some found)) sameName]

/-- The global table of durations. -/
private theorem lookup_flavourDurationByName {cfg : Config}
    (distinct : (cfg.flavours.map Flavour.name).Nodup)
    {flavour : Flavour} (member : flavour ∈ cfg.flavours) :
    cfg.flavourDurationByName.getD flavour.name 0 = flavour.duration := by
  have listed : (flavour.name, flavour.duration) ∈
      cfg.flavours.reverse.map fun flavour =>
        (flavour.name, flavour.duration) :=
    List.mem_map.mpr ⟨flavour, List.mem_reverse.mpr member, rfl⟩
  obtain ⟨duration, found⟩ := Dictionary.exists_lookup_ofPairs listed
  obtain ⟨other, there, pair⟩ :=
    List.mem_map.mp (Dictionary.mem_of_lookup_ofPairs found)
  rw [Prod.mk.injEq] at pair
  have same := eq_of_same_name distinct member (List.mem_reverse.mp there)
    pair.1
  rw [Config.flavourDurationByName, Dictionary.getD, found, Option.getD_some,
    ← pair.2, same]

/-- The requests of a batch bring one profile, or none of them does. -/
structure UniformBatch (cfg : Config) (input : BatchSolveContext) :
    Prop where
  profiles : ∀ request ∈ input.pending, ∀ other ∈ input.pending,
    request.qosProfile = other.qosProfile
  flavours_eq : ∀ request ∈ input.pending,
    input.assignment.flavours = (cfg.requestPolicy request).flavours
  durations_eq : input.flavourDurationByName = cfg.flavourDurationByName

/-- A profile-backed request finds the duration of its flavour in its own
list. -/
theorem storedDuration_eq_of_profile
    {input : BatchSolveContext} {request : Request} {profile : QosProfile}
    (profiled : request.qosProfile = some profile)
    (flavours : input.assignment.flavours = profile.flavours)
    (unique : (requestIds input.pending).Nodup)
    (distinct : (input.assignment.flavours.map Flavour.name).Nodup)
    (member : request ∈ input.pending) {flavour : Flavour}
    (served : flavour ∈ input.servedFlavours request.id) :
    input.storedDuration request.id flavour.name = flavour.duration := by
  have overrides := BatchSolveContext.lookup_requestFlavours unique member
  unfold BatchSolveContext.servedFlavours at served
  unfold BatchSolveContext.storedDuration
  rw [profiled] at overrides
  rw [overrides, flavours] at served
  rw [overrides]
  have offered : flavour ∈ input.restrictFlavours profile.flavours := by
    rcases List.mem_append.mp served with own | restricted
    · exact own
    · exact restricted
  rw [flavours] at distinct
  have found := find?_name distinct
    (fun _ => BatchSolveContext.mem_of_mem_restrictFlavours) offered
  rw [Option.map_some, Option.bind_some, found, Option.map_some,
    Option.getD_some]

/-- In a uniform batch with distinct flavour names, the duration found again
by name is that of the flavour. -/
theorem storedDuration_eq
    {cfg : Config} {input : BatchSolveContext}
    (uniform : UniformBatch cfg input)
    (unique : (requestIds input.pending).Nodup)
    (distinct : (input.assignment.flavours.map Flavour.name).Nodup)
    {requestId : ℕ} (own : requestId ∈ requestIds input.pending)
    {flavour : Flavour} (served : flavour ∈ input.servedFlavours requestId) :
    input.storedDuration requestId flavour.name = flavour.duration := by
  obtain ⟨request, member, rfl⟩ := List.mem_map.mp own
  have flavours := uniform.flavours_eq request member
  unfold Config.requestPolicy at flavours
  cases profiled : request.qosProfile with
  | none =>
      have overrides := BatchSolveContext.lookup_requestFlavours unique member
      unfold BatchSolveContext.servedFlavours at served
      unfold BatchSolveContext.storedDuration
      rw [profiled] at overrides flavours
      rw [overrides] at served ⊢
      have offered : flavour ∈ input.assignment.flavours := by
        rcases List.mem_append.mp served with own | restricted
        · exact own
        · exact BatchSolveContext.mem_of_mem_restrictFlavours restricted
      have sameFlavours : input.assignment.flavours = cfg.flavours := flavours
      rw [sameFlavours] at distinct offered
      rw [uniform.durations_eq]
      exact lookup_flavourDurationByName distinct offered
  | some profile =>
      rw [profiled] at flavours
      exact storedDuration_eq_of_profile profiled flavours unique distinct
        member served

/-! ## One solve -/

/-- The future assignments fill the current and all later slots as all
assignments do. -/
theorem BatchSolveContext.slotOccupancy_getFutureAssignments
    {input : BatchSolveContext} (order : IterationOrder Assignment) {slot : ℤ}
    (future : input.currentSlot ≤ slot) :
    slotOccupancy
        (input.snapshot.getFutureAssignments order input.currentSlot) slot =
      slotOccupancy input.snapshot.assignments.values slot := by
  calc
    slotOccupancy
        (input.snapshot.getFutureAssignments order input.currentSlot) slot
        = slotOccupancy (order.arrange input.snapshot.assignments.values)
          slot := by
        rw [SolverSnapshot.getFutureAssignments, slotOccupancy, slotOccupancy,
          List.countP_filter]
        refine List.countP_congr fun assignment _ => ?_
        simp only [Bool.and_eq_true, decide_eq_true_eq]
        constructor
        · exact And.left
        · rintro rfl
          exact ⟨rfl, future⟩
    _ = slotOccupancy input.snapshot.assignments.values slot :=
        slotOccupancy_eq_of_perm (order.perm _) slot

/-- With locked future assignments, the baseline is the committed occupancy of
the current and all later slots. -/
theorem BatchSolveContext.slotOccupancy_fixedFuture
    {input : BatchSolveContext}
    (locked : input.solverConfig.dpLockFutureAssignments = true)
    (order : IterationOrder Assignment) {slot : ℤ}
    (future : input.currentSlot ≤ slot) :
    slotOccupancy (input.fixedFuture order) slot =
      slotOccupancy input.snapshot.assignments.values slot := by
  have split :
      (input.fixedFuture order).Perm
        (input.snapshot.getFutureAssignments order input.currentSlot) := by
    rw [fixedFuture, if_pos locked]
    exact List.perm_append_comm.trans (List.filter_append_perm _ _)
  rw [slotOccupancy_eq_of_perm split slot,
    slotOccupancy_getFutureAssignments order future]

/-- A batch strategy charges the positions on top of the snapshot. -/
theorem BatchProposal.costs
    {cfg : Config} {order : IterationOrder Assignment}
    {input : BatchSolveContext} {result : BatchSolveResult}
    (proposal : BatchProposal order input result)
    (locked : input.solverConfig.dpLockFutureAssignments = true)
    (started : 0 ≤ input.currentSlot)
    (uniform : UniformBatch cfg input)
    (unique : (requestIds input.pending).Nodup)
    (distinct : (input.assignment.flavours.map Flavour.name).Nodup) :
    Ranking.Ranked Assignment.scheduledSlot
      (CostsPosition input.assignment input.carbonForecast)
      (fun slot => slotOccupancy input.snapshot.assignments.values slot)
      result.assignments := by
  have own : ∀ assignment ∈ result.assignments,
      assignment.requestId ∈ requestIds input.pending := by
    intro assignment member
    have listed : assignment.requestId ∈ assignmentIds result.assignments :=
      List.mem_map_of_mem member
    rcases proposal.covers with ids | ids
    · rwa [ids] at listed
    · rwa [ids, BatchSolveContext.movableFuture_of_locked locked,
        assignmentIds, List.map_nil, List.append_nil] at listed
  refine ((proposal.served started).congr fun assignment member => ?_).mono
    fun assignment member position served => ?_
  · rw [proposal.baseline_eq, getD_countSlots,
      input.slotOccupancy_fixedFuture locked order
        (proposal.future assignment member)]
  · obtain ⟨flavour, offered, name, _, cost⟩ := served.pays
    have sameName : assignment.flavourName = flavour.name := name
    have duration := served.duration_eq
    rw [sameName, storedDuration_eq uniform unique distinct
      (own assignment member) offered] at duration
    have charged : assignment.carbonCost =
        positionCost input.assignment input.carbonForecast
          assignment.scheduledSlot flavour position := cost
    rw [CostsPosition, charged, storedCost, duration, positionCost]

/-- A swarm strategy charges the positions on top of its context. -/
theorem Plans.costs
    {policy : AssignmentPolicy} {carbonForecast : List ℚ}
    {picks : Request → ℤ → Prop} {tally : SwarmTally}
    {requests : List Request} {assignments : List Assignment}
    (plan : Plans policy carbonForecast picks tally requests assignments)
    (profileId : QosProfileId) :
    Ranking.Ranked Assignment.scheduledSlot
      (CostsPosition policy carbonForecast)
      (fun slot => tally.slotCount.getD slot 0)
      (Engine.ownedBy profileId assignments) := by
  refine Ranking.ranked_map_iff.mpr
    (plan.ranked.mono fun assignment _ position paid => ?_)
  obtain ⟨request, flavour, _, planned⟩ := paid
  have cost := congrArg Assignment.carbonCost planned
  have duration := congrArg Assignment.flavourDuration planned
  change assignment.carbonCost =
    (slotEntry carbonForecast assignment.scheduledSlot).getD 1 *
      getCapacityMultiplier policy.capacityTiers position *
      assignment.flavourDuration * policy.carbonCostDurationScale
  rw [cost, duration]
  rfl

namespace Engine

variable {σ : Type} {cfg : Config} {runtime : NumericRuntime σ}
variable {engine next : Engine σ} {known : List Request}

/-! ## Steps without a commit -/

/-- The action is a commit. -/
def Action.isCommit : Action → Bool
  | .work _ .commit => true
  | _ => false

/-- Only a commit changes the occupancy of a slot. -/
theorem slotOccupancy_of_step {action : Action}
    (quiet : action.isCommit = false)
    (taken : step cfg runtime engine action = some next) (slot : ℤ) :
    slotOccupancy next.shared.assignments.values slot =
      slotOccupancy engine.shared.assignments.values slot := by
  cases step_effect taken with
  | queued _ assignments_eq _ _ => rw [assignments_eq]
  | corrected _ _ assignments_eq _ place _ _ =>
      rw [assignments_eq, slotOccupancy_eq_count, slotOccupancy_eq_count]
      exact (Dictionary.map_values_adjust_perm place.scheduledSlot_eq _
        _).count_eq slot
  | selected _ _ _ => rfl
  | unclaimed _ _ assignments_eq _ _ => rw [assignments_eq]
  | claimed _ _ _ _ assignments_eq _ _ _ _ _ => rw [assignments_eq]
  | released _ _ _ shared_eq _ _ _ _ => rw [shared_eq]
  | @worked workerId move worker phase _ found effect _ _ _ _ =>
      rw [step, found, Option.bind_some] at taken
      obtain ⟨moved, performed, _⟩ := Option.map_eq_some_iff.mp taken
      have quietMove : move ≠ .commit := by
        rintro rfl
        cases quiet
      generalize next.shared = shared at effect ⊢
      cases effect with
      | entered _ => rfl
      | observedBatch _ _ => rfl
      | observedSwarm _ _ _ => rfl
      | solvedBatch _ _ => rfl
      | solvedSwarm _ _ _ => rfl
      | rolledBack was _ =>
          exact absurd (move_eq_commit_of_proposed was performed) quietMove
      | committed was _ _ =>
          exact absurd (move_eq_commit_of_proposed was performed) quietMove
      | requeued _ => rfl
      | merged _ => rfl

/-! ## From the snapshot to the commit -/

/-- Every request brings what is registered under its profile identifier, and
no list of flavours repeats a name. -/
structure RegisteredRequests (cfg : Config)
    (registered : QosProfileId → Option QosProfile)
    (requests : List Request) : Prop where
  profile_eq : ∀ request ∈ requests,
    request.qosProfile = registered request.qosProfileId
  distinctNames : ∀ request ∈ requests,
    ((cfg.requestPolicy request).flavours.map Flavour.name).Nodup

/-- What the worker observed is what is committed, and its proposal costs what
its positions on top of that cost. -/
def singleWriterPromise (cfg : Config) (σ : Type) : PhasePromise σ where
  observed now _ _ view :=
    ∀ slot, view.occupancy slot = slotOccupancy now.values slot
  proposed now batch tiers proposal :=
    Ranking.Ranked Assignment.scheduledSlot
      (CostsPosition (cfg.workerPolicy batch.pending tiers)
        batch.carbonForecast)
      (fun slot => slotOccupancy now.values slot) proposal.assignments

theorem workerPolicy_flavours
    (cfg : Config) {request : Request} {rest : List Request}
    (tiers : List CapacityTier) :
    (cfg.workerPolicy (request :: rest) tiers).flavours =
      (cfg.requestPolicy request).flavours := by
  unfold Config.workerPolicy Config.requestPolicy
  cases brought : request.qosProfile with
  | none => simp [brought]
  | some profile => simp [brought]

/-- The requests of a worker bring one profile. -/
private theorem uniform_of_registered
    (engine : Engine σ) {registered : QosProfileId → Option QosProfile}
    (requests : RegisteredRequests cfg registered known)
    {worker : BatchWorker σ}
    (batch : worker.toClaimedBatch.WellFormed cfg known)
    (tiers : List CapacityTier) (snapshot : SolverSnapshot) :
    UniformBatch cfg (batchInput cfg engine worker tiers snapshot) ∧
      ((cfg.workerPolicy worker.pending tiers).flavours.map
        Flavour.name).Nodup := by
  have profile_eq : ∀ request ∈ worker.pending,
      request.qosProfile = registered worker.profileId := by
    intro request member
    rw [requests.profile_eq request (batch.known request member),
      batch.own request member]
  obtain ⟨first, rest, pending⟩ :=
    List.exists_cons_of_ne_nil batch.someRequest
  have firstMember : first ∈ worker.pending := by
    rw [pending]
    exact List.mem_cons_self
  have flavours : (cfg.workerPolicy worker.pending tiers).flavours =
      (cfg.requestPolicy first).flavours := by
    rw [pending, workerPolicy_flavours]
  have samePolicy : ∀ request ∈ worker.pending,
      cfg.requestPolicy request = cfg.requestPolicy first := by
    intro request member
    rw [Config.requestPolicy, Config.requestPolicy, profile_eq request member,
      profile_eq first firstMember]
  refine ⟨⟨fun request member other there => ?_, fun request member => ?_,
    rfl⟩, ?_⟩
  · rw [profile_eq request member, profile_eq other there]
  · change (cfg.workerPolicy worker.pending tiers).flavours = _
    rw [flavours, samePolicy request member]
  · rw [flavours]
    exact requests.distinctNames first (batch.known first firstMember)

private theorem singleWriter_rules
    (locked : cfg.solver.dpLockFutureAssignments = true)
    (horizon : 0 < cfg.totalSlots)
    (settled : Settled cfg known engine)
    {registered : QosProfileId → Option QosProfile}
    (requests : RegisteredRequests cfg registered known) :
    (singleWriterPromise cfg σ).MoveRules cfg runtime engine where
  observesBatch _ _ _ _ := rfl
  observesSwarm := by
    intro _ _ _ _ _ _ _ _ reads slot
    rw [SolverView.occupancy_of_swarmContext reads]
    exact getD_countSlots _ slot
  solvesBatch := by
    intro workerId worker tiers _ snapshot oracle result _ found was solved
      nonempty observed
    have batch := settled.reserved.wellFormed found
    have unique :=
      (uncommitted_of_owns settled.heldDistinct found (by rw [was]; rfl)).1
    obtain ⟨uniform, distinct⟩ :=
      uniform_of_registered engine requests batch tiers snapshot
    rcases BatchSolver.solve_proposal unique batch.someRequest solved
      with nothing | proposal
    · exact absurd nothing nonempty
    · exact (proposal.costs locked (batch.slot_nonneg horizon) uniform unique
        distinct).congr fun assignment _ => observed assignment.scheduledSlot
  solvesSwarm := by
    intro _ _ _ _ _ _ _ _ _ _ _ reads answered nonempty observed
    rcases OnlineSwarmState.solveBatch_plans answered with nothing | plan
    · exact absurd nothing nonempty
    · refine (plan.costs _).congr fun assignment _ => ?_
      have seen := observed assignment.scheduledSlot
      rw [SolverView.occupancy_of_swarmContext reads] at seen
      exact seen

/-- The worker keeps the promise, if it is there. -/
def KeepsSingleWriter (cfg : Config) (workerId : ℕ) (engine : Engine σ) :
    Prop :=
  ∀ worker, engine.workers.lookup workerId = some worker →
    (singleWriterPromise cfg σ).Holds engine.shared.assignments
      worker.toClaimedBatch worker.phase

/-- Only a commit breaks the promise. -/
private theorem keepsSingleWriter_of_step
    (locked : cfg.solver.dpLockFutureAssignments = true)
    (horizon : 0 < cfg.totalSlots)
    (settled : Settled cfg known engine)
    {registered : QosProfileId → Option QosProfile}
    (requests : RegisteredRequests cfg registered known)
    {workerId : ℕ} (keeps : KeepsSingleWriter cfg workerId engine)
    {action : Action} (quiet : action.isCommit = false)
    (taken : step cfg runtime engine action = some next) :
    KeepsSingleWriter cfg workerId next := by
  have same := slotOccupancy_of_step quiet taken
  intro worker found
  cases (step_effect taken).workerHistory found with
  | spawned phase_eq =>
      rw [phase_eq]
      exact ⟨by simp, by simp⟩
  | moved before effect =>
      have rules : (singleWriterPromise cfg σ).MoveRules cfg runtime engine :=
        singleWriter_rules locked horizon settled requests
      have after := rules.holds_of_effect before (keeps _ before) effect
      exact after
  | waited before _ _ =>
      have holds := keeps worker before
      refine ⟨fun was slot => ?_, fun was => ?_⟩
      · exact (holds.observed was slot).trans
          (congrArg Nat.cast (same slot).symm)
      · exact (holds.proposed was).congr fun assignment _ =>
          congrArg Nat.cast (same assignment.scheduledSlot).symm

/-- The worker has observed, and nobody has committed since. -/
def ReadUndisturbed (workerId : ℕ) (history : List Action) : Prop :=
  ∃ earlier between,
    history = earlier ++ .work workerId .observe :: between ∧
      ∀ action ∈ between, action.isCommit = false

/-- Before its observation, a worker has nothing to keep. -/
private theorem keepsSingleWriter_of_observing
    {workerId : ℕ}
    (taken : step cfg runtime engine (.work workerId .observe) = some next) :
    KeepsSingleWriter cfg workerId engine := by
  intro worker found
  rw [step, found, Option.bind_some] at taken
  obtain ⟨moved, performed, _⟩ := Option.map_eq_some_iff.mp taken
  rw [workerMove, observe] at performed
  cases was : worker.phase with
  | ready tiers rollbacks => exact ⟨by simp, by simp⟩
  | claimed => exact ⟨by simp, by simp⟩
  | observed tiers rollbacks view => simp [was] at performed
  | proposed tiers rollbacks proposal => simp [was] at performed
  | rejected => exact ⟨by simp, by simp⟩
  | learning delta => exact ⟨by simp, by simp⟩
  | finished scheduled => exact ⟨by simp, by simp⟩

private theorem readUndisturbed_concat
    {workerId : ℕ} {history : List Action} {action : Action}
    (undisturbed : ReadUndisturbed workerId (history ++ [action])) :
    action = .work workerId .observe ∨
      (ReadUndisturbed workerId history ∧ action.isCommit = false) := by
  obtain ⟨earlier, between, split, quiet⟩ := undisturbed
  cases between using List.reverseRecOn with
  | nil =>
      have last := congrArg List.getLast? split
      rw [List.getLast?_concat, List.getLast?_concat] at last
      exact Or.inl (Option.some_inj.mp last)
  | append_singleton between last =>
      rw [← List.cons_append, ← List.append_assoc] at split
      obtain ⟨history_eq, singleton⟩ := List.append_inj' split rfl
      obtain ⟨quietBetween, quietLast⟩ := List.forall_mem_append.mp quiet
      rw [List.singleton_inj.mp singleton]
      exact Or.inr ⟨⟨earlier, between, history_eq, quietBetween⟩,
        quietLast last List.mem_cons_self⟩

/-- The promise is kept from the observation of a worker to the next
commit. -/
theorem run_keepsSingleWriter
    (locked : cfg.solver.dpLockFutureAssignments = true)
    (horizon : 0 < cfg.totalSlots)
    {registered : QosProfileId → Option QosProfile} {history : List Action}
    (requests : RegisteredRequests cfg registered (receivedBy history))
    (unique : (requestIds (receivedBy history)).Nodup)
    {workerId : ℕ} (undisturbed : ReadUndisturbed workerId history)
    (reached : Transition.run (step cfg runtime) (new cfg) history =
      some engine) :
    KeepsSingleWriter cfg workerId engine := by
  refine (Settled.run_induction (Or.inl locked)
    (fun action => RegisteredRequests cfg registered action.received)
    (fun earlier state => ReadUndisturbed workerId earlier →
      KeepsSingleWriter cfg workerId state)
    ?_ ?_ ?_ unique reached).2 undisturbed
  · rintro ⟨earlier, between, split, _⟩
    cases earlier <;> cases split
  · intro earlier state action after past now settled keeps taken undisturbed
    have received : RegisteredRequests cfg registered
        (receivedBy earlier) := by
      refine ⟨fun request member => ?_, fun request member => ?_⟩
      all_goals obtain ⟨old, performed, brought⟩ := List.mem_flatMap.mp member
      · exact (past old performed).profile_eq request brought
      · exact (past old performed).distinctNames request brought
    rcases readUndisturbed_concat undisturbed with rfl | ⟨before, quiet⟩
    · exact keepsSingleWriter_of_step locked horizon settled received
        (keepsSingleWriter_of_observing taken) rfl taken
    · exact keepsSingleWriter_of_step locked horizon settled received
        (keeps before) quiet taken
  · intro action performed
    refine ⟨fun request brought => ?_, fun request brought => ?_⟩
    all_goals
      have member : request ∈ receivedBy history :=
        List.mem_flatMap.mpr ⟨action, performed, brought⟩
    · exact requests.profile_eq request member
    · exact requests.distinctNames request member

/-- A worker commits its proposal. -/
structure AcceptedCommit (cfg : Config) (runtime : NumericRuntime σ)
    (engine next : Engine σ) (workerId : ℕ) (worker : BatchWorker σ)
    (tiers : List CapacityTier) (proposal : SolverProposal σ) : Prop where
  found : engine.workers.lookup workerId = some worker
  proposed : ∃ rollbacks,
    worker.phase = .proposed tiers rollbacks proposal ∧
      (commitAttempt cfg engine tiers rollbacks proposal).1 = .committed
  taken : step cfg runtime engine (.work workerId .commit) = some next

/-- Without a commit between the observation and the commit of a worker, every
committed assignment costs what the position it takes costs, at the duration
that is stored with it. -/
theorem single_writer_prices
    (cfg : Config) (runtime : NumericRuntime σ)
    (registered : QosProfileId → Option QosProfile) (history : List Action)
    (engine next : Engine σ) (workerId : ℕ) (worker : BatchWorker σ)
    (tiers : List CapacityTier) (proposal : SolverProposal σ)
    (locked : cfg.solver.dpLockFutureAssignments = true)
    (horizon : 0 < cfg.totalSlots)
    (requests : RegisteredRequests cfg registered (receivedBy history))
    (unique : (requestIds (receivedBy history)).Nodup)
    (undisturbed : ReadUndisturbed workerId history)
    (reached : Transition.run (step cfg runtime) (new cfg) history =
      some engine)
    (commits : AcceptedCommit cfg runtime engine next workerId worker tiers
      proposal)
    (index : ℕ) (assignment : Assignment)
    (located : proposal.assignments[index]? = some assignment) :
    next.shared.assignments.lookup assignment.requestId = some assignment ∧
      assignment.carbonCost =
        storedCost (cfg.workerPolicy worker.pending tiers)
          worker.carbonForecast assignment
          (truePosition engine proposal index assignment.scheduledSlot) := by
  obtain ⟨found, ⟨rollbacks, was, accepted⟩, taken⟩ := commits
  have keeps := run_keepsSingleWriter locked horizon requests unique
    undisturbed reached
  have settled := (Settled.run_induction (Or.inl locked) (fun _ => True)
    (fun _ _ => True) trivial (fun _ _ _ _ _ _ _ _ _ => trivial)
    (fun _ _ => trivial) unique reached).1
  refine ⟨?_, ((keeps worker found).proposed was).getElem? located⟩
  rw [assignments_of_accepted found was accepted taken]
  obtain ⟨ids, _⟩ := (settled.ownBatch workerId worker found).proposed was
  obtain ⟨distinct, uncommitted⟩ :=
    uncommitted_of_owns settled.heldDistinct found (by rw [was]; rfl)
  rw [← ids] at distinct uncommitted
  exact SharedState.lookup_addAssignments_of_fresh distinct uncommitted
    (List.mem_of_getElem? located)

/-- A batch of two is solved by the DP for a slot whose cheapest tier takes one
request. -/
def twoInOneSlotRun : List Action :=
  [.addRequests [.new 0 1 0 0, .new 0 2 0 0],
    .selectProfile 0 true (List.replicate 24 1), .claimBatch, .work 0 .enter,
    .work 0 .observe, .work 0 (.solve .steady)]

private theorem twoInOneSlotRun_outcome :
    ∃ engine next worker tiers proposal assignment,
      Transition.run (step steepConfig .least) (new steepConfig)
          twoInOneSlotRun = some engine ∧
        AcceptedCommit steepConfig .least engine next 0 worker tiers
          proposal ∧
        proposal.assignments[1]? = some assignment := by
  have computed :
      ((Transition.run (step steepConfig .least) (new steepConfig)
          twoInOneSlotRun).bind fun engine =>
        (proposalOf engine 0).bind fun found =>
          found.2.2.2.assignments[1]?.bind fun _ =>
            (step steepConfig .least engine (.work 0 .commit)).map fun _ =>
              decide ((commitAttempt steepConfig engine found.2.1 found.2.2.1
                found.2.2.2).1 = .committed)) = some true := by
    decide +kernel
  obtain ⟨engine, reached, computed⟩ := Option.bind_eq_some_iff.mp computed
  obtain ⟨⟨worker, tiers, rollbacks, proposal⟩, proposed, computed⟩ :=
    Option.bind_eq_some_iff.mp computed
  obtain ⟨assignment, located, computed⟩ := Option.bind_eq_some_iff.mp computed
  obtain ⟨next, taken, accepted⟩ := Option.map_eq_some_iff.mp computed
  obtain ⟨found, was⟩ := proposalOf_eq_some proposed
  exact ⟨engine, next, worker, tiers, proposal, assignment, reached,
    ⟨found, ⟨rollbacks, was, of_decide_eq_true accepted⟩, taken⟩, located⟩

theorem single_writer_prices_two_in_one_slot :
    ∃ engine next worker tiers proposal assignment,
      Transition.run (step steepConfig .least) (new steepConfig)
          twoInOneSlotRun = some engine ∧
        AcceptedCommit steepConfig .least engine next 0 worker tiers
          proposal ∧
        proposal.assignments[1]? = some assignment ∧
        next.shared.assignments.lookup assignment.requestId =
          some assignment ∧
        assignment.carbonCost =
          storedCost (steepConfig.workerPolicy worker.pending tiers)
            worker.carbonForecast assignment
            (truePosition engine proposal 1 assignment.scheduledSlot) := by
  obtain ⟨engine, next, worker, tiers, proposal, assignment, reached, commits,
    located⟩ := twoInOneSlotRun_outcome
  have unprofiled : ∀ request ∈ receivedBy twoInOneSlotRun,
      request.qosProfile = none := by
    decide
  have distinct : (steepConfig.flavours.map Flavour.name).Nodup := by decide
  have requests : RegisteredRequests steepConfig (fun _ => none)
      (receivedBy twoInOneSlotRun) := by
    refine ⟨unprofiled, fun request member => ?_⟩
    rw [Config.requestPolicy, unprofiled request member]
    exact distinct
  have undisturbed : ReadUndisturbed 0 twoInOneSlotRun :=
    ⟨[.addRequests [.new 0 1 0 0, .new 0 2 0 0],
      .selectProfile 0 true (List.replicate 24 1), .claimBatch,
      .work 0 .enter], [.work 0 (.solve .steady)], rfl, by simp [Action.isCommit]⟩
  exact ⟨engine, next, worker, tiers, proposal, assignment, reached, commits,
    located, single_writer_prices steepConfig .least (fun _ => none)
      twoInOneSlotRun engine next 0 worker tiers proposal rfl (by decide)
      requests (by decide) undisturbed reached commits 1 assignment located⟩

end Engine

end Carbonshift
