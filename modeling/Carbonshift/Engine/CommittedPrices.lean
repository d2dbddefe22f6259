import Carbonshift.Engine.LockedCommits

/-!
# Committed prices

A proposal is priced on the occupancy its worker has observed.  Other workers
may commit into the same slots before it does; the commit check compares the
tier of the final occupancy of a slot with the expected one.
-/

namespace Carbonshift

/-- Occupancy of the slots, as a worker has observed it. -/
def SolverView.occupancy {σ : Type} : SolverView σ → ℤ → ℤ
  | .batch snapshot => fun slot =>
      slotOccupancy snapshot.assignments.values slot
  | .swarm ctx => fun slot => ctx.slotCount.getD slot 0
  | .swarmClone ctx _ => fun slot => ctx.slotCount.getD slot 0

theorem SolverView.occupancy_of_swarmContext
    {σ : Type} {view : SolverView σ} {ctx : SwarmContext}
    (reads : view.swarmContext = some ctx) (slot : ℤ) :
    view.occupancy slot = ctx.slotCount.getD slot 0 := by
  cases view with
  | batch snapshot => cases reads
  | swarm observed =>
      cases reads
      rfl
  | swarmClone observed learned =>
      cases reads
      rfl

theorem slotOccupancy_eq_count (assignments : List Assignment) (slot : ℤ) :
    slotOccupancy assignments slot =
      (assignments.map Assignment.scheduledSlot).count slot := by
  rw [slotOccupancy, List.count, List.countP_map]
  rfl

namespace Engine

variable {σ : Type} {cfg : Config} {runtime : NumericRuntime σ}
variable {engine : Engine σ}

/-! ## Occupancy only grows -/

/-- A correction keeps the occupancy, a commit can only add to it. -/
theorem Settled.occupancy_le
    {known : List Request} (settled : Settled cfg known engine)
    {correctsError : Bool} {after : Dictionary ℕ Assignment}
    {committer : Option ℕ}
    (change : AssignmentsChange engine correctsError after committer)
    (slot : ℤ) :
    slotOccupancy engine.shared.assignments.values slot ≤
      slotOccupancy after.values slot := by
  cases change with
  | same assignments_eq => rw [assignments_eq]
  | corrected place _ assignments_eq =>
      rw [assignments_eq, slotOccupancy_eq_count, slotOccupancy_eq_count]
      exact ((Dictionary.map_values_adjust_perm place.scheduledSlot_eq _
        _).count_eq slot).ge
  | committed found was assignments_eq =>
      rw [assignments_eq, slotOccupancy_eq_of_perm
        (settled.values_of_commit found was), slotOccupancy_append]
      exact Nat.le_add_left _ _

/-- What a worker has observed is at most what is committed, and its proposal
is priced by rank on top of the occupancy it started from. -/
def pricePromise (cfg : Config) (σ : Type) : PhasePromise σ where
  observed now _ _ view :=
    ∀ slot, view.occupancy slot ≤ slotOccupancy now.values slot
  proposed now batch tiers proposal :=
    (∀ slot, proposal.baselineSlotCounts.getD slot 0 ≤
        slotOccupancy now.values slot) ∧
      PricedByRank (cfg.workerPolicy batch.pending tiers) batch.carbonForecast
        batch.pending (fun slot => proposal.baselineSlotCounts.getD slot 0)
        proposal.assignments

private theorem pricedByRank_ownedBy
    {profileId : QosProfileId} {policy : AssignmentPolicy}
    {carbonForecast : List ℚ} {pending : List Request} {occupied : ℤ → ℤ}
    {assignments : List Assignment}
    (priced : PricedByRank policy carbonForecast pending occupied
      assignments) :
    PricedByRank policy carbonForecast pending occupied
      (ownedBy profileId assignments) :=
  Ranking.ranked_map_iff.mpr priced

theorem price_rules (horizon : 0 < cfg.totalSlots)
    {known : List Request} (settled : Settled cfg known engine)
    (correctsError : Bool) :
    (pricePromise cfg σ).Rules cfg runtime engine correctsError where
  observesBatch _ _ _ _ := le_rfl
  observesSwarm := by
    intro _ _ _ _ _ _ _ _ reads slot
    rw [SolverView.occupancy_of_swarmContext reads]
    exact (getD_countSlots _ slot).le
  solvesBatch := by
    intro workerId worker tiers _ snapshot oracle result _ found was solved
      nonempty observed
    have batch := settled.reserved.wellFormed found
    have unique :=
      (uncommitted_of_owns settled.heldDistinct found (by rw [was]; rfl)).1
    rcases BatchSolver.solve_proposal unique batch.someRequest solved
      with nothing | proposal
    · exact absurd nothing nonempty
    · refine ⟨fun slot => ?_, proposal.priced (batch.slot_nonneg horizon)⟩
      dsimp only
      rw [proposal.baseline_eq, getD_countSlots]
      have baseline := (batchInput cfg engine worker tiers
        snapshot).slotOccupancy_fixedFuture_le oracle.futureOrder slot
      exact (Int.ofNat_le.mpr baseline).trans (observed slot)
  solvesSwarm := by
    intro _ _ _ _ _ _ _ _ _ _ _ reads answered nonempty observed
    rcases OnlineSwarmState.solveBatch_proposal answered
      with nothing | ⟨_, priced⟩
    · exact absurd nothing nonempty
    · refine ⟨fun slot => ?_, pricedByRank_ownedBy priced⟩
      have seen := observed slot
      rw [SolverView.occupancy_of_swarmContext reads] at seen
      exact seen
  stable := by
    intro _ _ after _ _ change _ holds
    have grows := fun slot =>
      Int.ofNat_le.mpr (settled.occupancy_le change slot)
    refine ⟨fun was slot => ?_, fun was => ?_⟩
    · exact (holds.observed was slot).trans (grows slot)
    · obtain ⟨baseline, priced⟩ := holds.proposed was
      exact ⟨fun slot => (baseline slot).trans (grows slot), priced⟩

/-- In every state of a run, every proposal is priced by rank on top of an
occupancy that has only grown since. -/
theorem pricePromise_kept
    (locked : cfg.solver.dpLockFutureAssignments = true)
    (horizon : 0 < cfg.totalSlots) {actions : List Action}
    (unique : (requestIds (receivedBy actions)).Nodup)
    (reached : Transition.run (step cfg runtime) (new cfg) actions =
      some engine) :
    (pricePromise cfg σ).Kept engine :=
  (Settled.run_induction (Or.inl locked) (fun _ => True)
    (fun _ state => (pricePromise cfg σ).Kept state)
    (PhasePromise.kept_new _ cfg)
    (fun _ _ _ _ _ _ settled kept taken =>
      (price_rules horizon settled _).kept_of_step kept taken)
    (fun _ _ => trivial) unique reached).2

/-! ## The commit check -/

private theorem lookup_expectedPerSlot
    (baselineSlotCounts : Dictionary ℤ ℤ) {assignments : List Assignment}
    {assignment : Assignment} (member : assignment ∈ assignments) :
    (expectedPerSlot baselineSlotCounts assignments).lookup
        assignment.scheduledSlot =
      some (baselineSlotCounts.getD assignment.scheduledSlot 0 +
        slotOccupancy assignments assignment.scheduledSlot) := by
  have used :
      assignment.scheduledSlot ∈
        (assignments.map Assignment.scheduledSlot).dedup :=
    List.mem_dedup.mpr (List.mem_map.mpr ⟨assignment, member, rfl⟩)
  obtain ⟨expected, found⟩ := Dictionary.exists_lookup_ofPairs
    (List.mem_map_of_mem
      (f := fun slot => (slot, baselineSlotCounts.getD slot 0 +
        (slotOccupancy assignments slot : ℤ))) used)
  rw [expectedPerSlot, found]
  obtain ⟨slot, _, same⟩ :=
    List.mem_map.mp (Dictionary.mem_of_lookup_ofPairs found)
  cases same
  rfl

/-- An accepted commit fills no slot beyond the tier expected for it. -/
private theorem filled_le_of_accepted
    {tiers : List CapacityTier} {rollbacks : ℕ} {proposal : SolverProposal σ}
    (ladder : NonDecreasingLadder tiers)
    (unforced : cfg.forceCommit rollbacks = false)
    (accepted :
      (commitAttempt cfg engine tiers rollbacks proposal).1 = .committed)
    {assignment : Assignment} (member : assignment ∈ proposal.assignments) :
    getCapacityMultiplier tiers
        (slotOccupancy engine.shared.assignments.values
            assignment.scheduledSlot +
          slotOccupancy proposal.assignments assignment.scheduledSlot) ≤
      getCapacityMultiplier tiers
        (proposal.baselineSlotCounts.getD assignment.scheduledSlot 0 +
          slotOccupancy proposal.assignments assignment.scheduledSlot) := by
  rw [commitAttempt, unforced] at accepted
  have within := SharedState.not_breachesTier_of_committed accepted
    (lookup_expectedPerSlot proposal.baselineSlotCounts member)
  unfold SharedState.breachesTier at within
  rcases Bool.and_eq_false_iff.mp within with fewer | sameTier
  · exact getCapacityMultiplier_mono ladder
      (not_lt.mp (of_decide_eq_false fewer))
  · exact not_lt.mp (of_decide_eq_false sameTier)

/-- Two positions of one tier have the same price. -/
private theorem paysPosition_of_sameTier
    {policy : AssignmentPolicy} {carbonForecast : List ℚ}
    {pending : List Request} {decision : RequestAssignment}
    {position other : ℤ}
    (pays : PaysPosition policy carbonForecast pending decision position)
    (sameTier : getCapacityMultiplier policy.capacityTiers position =
      getCapacityMultiplier policy.capacityTiers other) :
    PaysPosition policy carbonForecast pending decision other := by
  obtain ⟨flavour, offered, name, error, cost⟩ := pays
  refine ⟨flavour, offered, name, error, ?_⟩
  rw [cost, positionCost, positionCost, sameTier]

/-- A worker commits its proposal without force. -/
structure UnforcedCommit (cfg : Config) (engine : Engine σ) (workerId : ℕ)
    (worker : BatchWorker σ) (tiers : List CapacityTier)
    (proposal : SolverProposal σ) : Prop where
  found : engine.workers.lookup workerId = some worker
  proposed : ∃ rollbacks,
    worker.phase = .proposed tiers rollbacks proposal ∧
      cfg.forceCommit rollbacks = false ∧
      (commitAttempt cfg engine tiers rollbacks proposal).1 = .committed

/-- Position in its slot that an entry of the proposal was priced for. -/
def expectedPosition (proposal : SolverProposal σ) (index : ℕ)
    (slot : ℤ) : ℤ :=
  proposal.baselineSlotCounts.getD slot 0 +
    slotOccupancy (proposal.assignments.take (index + 1)) slot

/-- Position in its slot that an entry of the proposal takes at commit. -/
def truePosition (engine : Engine σ) (proposal : SolverProposal σ)
    (index : ℕ) (slot : ℤ) : ℤ :=
  slotOccupancy engine.shared.assignments.values slot +
    slotOccupancy (proposal.assignments.take (index + 1)) slot

/-- Occupancy of a slot that the solve counted on after its commit. -/
def expectedFill (proposal : SolverProposal σ) (slot : ℤ) : ℤ :=
  proposal.baselineSlotCounts.getD slot 0 +
    slotOccupancy proposal.assignments slot

/-- Occupancy of a slot after the commit. -/
def trueFill (engine : Engine σ) (proposal : SolverProposal σ)
    (slot : ℤ) : ℤ :=
  slotOccupancy engine.shared.assignments.values slot +
    slotOccupancy proposal.assignments slot

/-- How an entry of the proposal is charged, compared with the position it
takes. -/
structure ChargedAsExpected (cfg : Config) (engine : Engine σ)
    (worker : BatchWorker σ) (tiers : List CapacityTier)
    (proposal : SolverProposal σ) (index : ℕ) (assignment : Assignment) :
    Prop where
  pays : PaysPosition (cfg.workerPolicy worker.pending tiers)
    worker.carbonForecast worker.pending assignment.decision
    (expectedPosition proposal index assignment.scheduledSlot)
  le_true :
    getCapacityMultiplier tiers
        (expectedPosition proposal index assignment.scheduledSlot) ≤
      getCapacityMultiplier tiers
        (truePosition engine proposal index assignment.scheduledSlot)
  true_le_fill :
    getCapacityMultiplier tiers
        (truePosition engine proposal index assignment.scheduledSlot) ≤
      getCapacityMultiplier tiers
        (trueFill engine proposal assignment.scheduledSlot)
  /-- The filled slot is as expensive as expected. -/
  fill_eq :
    getCapacityMultiplier tiers
        (trueFill engine proposal assignment.scheduledSlot) =
      getCapacityMultiplier tiers
        (expectedFill proposal assignment.scheduledSlot)
  /-- In the tier of the filled slot, the price is that of the position taken. -/
  pays_true :
    getCapacityMultiplier tiers
        (expectedPosition proposal index assignment.scheduledSlot) =
      getCapacityMultiplier tiers
        (expectedFill proposal assignment.scheduledSlot) →
    PaysPosition (cfg.workerPolicy worker.pending tiers) worker.carbonForecast
      worker.pending assignment.decision
      (truePosition engine proposal index assignment.scheduledSlot)

/-- An accepted commit charges every assignment for the position expected when
it was solved, which costs at most the position it takes; a boundary of the
ladder between the two is left only below the tier of the filled slot. -/
theorem accepted_commit_prices
    (cfg : Config) (runtime : NumericRuntime σ) (actions : List Action)
    (engine : Engine σ) (workerId : ℕ) (worker : BatchWorker σ)
    (tiers : List CapacityTier) (proposal : SolverProposal σ)
    (locked : cfg.solver.dpLockFutureAssignments = true)
    (horizon : 0 < cfg.totalSlots)
    (unique : (requestIds (receivedBy actions)).Nodup)
    (reached : Transition.run (step cfg runtime) (new cfg) actions =
      some engine)
    (ladder : NonDecreasingLadder tiers)
    (commits : UnforcedCommit cfg engine workerId worker tiers proposal)
    (index : ℕ) (assignment : Assignment)
    (located : proposal.assignments[index]? = some assignment) :
    ChargedAsExpected cfg engine worker tiers proposal index assignment := by
  obtain ⟨found, rollbacks, was, unforced, accepted⟩ := commits
  have kept := pricePromise_kept locked horizon unique reached
  obtain ⟨baseline, priced⟩ := (kept workerId worker found).proposed was
  have member := List.mem_of_getElem? located
  have pays : PaysPosition (cfg.workerPolicy worker.pending tiers)
      worker.carbonForecast worker.pending assignment.decision
      (expectedPosition proposal index assignment.scheduledSlot) :=
    priced.getElem? located
  have ahead :
      expectedPosition proposal index assignment.scheduledSlot ≤
        truePosition engine proposal index assignment.scheduledSlot :=
    Int.add_le_add_right (baseline assignment.scheduledSlot) _
  have inside :
      truePosition engine proposal index assignment.scheduledSlot ≤
        trueFill engine proposal assignment.scheduledSlot :=
    Int.add_le_add_left (Int.ofNat_le.mpr
      (List.take_sublist _ proposal.assignments).countP_le) _
  have more :
      expectedFill proposal assignment.scheduledSlot ≤
        trueFill engine proposal assignment.scheduledSlot :=
    Int.add_le_add_right (baseline assignment.scheduledSlot) _
  have sameTier :
      getCapacityMultiplier tiers
          (trueFill engine proposal assignment.scheduledSlot) =
        getCapacityMultiplier tiers
          (expectedFill proposal assignment.scheduledSlot) :=
    le_antisymm (filled_le_of_accepted ladder unforced accepted member)
      (getCapacityMultiplier_mono ladder more)
  have lower := getCapacityMultiplier_mono ladder ahead
  have upper := getCapacityMultiplier_mono ladder inside
  refine ⟨pays, lower, upper, sameTier, fun lastTier => ?_⟩
  exact paysPosition_of_sameTier pays
    (le_antisymm lower (upper.trans (sameTier.trans lastTier.symm).le))

/-! ## A tier boundary inside the batch -/

/-- Every assignment of the proposal pays for the position it takes. -/
def PaysTruePositions (cfg : Config) (engine : Engine σ)
    (worker : BatchWorker σ) (tiers : List CapacityTier)
    (proposal : SolverProposal σ) : Prop :=
  PricedByRank (cfg.workerPolicy worker.pending tiers) worker.carbonForecast
    worker.pending
    (fun slot => slotOccupancy engine.shared.assignments.values slot)
    proposal.assignments

instance (cfg : Config) (engine : Engine σ) (worker : BatchWorker σ)
    (tiers : List CapacityTier) (proposal : SolverProposal σ) :
    Decidable (PaysTruePositions cfg engine worker tiers proposal) :=
  inferInstanceAs (Decidable (Ranking.Ranked _ _ _ _))

/-- One request fills the cheapest tier of a slot. -/
def steepLadder : List CapacityTier :=
  [{ maxRequests := some 1, multiplier := 1 },
    { maxRequests := some 3, multiplier := 3 / 2 },
    { maxRequests := none, multiplier := 5 }]

/-- The default settings with a steep ladder and one rollback per batch. -/
def steepConfig : Config :=
  { Config.default with
    solver := { SolverConfig.default with rollbackMaxConsecutive := 1 }
    capacityTiers := steepLadder }

/-- A profile commits one request between the solve and the commit of a batch
of another profile. -/
def crossingRun : List Action :=
  [.addRequests [.new 0 1 0 0, .new 0 2 0 0],
    .addRequest { Request.new 0 3 0 0 with qosProfileId := ⟨"interactive"⟩ },
    .selectProfile 0 true (List.replicate 24 1), .claimBatch,
    .selectProfile 0 true (List.replicate 24 1), .claimBatch,
    .work 0 .enter, .work 0 .observe, .work 0 (.solve .steady),
    .work 1 .enter, .work 1 .observe, .work 1 (.solve .steady),
    .work 1 .commit]

/-- The proposal of a worker, with the ladder it holds and its rollbacks. -/
def proposalOf (engine : Engine σ) (workerId : ℕ) :
    Option (BatchWorker σ × List CapacityTier × ℕ × SolverProposal σ) :=
  (engine.workers.lookup workerId).bind fun worker =>
    match worker.phase with
    | .proposed tiers rollbacks proposal =>
        some (worker, tiers, rollbacks, proposal)
    | _ => none

theorem proposalOf_eq_some {workerId : ℕ} {worker : BatchWorker σ}
    {tiers : List CapacityTier} {rollbacks : ℕ} {proposal : SolverProposal σ}
    (found : proposalOf engine workerId =
      some (worker, tiers, rollbacks, proposal)) :
    engine.workers.lookup workerId = some worker ∧
      worker.phase = .proposed tiers rollbacks proposal := by
  obtain ⟨moving, lookedUp, proposed⟩ := Option.bind_eq_some_iff.mp found
  split at proposed
  · rename_i was
    cases proposed
    exact ⟨lookedUp, was⟩
  · cases proposed

private theorem crossingRun_outcome :
    ∃ engine worker tiers proposal assignment,
      Transition.run (step steepConfig .least) (new steepConfig) crossingRun =
          some engine ∧
        NonDecreasingLadder tiers ∧
        UnforcedCommit steepConfig engine 0 worker tiers proposal ∧
        proposal.assignments[0]? = some assignment ∧
        ¬ PaysTruePositions steepConfig engine worker tiers proposal := by
  have computed :
      ((Transition.run (step steepConfig .least) (new steepConfig)
          crossingRun).bind fun engine =>
        (proposalOf engine 0).bind fun found =>
          found.2.2.2.assignments[0]?.map fun _ =>
            decide (NonDecreasingLadder found.2.1) &&
              !steepConfig.forceCommit found.2.2.1 &&
              decide ((commitAttempt steepConfig engine found.2.1 found.2.2.1
                found.2.2.2).1 = .committed) &&
              !decide (PaysTruePositions steepConfig engine found.1 found.2.1
                found.2.2.2)) = some true := by
    decide +kernel
  obtain ⟨engine, reached, computed⟩ := Option.bind_eq_some_iff.mp computed
  obtain ⟨⟨worker, tiers, rollbacks, proposal⟩, proposed, computed⟩ :=
    Option.bind_eq_some_iff.mp computed
  obtain ⟨assignment, located, computed⟩ := Option.map_eq_some_iff.mp computed
  simp only [Bool.and_eq_true, Bool.not_eq_true', decide_eq_true_eq,
    decide_eq_false_iff_not] at computed
  obtain ⟨⟨⟨ladder, unforced⟩, accepted⟩, underpriced⟩ := computed
  obtain ⟨found, was⟩ := proposalOf_eq_some proposed
  exact ⟨engine, worker, tiers, proposal, assignment, reached, ladder,
    ⟨found, rollbacks, was, unforced, accepted⟩, located, underpriced⟩

/-- The first of two requests pays the cheapest tier although its position is
taken: the second one alone decides the tier of the filled slot. -/
theorem accepted_commit_underprices :
    ∃ engine worker tiers proposal,
      Transition.run (step steepConfig .least) (new steepConfig) crossingRun =
          some engine ∧
        steepConfig.solver.dpLockFutureAssignments = true ∧
        (requestIds (receivedBy crossingRun)).Nodup ∧
        NonDecreasingLadder tiers ∧
        UnforcedCommit steepConfig engine 0 worker tiers proposal ∧
        ¬ PaysTruePositions steepConfig engine worker tiers proposal := by
  obtain ⟨engine, worker, tiers, proposal, _, reached, ladder, commits, _,
    underpriced⟩ := crossingRun_outcome
  exact ⟨engine, worker, tiers, proposal, reached, rfl, by decide, ladder,
    commits, underpriced⟩

theorem accepted_commit_prices_crossing :
    ∃ engine worker tiers proposal assignment,
      Transition.run (step steepConfig .least) (new steepConfig) crossingRun =
          some engine ∧
        UnforcedCommit steepConfig engine 0 worker tiers proposal ∧
        ChargedAsExpected steepConfig engine worker tiers proposal 0
          assignment := by
  obtain ⟨engine, worker, tiers, proposal, assignment, reached, ladder, commits,
    located, _⟩ := crossingRun_outcome
  exact ⟨engine, worker, tiers, proposal, assignment, reached, commits,
    accepted_commit_prices steepConfig .least crossingRun engine 0 worker tiers
      proposal rfl (by decide) (by decide) reached ladder commits 0 assignment
      located⟩

end Engine

end Carbonshift
