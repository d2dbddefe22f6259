import Carbonshift.Engine.CommittedPrices

/-!
# The error window of a profile

The DP checks the threshold of a profile on a snapshot.  No other worker
touches the profile before the commit, so the check is about the statistics
the engine reports right after it.
-/

namespace Carbonshift

/-! ## Window statistics -/

/-- What the window statistics read of an assignment. -/
def Assignment.windowEntry (assignment : Assignment) : QosProfileId × ℤ × ℚ :=
  (assignment.qosProfileId, assignment.scheduledSlot, assignment.error)

/-- The entries that count for one profile. -/
def profileEntries (profileId : QosProfileId)
    (assignments : List Assignment) : List (QosProfileId × ℤ × ℚ) :=
  (assignments.map Assignment.windowEntry).filter fun entry =>
    decide (entry.1 = profileId)

/-- The window statistics after a list of assignments, of one profile. -/
def profileWindowStats (policy : AssignmentPolicy) (profileId : QosProfileId)
    (slot : ℤ) (assignments : List Assignment) : WindowErrorStats :=
  windowErrorStats
    (assignments.filter
      (SolverSnapshot.inProfileWindow profileId slot policy.errorWindowPast
        policy.errorWindowFuture []))

theorem profileEntries_append (profileId : QosProfileId)
    (assignments others : List Assignment) :
    profileEntries profileId (assignments ++ others) =
      profileEntries profileId assignments ++
        profileEntries profileId others := by
  simp [profileEntries]

theorem profileEntries_of_foreign {profileId : QosProfileId}
    {assignments : List Assignment}
    (foreign : ∀ assignment ∈ assignments,
      assignment.qosProfileId ≠ profileId) :
    profileEntries profileId assignments = [] := by
  refine List.filter_eq_nil_iff.mpr ?_
  simpa [Assignment.windowEntry] using foreign

theorem profileEntries_perm {profileId : QosProfileId}
    {assignments others : List Assignment}
    (same : (assignments.map Assignment.windowEntry).Perm
      (others.map Assignment.windowEntry)) :
    (profileEntries profileId assignments).Perm
      (profileEntries profileId others) :=
  same.filter _

theorem profileEntries_append_perm {profileId : QosProfileId}
    {assignments others : List Assignment} (added : List Assignment)
    (same : (profileEntries profileId assignments).Perm
      (profileEntries profileId others)) :
    (profileEntries profileId (added ++ assignments)).Perm
      (profileEntries profileId (added ++ others)) := by
  rw [profileEntries_append, profileEntries_append]
  exact same.append_left _

private theorem errors_of_window
    (policy : AssignmentPolicy) (profileId : QosProfileId) (slot : ℤ)
    (assignments : List Assignment) :
    (assignments.filter
        (SolverSnapshot.inProfileWindow profileId slot policy.errorWindowPast
          policy.errorWindowFuture [])).map Assignment.error =
      ((profileEntries profileId assignments).filter fun entry =>
        decide (slot - policy.errorWindowPast ≤ entry.2.1) &&
          decide (entry.2.1 ≤ slot + policy.errorWindowFuture)).map
            fun entry => entry.2.2 := by
  rw [profileEntries, List.filter_map, List.filter_map, List.filter_filter,
    List.map_map]
  refine congrArg (List.map Assignment.error) (List.filter_congr ?_)
  intro assignment _
  change _ =
    (decide (slot - policy.errorWindowPast ≤ assignment.scheduledSlot) &&
        decide (assignment.scheduledSlot ≤ slot + policy.errorWindowFuture) &&
      decide (assignment.qosProfileId = profileId))
  rw [Bool.eq_iff_iff]
  simp only [SolverSnapshot.inProfileWindow, Bool.and_eq_true,
    decide_eq_true_eq, List.contains_nil, Bool.not_false, and_true]
  tauto

/-- Only the profile's entries matter. -/
theorem profileWindowStats_congr
    {policy : AssignmentPolicy} {profileId : QosProfileId} {slot : ℤ}
    {assignments others : List Assignment}
    (same : (profileEntries profileId assignments).Perm
      (profileEntries profileId others)) :
    profileWindowStats policy profileId slot assignments =
      profileWindowStats policy profileId slot others := by
  have errors :
      ((assignments.filter
          (SolverSnapshot.inProfileWindow profileId slot
            policy.errorWindowPast policy.errorWindowFuture [])).map
              Assignment.error).Perm
        ((others.filter
          (SolverSnapshot.inProfileWindow profileId slot
            policy.errorWindowPast policy.errorWindowFuture [])).map
              Assignment.error) := by
    rw [errors_of_window, errors_of_window]
    exact (same.filter _).map _
  have lengths := errors.length_eq
  rw [List.length_map, List.length_map] at lengths
  rw [profileWindowStats, profileWindowStats, windowErrorStats,
    windowErrorStats]
  simp only [errors.sum_eq, lengths]

/-! ## The check of the DP -/

/-- The solver's history is the committed window and nothing else. -/
structure PlainHistory (recovery : InfeasibilityConfig)
    (policy : AssignmentPolicy) : Prop where
  mode : normalisedName recovery.recoveryMode = "min_error_greedy"
  noVirtualPast : recovery.prehistoryUseVirtualPast = false
  noDecay : policy.errorWindowPastDecaySlots ≤ 0

section Check

variable {σ : Type} {runtime : NumericRuntime σ}
variable {order : IterationOrder Assignment} {input : BatchSolveContext}

private theorem historyBaseline_of_plain
    (plain : PlainHistory input.recoveryConfig input.assignment) :
    input.historyBaseline runtime [] =
      .new
        (profileWindowStats input.assignment (batchProfileId input.pending)
          input.currentSlot input.snapshot.assignments.values).errorSum
        (profileWindowStats input.assignment (batchProfileId input.pending)
          input.currentSlot input.snapshot.assignments.values).count := by
  have noDecay : input.assignment.errorWindowPastDecaySlots.toNat = 0 :=
    Int.toNat_of_nonpos plain.noDecay
  unfold BatchSolveContext.historyBaseline augmentWithVirtualPrehistory
    augmentWithDecayedPast
  simp only [plain.noVirtualPast, noDecay, Bool.not_false, Bool.true_or,
    if_true]
  rfl

/-- The solver starts from the committed window, without mock requests. -/
private theorem prepareSolve_of_plain
    (runtime : NumericRuntime σ) (order : IterationOrder Assignment)
    (locked : input.solverConfig.dpLockFutureAssignments = true)
    (plain : PlainHistory input.recoveryConfig input.assignment) :
    (prepareSolve runtime order input).1.errorBaseline =
        .new
          (profileWindowStats input.assignment (batchProfileId input.pending)
            input.currentSlot input.snapshot.assignments.values).errorSum
          (profileWindowStats input.assignment (batchProfileId input.pending)
            input.currentSlot input.snapshot.assignments.values).count ∧
      (prepareSolve runtime order input).1.mockPoolInput = .default := by
  unfold prepareSolve applyInfeasibilityRecovery
  simp only [plain.mode, if_true,
    BatchSolveContext.movableFuture_of_locked locked, List.map_nil,
    historyBaseline_of_plain plain, and_self]

variable {solver : DpSolver} {placed : List RequestAssignment}
variable {choices : List Choice}

private theorem slots_of_answersBatch
    {dpInput : SolveBatchInput}
    (answers : solver.AnswersBatch dpInput placed choices)
    {decision : RequestAssignment} (member : decision ∈ placed) :
    dpInput.currentSlot ≤ decision.slot ∧
      decision.slot < solver.windowSize := by
  obtain ⟨request, _, choice, legal, carriesOut⟩ :=
    List.Forall₂.exists_left_of_mem answers.forall₂ member
  have lower := legal.earliest_le
  have upper := legal.le_deadline
  unfold DpSolver.earliestFor at lower
  unfold DpSolver.deadlineFor at upper
  rw [carriesOut.slot_eq]
  omega

/-- The placements the DP accounts for are those the statistics count. -/
private theorem windowPlacements_eq
    (started : 0 ≤ input.currentSlot)
    (answers : solver.AnswersBatch
      ((prepareSolve runtime order input).1.dpInput input) placed choices) :
    (placed.map ((prepareSolve runtime order input).1.toAssignment
        input.flavourDurationByName)).filter
          (SolverSnapshot.inProfileWindow (batchProfileId input.pending)
            input.currentSlot input.assignment.errorWindowPast
            input.assignment.errorWindowFuture []) =
      (solver.windowPlacements
        ((prepareSolve runtime order input).1.dpInput input) placed).map
          ((prepareSolve runtime order input).1.toAssignment
            input.flavourDurationByName) := by
  rw [List.filter_map, DpSolver.windowPlacements]
  refine congrArg (List.map _) (List.filter_congr fun decision member => ?_)
  obtain ⟨lower, upper⟩ := slots_of_answersBatch answers member
  change input.currentSlot ≤ decision.slot at lower
  change
    (decide (batchProfileId input.pending = batchProfileId input.pending) &&
          !([] : List ℕ).contains decision.requestId &&
        decide (input.currentSlot - input.assignment.errorWindowPast ≤
          decision.slot) &&
      decide (decision.slot ≤
        input.currentSlot + input.assignment.errorWindowFuture)) =
    (decide (max (input.currentSlot - input.assignment.errorWindowPast) 0 ≤
        decision.slot) &&
      decide (decision.slot ≤
        min (input.currentSlot + input.assignment.errorWindowFuture)
          (solver.windowSize - 1)))
  rw [Bool.eq_iff_iff]
  simp only [Bool.and_eq_true, decide_eq_true_eq, List.contains_nil,
    Bool.not_false, and_true, true_and]
  omega

/-- The two ways of writing the average of a window. -/
private theorem average_le_of_quantised
    {errorSum threshold : ℚ} {count : ℕ} (threshold_nonneg : 0 ≤ threshold)
    {errorBp countMilli : ℤ} (errorBp_eq : (errorBp : ℚ) = errorSum * 100)
    (countMilli_eq : countMilli = count * 1000)
    (within : countMilli = 0 ∨
      (errorBp : ℚ) / 100 / ((countMilli : ℚ) / 1000) ≤ threshold) :
    (if 0 < count then errorSum / count else 0) ≤ threshold := by
  split
  · rename_i positive
    rcases within with empty | average
    · omega
    · rw [errorBp_eq, countMilli_eq] at average
      push_cast at average
      rwa [mul_div_cancel_right₀ _ (by norm_num),
        mul_div_cancel_right₀ _ (by norm_num)] at average
  · exact threshold_nonneg

/-- An answer of the DP keeps the profile's window within the threshold, as
the statistics see it. -/
theorem windowAverage_le_of_answersBatch
    (locked : input.solverConfig.dpLockFutureAssignments = true)
    (plain : PlainHistory input.recoveryConfig input.assignment)
    (threshold_nonneg : 0 ≤ input.assignment.maxErrorThreshold)
    (started : 0 ≤ input.currentSlot)
    (answers : solver.AnswersBatch
      ((prepareSolve runtime order input).1.dpInput input) placed choices)
    (exactPlaced : ∀ decision ∈ placed, Centesimal decision.error)
    (exactHistory : ∀ assignment ∈ input.snapshot.assignments.values,
      assignment.qosProfileId = batchProfileId input.pending →
        Centesimal assignment.error) :
    (profileWindowStats input.assignment (batchProfileId input.pending)
      input.currentSlot
      (placed.map ((prepareSolve runtime order input).1.toAssignment
          input.flavourDurationByName) ++
        input.snapshot.assignments.values)).average ≤
      input.assignment.maxErrorThreshold := by
  obtain ⟨baseline, noMocks⟩ :=
    prepareSolve_of_plain runtime order locked plain
  have within := answers.within input.assignment.maxErrorThreshold rfl
  have placements := windowPlacements_eq started answers
  set prep := (prepareSolve runtime order input).1 with prep_eq
  set history := profileWindowStats input.assignment
    (batchProfileId input.pending) input.currentSlot
    input.snapshot.assignments.values with history_eq
  set inside := solver.windowPlacements (prep.dpInput input) placed
    with inside_eq
  have flat : DpSolver.mockErrorBp (prep.dpInput input) = 0 := by
    rw [DpSolver.mockErrorBp, PreparedSolve.dpInput, noMocks, MockPool.default]
    simpa using roundHalfAway_intCast 0
  have unused : solver.mocksConsumed (prep.dpInput input) placed = 0 := by
    rw [DpSolver.mocksConsumed, flat]
    exact if_neg (lt_irrefl 0)
  have exactSum : Centesimal history.errorSum := by
    refine centesimal_sum (List.forall_mem_map.mpr fun assignment member => ?_)
    obtain ⟨stored, counted⟩ := List.mem_filter.mp member
    simp only [SolverSnapshot.inProfileWindow, Bool.and_eq_true,
      decide_eq_true_eq] at counted
    exact exactHistory assignment stored counted.1.1.1
  have exactInside : ∀ decision ∈ inside, Centesimal decision.error :=
    fun decision member => exactPlaced decision (List.mem_filter.mp member).1
  have errorBp :
      ((solver.windowErrorBp (prep.dpInput input) placed : ℤ) : ℚ) =
        ((inside.map RequestAssignment.error).sum + history.errorSum) * 100 := by
    rw [DpSolver.windowErrorBp, unused, flat, ← inside_eq,
      PreparedSolve.dpInput, baseline, ErrorBaseline.new]
    rw [Int.cast_sub, Int.cast_add, roundHalfAway_mul_hundred exactSum,
      sum_roundHalfAway_mul_hundred exactInside, mul_zero, Int.cast_zero]
    ring
  have countMilli :
      solver.windowCountMilli (prep.dpInput input) placed =
        ((inside.length + history.count : ℕ) : ℤ) * 1000 := by
    have whole : ((history.count : ℚ) * 1000) =
        ((history.count * 1000 : ℤ) : ℚ) := by push_cast; rfl
    rw [DpSolver.windowCountMilli, unused, if_pos rfl, ← inside_eq,
      PreparedSolve.dpInput, baseline, ErrorBaseline.new, whole,
      roundHalfAway_intCast]
    push_cast
    ring
  have stats :
      (profileWindowStats input.assignment (batchProfileId input.pending)
        input.currentSlot
        (placed.map (prep.toAssignment input.flavourDurationByName) ++
          input.snapshot.assignments.values)).average =
        if 0 < inside.length + history.count then
          ((inside.map RequestAssignment.error).sum + history.errorSum) /
            ((inside.length + history.count : ℕ) : ℚ)
        else
          0 := by
    rw [profileWindowStats, List.filter_append, placements, windowErrorStats,
      List.length_append, List.length_map, List.map_append, List.map_map,
      List.sum_append]
    rfl
  rw [stats]
  exact average_le_of_quantised threshold_nonneg errorBp countMilli within

/-- An answer with status `ok` keeps the profile's window within the
threshold. -/
theorem DpOutcome.windowAverage_le {result : BatchSolveResult}
    (outcome : DpOutcome runtime order input result)
    (ok : result.context.status = "ok")
    (locked : input.solverConfig.dpLockFutureAssignments = true)
    (plain : PlainHistory input.recoveryConfig input.assignment)
    (threshold_nonneg : 0 ≤ input.assignment.maxErrorThreshold)
    (started : 0 ≤ input.currentSlot)
    (exactResult : ∀ assignment ∈ result.assignments,
      Centesimal assignment.error)
    (exactHistory : ∀ assignment ∈ input.snapshot.assignments.values,
      Centesimal assignment.error) :
    (profileWindowStats input.assignment (batchProfileId input.pending)
      input.currentSlot
      (result.assignments ++ input.snapshot.assignments.values)).average ≤
      input.assignment.maxErrorThreshold := by
  cases outcome with
  | infeasible _ status _ =>
      rw [status] at ok
      exact absurd ok (by decide)
  | fallback _ _ _ _ _ status =>
      rw [status] at ok
      exact absurd ok (by decide)
  | @planned solver placed choices _ answers assignments_eq _ _ =>
      rw [assignments_eq] at exactResult ⊢
      exact windowAverage_le_of_answersBatch locked plain threshold_nonneg
        started answers
        (fun decision member => exactResult _ (List.mem_map_of_mem member))
        (fun assignment member _ => exactHistory assignment member)

end Check

/-! ## Settings of the guarantee -/

/-- A policy with exact errors and an undecayed window. -/
structure ExactPolicy (policy : AssignmentPolicy) : Prop where
  noDecay : policy.errorWindowPastDecaySlots ≤ 0
  threshold_nonneg : 0 ≤ policy.maxErrorThreshold
  centesimal : ∀ flavour ∈ policy.flavours, Centesimal flavour.error

/-- Every request brings an exact policy, if it brings one. -/
def ExactRequest (cfg : Config) (request : Request) : Prop :=
  ∀ profile, request.qosProfile = some profile →
    ExactPolicy (cfg.assignmentPolicyForProfile profile)

/-- The DP solves every batch, on the committed window alone. -/
structure WindowSettings (cfg : Config) : Prop where
  locked : cfg.solver.dpLockFutureAssignments = true
  horizon : 0 < cfg.totalSlots
  strategy : selectBatchSolver cfg.solver.solverStrategy = .dp
  mode : normalisedName cfg.infeasibility.recoveryMode = "min_error_greedy"
  noVirtualPast : cfg.infeasibility.prehistoryUseVirtualPast = false
  policy : ExactPolicy cfg.assignmentPolicy

section Settings

variable {cfg : Config} {pending : List Request}

theorem exactPolicy_workerPolicy
    (policy : ExactPolicy cfg.assignmentPolicy)
    (requests : ∀ request ∈ pending, ExactRequest cfg request)
    (tiers : List CapacityTier) :
    ExactPolicy (cfg.workerPolicy pending tiers) := by
  unfold Config.workerPolicy
  cases chosen : pending.head?.bind Request.qosProfile with
  | none => exact ⟨policy.noDecay, policy.threshold_nonneg, policy.centesimal⟩
  | some profile =>
      obtain ⟨request, first, own⟩ := Option.bind_eq_some_iff.mp chosen
      have exact_ :=
        requests request (List.mem_of_mem_head? first) profile own
      exact ⟨exact_.noDecay, exact_.threshold_nonneg, exact_.centesimal⟩

theorem centesimal_of_batchFlavours
    {policy : AssignmentPolicy} (exactPolicy : ExactPolicy policy)
    (requests : ∀ request ∈ pending, ExactRequest cfg request)
    {requestId : ℕ} {flavour : Flavour}
    (offered : flavour ∈ policy.batchFlavours pending requestId) :
    Centesimal flavour.error := by
  rcases List.mem_append.mp offered with global | own
  · exact exactPolicy.centesimal flavour global
  · obtain ⟨request, member, offered⟩ := List.mem_flatMap.mp own
    unfold AssignmentPolicy.offeredFlavours at offered
    cases profiled : request.qosProfile with
    | none =>
        rw [profiled] at offered
        exact exactPolicy.centesimal flavour offered
    | some profile =>
        rw [profiled] at offered
        exact (requests request (List.mem_filter.mp member).1 profile
          profiled).centesimal flavour offered

theorem centesimal_of_pricedByRank
    {policy : AssignmentPolicy} (exactPolicy : ExactPolicy policy)
    (requests : ∀ request ∈ pending, ExactRequest cfg request)
    {carbonForecast : List ℚ} {occupied : ℤ → ℤ}
    {assignments : List Assignment}
    (priced : PricedByRank policy carbonForecast pending occupied assignments) :
    ∀ assignment ∈ assignments, Centesimal assignment.error := by
  intro assignment member
  obtain ⟨index, located⟩ := List.getElem?_of_mem member
  obtain ⟨flavour, offered, _, error, _⟩ := priced.getElem? located
  have sameError : assignment.error = flavour.error := error
  rw [sameError]
  exact centesimal_of_batchFlavours exactPolicy requests offered

end Settings

namespace Engine

variable {σ : Type} {cfg : Config} {runtime : NumericRuntime σ}
variable {engine : Engine σ} {known : List Request}

/-! ## The profile of a worker -/

/-- Nobody else changes what counts for a worker's profile. -/
theorem Settled.profileEntries_perm
    (settled : Settled cfg known engine)
    {after : Dictionary ℕ Assignment} {committer : Option ℕ}
    (change : AssignmentsChange engine false after committer)
    {workerId : ℕ} {worker : BatchWorker σ}
    (found : engine.workers.lookup workerId = some worker)
    (other : committer ≠ some workerId) :
    (profileEntries worker.profileId after.values).Perm
      (profileEntries worker.profileId engine.shared.assignments.values) := by
  cases change with
  | same assignments_eq => rw [assignments_eq]
  | corrected place error_eq assignments_eq =>
      rw [assignments_eq]
      refine Carbonshift.profileEntries_perm
        (Dictionary.map_values_adjust_perm (fun assignment => ?_) _ _)
      rw [Assignment.windowEntry, place.qosProfileId_eq,
        place.scheduledSlot_eq, error_eq rfl, Assignment.windowEntry]
  | @committed moving mover _ _ proposal there was assignments_eq =>
      have foreign : ∀ assignment ∈ proposal.assignments,
          assignment.qosProfileId ≠ worker.profileId := by
        intro assignment member same
        have owned := ((settled.ownBatch moving mover there).proposed was).2
          assignment member
        refine other (congrArg some ?_)
        exact settled.reserved.exclusive there found (owned.symm.trans same)
      rw [assignments_eq]
      refine (Carbonshift.profileEntries_perm
        ((settled.values_of_commit there was).map
          Assignment.windowEntry)).trans ?_
      rw [profileEntries_append, profileEntries_of_foreign foreign,
        List.nil_append]

/-- A correction of a cost keeps the errors; so does a commit of exact ones. -/
private theorem centesimal_of_change
    (settled : Settled cfg known engine)
    {after : Dictionary ℕ Assignment} {committer : Option ℕ}
    (change : AssignmentsChange engine false after committer)
    (exactBefore : ∀ assignment ∈ engine.shared.assignments.values,
      Centesimal assignment.error)
    (exactProposals : ∀ workerId worker tiers rollbacks proposal,
      engine.workers.lookup workerId = some worker →
      worker.phase = .proposed tiers rollbacks proposal →
        ∀ assignment ∈ proposal.assignments, Centesimal assignment.error) :
    ∀ assignment ∈ after.values, Centesimal assignment.error := by
  cases change with
  | same assignments_eq =>
      rw [assignments_eq]
      exact exactBefore
  | @corrected requestId change place error_eq assignments_eq =>
      intro assignment member
      rw [assignments_eq] at member
      have errors := Dictionary.map_values_adjust_perm (error_eq rfl)
        engine.shared.assignments requestId
      have kept := errors.subset (List.mem_map_of_mem member)
      obtain ⟨earlier, stored, same⟩ := List.mem_map.mp kept
      rw [← same]
      exact exactBefore earlier stored
  | committed there was assignments_eq =>
      intro assignment member
      rw [assignments_eq] at member
      rcases List.mem_append.mp
        ((settled.values_of_commit there was).subset member) with new | old
      · exact exactProposals _ _ _ _ _ there was assignment new
      · exact exactBefore assignment old

/-- The observation of a worker agrees with the committed state on its
profile, and committing an accepted DP answer keeps the window average. -/
def windowPromise (cfg : Config) (σ : Type) : PhasePromise σ where
  observed now batch _ view :=
    ∀ snapshot, view = .batch snapshot →
      (∀ assignment ∈ snapshot.assignments.values,
          Centesimal assignment.error) ∧
        (profileEntries batch.profileId now.values).Perm
          (profileEntries batch.profileId snapshot.assignments.values)
  proposed now batch tiers proposal :=
    ∀ context, proposal.context = some context → context.status = "ok" →
      (profileWindowStats (cfg.workerPolicy batch.pending tiers)
        batch.profileId batch.slot
        (proposal.assignments ++ now.values)).average ≤
          (cfg.workerPolicy batch.pending tiers).maxErrorThreshold

private theorem window_rules
    (settings : WindowSettings cfg) (settled : Settled cfg known engine)
    (requests : ∀ request ∈ known, ExactRequest cfg request)
    (exactBefore : ∀ assignment ∈ engine.shared.assignments.values,
      Centesimal assignment.error) :
    (windowPromise cfg σ).Rules cfg runtime engine false where
  observesBatch := by
    intro _ _ _ _ _ _ _ snapshot same
    cases same
    exact ⟨exactBefore, List.Perm.refl _⟩
  observesSwarm := by
    intro _ _ _ _ _ _ _ _ reads snapshot same
    subst same
    cases reads
  solvesBatch := by
    intro workerId worker tiers _ snapshot oracle result _ found was solved
      nonempty observed context same ok
    cases same
    have batch := settled.reserved.wellFormed found
    have started := batch.slot_nonneg settings.horizon
    have unique :=
      (uncommitted_of_owns settled.heldDistinct found (by rw [was]; rfl)).1
    have own := fun request member =>
      requests request (batch.known request member)
    have policy := exactPolicy_workerPolicy settings.policy own tiers
    obtain ⟨exactHistory, sameProfile⟩ := observed snapshot rfl
    have exactResult : ∀ assignment ∈ result.assignments,
        Centesimal assignment.error := by
      rcases BatchSolver.solve_proposal unique batch.someRequest solved
        with nothing | proposal
      · exact absurd nothing nonempty
      · exact centesimal_of_pricedByRank policy own (proposal.priced started)
    rw [settings.strategy] at solved
    have outcome := solveDp_outcome unique batch.someRequest solved
    have bounded := outcome.windowAverage_le ok settings.locked
      ⟨settings.mode, settings.noVirtualPast, policy.noDecay⟩
      policy.threshold_nonneg started exactResult exactHistory
    change (profileWindowStats (cfg.workerPolicy worker.pending tiers)
      (batchProfileId worker.pending) worker.slot
      (result.assignments ++ snapshot.assignments.values)).average ≤ _
      at bounded
    rw [batch.batchProfileId_eq] at bounded
    rw [profileWindowStats_congr (profileEntries_append_perm
      result.assignments sameProfile)]
    exact bounded
  solvesSwarm := by
    intro _ _ _ _ _ _ _ _ _ _ _ _ _ _ _ context same
    cases same
  stable := by
    intro workerId worker after committer found change other holds
    have entries := settled.profileEntries_perm change found other
    refine ⟨fun was snapshot same => ?_, fun was context same ok => ?_⟩
    · obtain ⟨exactHistory, sameProfile⟩ := holds.observed was snapshot same
      exact ⟨exactHistory, entries.trans sameProfile⟩
    · rw [profileWindowStats_congr (profileEntries_append_perm _ entries)]
      exact holds.proposed was context same ok

/-! ## After the commit -/

/-- A correction replaces no error and every received request is exact. -/
structure ExactAction (cfg : Config) (action : Action) : Prop where
  uncorrected : action.correctsError = false
  exactRequests : ∀ request ∈ action.received, ExactRequest cfg request

private theorem exactRequests_of_history {history : List Action}
    (exactActions : ∀ action ∈ history, ExactAction cfg action) :
    ∀ request ∈ receivedBy history, ExactRequest cfg request := by
  intro request member
  obtain ⟨action, performed, received⟩ := List.mem_flatMap.mp member
  exact (exactActions action performed).exactRequests request received

/-- Exact errors, prices and windows hold together in every state. -/
private structure Exact (cfg : Config) (engine : Engine σ) : Prop where
  errors : ∀ assignment ∈ engine.shared.assignments.values,
    Centesimal assignment.error
  prices : (pricePromise cfg σ).Kept engine
  windows : (windowPromise cfg σ).Kept engine

private theorem Exact.step
    (settings : WindowSettings cfg) {history : List Action} {action : Action}
    {next : Engine σ}
    (exactBefore : ∀ earlier ∈ history, ExactAction cfg earlier)
    (exactNow : ExactAction cfg action)
    (settled : Settled cfg (receivedBy history) engine)
    (holds : Exact cfg engine)
    (taken : Engine.step cfg runtime engine action = some next) :
    Exact cfg next := by
  have requests := exactRequests_of_history exactBefore
  obtain ⟨_, change⟩ := (step_effect taken).assignmentsChange
  rw [exactNow.uncorrected] at change
  refine ⟨centesimal_of_change settled change holds.errors ?_,
    (price_rules settings.horizon settled _).kept_of_step holds.prices taken,
    ?_⟩
  · intro workerId worker tiers _ proposal found was
    have own := fun request member =>
      requests request
        ((settled.reserved.wellFormed found).known request member)
    exact centesimal_of_pricedByRank
      (exactPolicy_workerPolicy settings.policy own tiers) own
      ((holds.prices workerId worker found).proposed was).2
  · have rules : (windowPromise cfg σ).Rules cfg runtime engine false :=
      window_rules settings settled requests holds.errors
    rw [← exactNow.uncorrected] at rules
    exact rules.kept_of_step holds.windows taken

private theorem exact_of_run
    (settings : WindowSettings cfg) {actions : List Action}
    (exactActions : ∀ action ∈ actions, ExactAction cfg action)
    (unique : (requestIds (receivedBy actions)).Nodup)
    (reached : Transition.run (step cfg runtime) (new cfg) actions =
      some engine) :
    Settled cfg (receivedBy actions) engine ∧ Exact cfg engine :=
  Settled.run_induction (Or.inl settings.locked) (ExactAction cfg)
    (fun _ state => Exact cfg state)
    ⟨fun _ member => (List.not_mem_nil member).elim,
      PhasePromise.kept_new _ cfg, PhasePromise.kept_new _ cfg⟩
    (fun _ _ _ _ exactBefore exactNow settled holds taken =>
      holds.step settings exactBefore exactNow settled taken)
    exactActions unique reached

/-- Right after the commit of an answer of the DP, the window average of the
profile is within its threshold, whatever the other workers do. -/
theorem dp_commit_within_threshold
    (cfg : Config) (runtime : NumericRuntime σ) (actions : List Action)
    (engine next : Engine σ) (workerId : ℕ) (worker : BatchWorker σ)
    (tiers : List CapacityTier) (rollbacks : ℕ) (proposal : SolverProposal σ)
    (context : SolveContext)
    (settings : WindowSettings cfg)
    (exactActions : ∀ action ∈ actions, ExactAction cfg action)
    (unique : (requestIds (receivedBy actions)).Nodup)
    (reached : Transition.run (step cfg runtime) (new cfg) actions =
      some engine)
    (found : engine.workers.lookup workerId = some worker)
    (was : worker.phase = .proposed tiers rollbacks proposal)
    (solved : proposal.context = some context)
    (ok : context.status = "ok")
    (accepted :
      (commitAttempt cfg engine tiers rollbacks proposal).1 = .committed)
    (taken : step cfg runtime engine (.work workerId .commit) = some next) :
    (next.shared.getProfileWindowErrorStats worker.profileId worker.slot
        (cfg.workerPolicy worker.pending tiers).errorWindowPast
        (cfg.workerPolicy worker.pending tiers).errorWindowFuture
        []).average ≤
      (cfg.workerPolicy worker.pending tiers).maxErrorThreshold := by
  obtain ⟨settled, holds⟩ := exact_of_run settings exactActions unique reached
  have bounded :=
    (holds.windows workerId worker found).proposed was context solved ok
  have committed := settled.values_of_commit found was
  rw [← assignments_of_accepted found was accepted taken] at committed
  have stats : profileWindowStats (cfg.workerPolicy worker.pending tiers)
      worker.profileId worker.slot next.shared.assignments.values =
        profileWindowStats (cfg.workerPolicy worker.pending tiers)
          worker.profileId worker.slot
          (proposal.assignments ++ engine.shared.assignments.values) :=
    profileWindowStats_congr
      (Carbonshift.profileEntries_perm (committed.map Assignment.windowEntry))
  change (profileWindowStats (cfg.workerPolicy worker.pending tiers)
    worker.profileId worker.slot next.shared.assignments.values).average ≤ _
  rw [stats]
  exact bounded

/-- The default settings without decayed or synthetic history. -/
def plainConfig : Config :=
  { Config.default with
    infeasibility :=
      { InfeasibilityConfig.default with recoveryMode := "min_error_greedy" }
    errorWindowPastDecaySlots := 0 }

/-- A batch of two is solved by the DP. -/
def solvedRun : List Action :=
  [.addRequests [.new 0 1 0 3, .new 0 2 0 3],
    .selectProfile 0 true (List.replicate 24 1), .claimBatch, .work 0 .enter,
    .work 0 .observe, .work 0 (.solve .steady)]

private theorem solvedRun_outcome :
    ∃ engine worker tiers rollbacks proposal context next,
      Transition.run (step plainConfig .least) (new plainConfig) solvedRun =
          some engine ∧
        proposalOf engine 0 = some (worker, tiers, rollbacks, proposal) ∧
        proposal.context = some context ∧ context.status = "ok" ∧
        (commitAttempt plainConfig engine tiers rollbacks proposal).1 =
          .committed ∧
        step plainConfig .least engine (.work 0 .commit) = some next := by
  have computed :
      ((Transition.run (step plainConfig .least) (new plainConfig)
          solvedRun).bind fun engine =>
        (proposalOf engine 0).bind fun found =>
          found.2.2.2.context.bind fun context =>
            (step plainConfig .least engine (.work 0 .commit)).map fun _ =>
              decide (context.status = "ok") &&
                decide ((commitAttempt plainConfig engine found.2.1 found.2.2.1
                  found.2.2.2).1 = .committed)) = some true := by
    decide +kernel
  obtain ⟨engine, reached, computed⟩ := Option.bind_eq_some_iff.mp computed
  obtain ⟨⟨worker, tiers, rollbacks, proposal⟩, proposed, computed⟩ :=
    Option.bind_eq_some_iff.mp computed
  obtain ⟨context, solved, computed⟩ := Option.bind_eq_some_iff.mp computed
  obtain ⟨next, taken, computed⟩ := Option.map_eq_some_iff.mp computed
  rw [Bool.and_eq_true, decide_eq_true_eq, decide_eq_true_eq] at computed
  exact ⟨engine, worker, tiers, rollbacks, proposal, context, next, reached,
    proposed, solved, computed.1, computed.2, taken⟩

theorem dp_commit_within_threshold_plain :
    ∃ engine worker tiers rollbacks proposal next,
      Transition.run (step plainConfig .least) (new plainConfig) solvedRun =
          some engine ∧
        proposalOf engine 0 = some (worker, tiers, rollbacks, proposal) ∧
        step plainConfig .least engine (.work 0 .commit) = some next ∧
        (next.shared.getProfileWindowErrorStats worker.profileId worker.slot
            (plainConfig.workerPolicy worker.pending tiers).errorWindowPast
            (plainConfig.workerPolicy worker.pending tiers).errorWindowFuture
            []).average ≤
          (plainConfig.workerPolicy worker.pending tiers).maxErrorThreshold := by
  obtain ⟨engine, worker, tiers, rollbacks, proposal, context, next, reached,
    proposed, solved, ok, accepted, taken⟩ := solvedRun_outcome
  obtain ⟨found, was⟩ := proposalOf_eq_some proposed
  have policy : ExactPolicy plainConfig.assignmentPolicy :=
    ⟨by decide, by decide, by decide +kernel⟩
  have settings : WindowSettings plainConfig :=
    ⟨rfl, by decide, by decide, by decide, rfl, policy⟩
  have uncorrected : ∀ action ∈ solvedRun, action.correctsError = false := by
    decide
  have unprofiled : ∀ action ∈ solvedRun, ∀ request ∈ action.received,
      request.qosProfile = none := by
    decide
  have exactActions : ∀ action ∈ solvedRun, ExactAction plainConfig action := by
    refine fun action performed => ⟨uncorrected action performed, ?_⟩
    intro request received profile own
    rw [unprofiled action performed request received] at own
    cases own
  exact ⟨engine, worker, tiers, rollbacks, proposal, next, reached, proposed, taken,
    dp_commit_within_threshold plainConfig .least solvedRun engine next 0
      worker tiers rollbacks proposal context settings exactActions (by decide)
      reached found was solved ok accepted taken⟩

end Engine

end Carbonshift
