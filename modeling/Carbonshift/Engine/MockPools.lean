import Carbonshift.Engine.SingletonFrame
import Carbonshift.Library.Transition

/-!
# Mock pools across solves

A pool is filled under the recovery mode and consumed under the mode a solve
reports.  No solver reports a recovery mode, so a pool keeps all its mocks for
the rest of the slot.
-/

namespace Carbonshift

/-- The mock pool of a profile. -/
def mockPoolOf (state : RecoveryState) (profileId : QosProfileId) :
    PersistentMockPool :=
  (profileState state profileId 0).mockPool

/-- The pool was filled for the slot under the mode. -/
def PersistentMockPool.Serves (pool : PersistentMockPool) (slot : ℤ)
    (mode : String) : Prop :=
  pool.slot = some slot ∧ pool.mode = some mode

/-- Every pool holds a number of mocks. -/
def NonnegativePools (state : RecoveryState) : Prop :=
  ∀ profileId, 0 ≤ (mockPoolOf state profileId).remaining

/-! ## Operations on the pools -/

section Pools

variable {state : RecoveryState} {profileId : QosProfileId}

@[simp]
theorem mockPoolOf_insert (data : RecoveryData) :
    mockPoolOf (state.insert profileId data) profileId = data.mockPool := by
  simp [mockPoolOf, profileState, Dictionary.getD]

theorem mockPoolOf_insert_of_ne {other : QosProfileId}
    (different : other ≠ profileId) (data : RecoveryData) :
    mockPoolOf (state.insert profileId data) other = mockPoolOf state other := by
  simp [mockPoolOf, profileState, Dictionary.getD,
    AList.lookup_insert_ne different]

/-- A record created at first use has an empty pool. -/
theorem profileState_mockPool
    (state : RecoveryState) (profileId : QosProfileId) (base : ℚ) :
    (profileState state profileId base).mockPool =
      mockPoolOf state profileId := by
  unfold mockPoolOf profileState Dictionary.getD
  cases state.lookup profileId <;> rfl

theorem mockPoolOf_of_lookup {data : RecoveryData}
    (found : state.lookup profileId = some data) :
    mockPoolOf state profileId = data.mockPool := by
  rw [mockPoolOf, profileState, Dictionary.getD_of_lookup found]

theorem nonnegativePools_empty : NonnegativePools ∅ := fun _ => le_refl _

theorem NonnegativePools.insert
    (pools : NonnegativePools state) {data : RecoveryData}
    (nonneg : 0 ≤ data.mockPool.remaining) :
    NonnegativePools (state.insert profileId data) := by
  intro other
  by_cases own : other = profileId
  · subst own
    rw [mockPoolOf_insert]
    exact nonneg
  · rw [mockPoolOf_insert_of_ne own]
    exact pools other

/-- Evaluating the influence touches no pool. -/
theorem mockPoolOf_updateMockInfluence
    (state : RecoveryState) (slot : ℤ) (average threshold : ℚ)
    (profileId : QosProfileId) (recovery : InfeasibilityConfig)
    (other : QosProfileId) :
    mockPoolOf
        (updateMockInfluence state slot average threshold profileId recovery)
        other =
      mockPoolOf state other := by
  unfold updateMockInfluence
  dsimp only
  by_cases own : other = profileId
  · subst own
    split <;> rw [mockPoolOf_insert] <;> exact profileState_mockPool _ _ _
  · split <;> exact mockPoolOf_insert_of_ne own _

theorem lookup_updateMockInfluence_of_ne {other : QosProfileId}
    (different : other ≠ profileId) (slot : ℤ) (average threshold : ℚ)
    (recovery : InfeasibilityConfig) :
    (updateMockInfluence state slot average threshold profileId
        recovery).lookup other =
      state.lookup other := by
  unfold updateMockInfluence
  dsimp only
  split <;> exact AList.lookup_insert_ne different

/-- The profile's pool serves the slot: it did so before, or it was filled.
No other record changed. -/
structure PreparesPool (slot : ℤ) (mode : String) (profileId : QosProfileId)
    (before after : RecoveryState) : Prop where
  serves : (mockPoolOf after profileId).Serves slot mode
  kept : (mockPoolOf before profileId).Serves slot mode →
    mockPoolOf after profileId = mockPoolOf before profileId
  filled : ¬ (mockPoolOf before profileId).Serves slot mode →
    0 ≤ (mockPoolOf after profileId).remaining
  others : ∀ other ≠ profileId, after.lookup other = before.lookup other

section Seeding

variable {σ : Type} (runtime : NumericRuntime σ) (slot : ℤ) (mode : String)
variable (policy : AssignmentPolicy) (simulation : SimulationConfig)
variable (recovery : InfeasibilityConfig) (snapshot : SolverSnapshot)

/-- A pool that serves the slot is left as it is, another one is filled. -/
theorem getOrSeedMockPool_prepares
    {result : (ℤ × ℚ) × RecoveryState}
    (seeded : getOrSeedMockPool runtime state slot profileId mode policy
      simulation recovery snapshot = result) :
    PreparesPool slot mode profileId state result.2 ∧
      result.1 =
        ((mockPoolOf result.2 profileId).remaining,
          (mockPoolOf result.2 profileId).error) := by
  have own := profileState_mockPool state profileId (baseInfluence recovery)
  unfold getOrSeedMockPool at seeded
  dsimp only at seeded
  rw [own] at seeded
  split at seeded
  · rename_i serves
    subst seeded
    exact ⟨⟨serves, fun _ => rfl, fun fresh => absurd serves fresh,
      fun _ _ => rfl⟩, rfl⟩
  · rename_i fresh
    subst seeded
    refine ⟨⟨?_, fun serves => absurd serves fresh, fun _ => ?_, ?_⟩, ?_⟩
    · rw [mockPoolOf_insert]
      exact ⟨rfl, rfl⟩
    · rw [mockPoolOf_insert]
      exact le_max_right _ _
    · exact fun _ different => AList.lookup_insert_ne different
    · rw [mockPoolOf_insert]

end Seeding

/-- Consuming under another mode changes nothing. -/
theorem lookup_consumeMockPool_of_mode_ne {slot : ℤ} {mode : String}
    (different : (mockPoolOf state profileId).mode ≠ some mode)
    (consumed : ℤ) (recoveryMode : String) (other : QosProfileId) :
    (consumeMockPool state slot mode consumed profileId recoveryMode).lookup
        other =
      state.lookup other := by
  unfold consumeMockPool
  split
  · rfl
  · by_cases own : other = profileId
    · subst own
      rw [Dictionary.lookup_adjust_self]
      cases found : state.lookup other with
      | none => rfl
      | some data =>
          rw [mockPoolOf_of_lookup found] at different
          exact congrArg some (if_neg fun both => different both.2)
    · exact Dictionary.lookup_adjust_of_ne own _

/-- Consuming leaves every pool with a number of mocks. -/
theorem NonnegativePools.consumeMockPool
    (pools : NonnegativePools state) (slot : ℤ) (mode : String) (consumed : ℤ)
    (recoveryMode : String) :
    NonnegativePools
      (consumeMockPool state slot mode consumed profileId recoveryMode) := by
  unfold Carbonshift.consumeMockPool
  split
  · exact pools
  · unfold Dictionary.adjust
    split
    · exact pools
    · rename_i data found
      refine pools.insert ?_
      dsimp only
      split
      · exact le_max_right _ _
      · rw [← mockPoolOf_of_lookup found]
        exact pools profileId

theorem NonnegativePools.resetMockPool (pools : NonnegativePools state) :
    NonnegativePools (resetMockPool state profileId) := by
  unfold Carbonshift.resetMockPool Dictionary.adjust
  split
  · exact pools
  · exact pools.insert (le_refl _)

theorem PreparesPool.nonnegativePools
    {slot : ℤ} {mode : String} {after : RecoveryState}
    (prepares : PreparesPool slot mode profileId state after)
    (pools : NonnegativePools state) : NonnegativePools after := by
  intro other
  by_cases own : other = profileId
  · subst own
    by_cases serves : (mockPoolOf state other).Serves slot mode
    · rw [prepares.kept serves]
      exact pools other
    · exact prepares.filled serves
  · have same := prepares.others other own
    have pool : mockPoolOf after other = mockPoolOf state other := by
      rw [mockPoolOf, mockPoolOf, profileState, profileState, Dictionary.getD,
        Dictionary.getD, same]
    rw [pool]
    exact pools other

end Pools

/-! ## One solve -/

/-- The recovery mode fills a mock pool. -/
def InfeasibilityConfig.FillsPool (recovery : InfeasibilityConfig) : Prop :=
  normalisedName recovery.recoveryMode = "carryover" ∨
    normalisedName recovery.recoveryMode = "forecast"

theorem InfeasibilityConfig.FillsPool.ne_greedy
    {recovery : InfeasibilityConfig} (fills : recovery.FillsPool) :
    normalisedName recovery.recoveryMode ≠ "min_error_greedy" := by
  rcases fills with carryover | forecast
  · rw [carryover]
    decide
  · rw [forecast]
    decide

section Prepare

variable {σ : Type} (runtime : NumericRuntime σ)

/-- The pool handed to the solver: none of it when it is empty or free of
error. -/
def suppliedPool (pool : PersistentMockPool) : MockPool :=
  if pool.remaining ≤ 0 ∨ pool.error ≤ 0 then
    .default
  else
    { initialCount := pool.remaining, errorPerRequest := pool.error }

theorem suppliedPool_initialCount {pool : PersistentMockPool}
    (nonneg : 0 ≤ pool.remaining) (positive : 0 < pool.error) :
    (suppliedPool pool).initialCount = pool.remaining := by
  unfold suppliedPool
  split
  · rename_i empty
    rcases empty with none_ | harmless
    · exact le_antisymm nonneg none_
    · exact absurd positive (not_lt.mpr harmless)
  · rfl

/-- Recovery prepares the profile's pool for the slot and hands it on. -/
theorem applyInfeasibilityRecovery_prepares
    {state : RecoveryState} {slot : ℤ} {baseline : ErrorBaseline}
    {profileId : QosProfileId} {policy : AssignmentPolicy}
    {simulation : SimulationConfig} {recovery : InfeasibilityConfig}
    {snapshot : SolverSnapshot}
    (fills : normalisedName recovery.recoveryMode ≠ "min_error_greedy")
    {result : (ErrorBaseline × MockPool) × RecoveryState}
    (applied : applyInfeasibilityRecovery runtime state slot baseline profileId
      policy simulation recovery snapshot = result) :
    PreparesPool slot (normalisedName recovery.recoveryMode) profileId state
        result.2 ∧
      result.1.2 = suppliedPool (mockPoolOf result.2 profileId) := by
  have untouched := mockPoolOf_updateMockInfluence state slot
    baseline.averageError policy.maxErrorThreshold profileId recovery profileId
  unfold applyInfeasibilityRecovery at applied
  dsimp only at applied
  rw [if_neg fills] at applied
  generalize seeded_eq : getOrSeedMockPool runtime _ slot profileId
    (normalisedName recovery.recoveryMode) policy simulation recovery
    snapshot = seeded at applied
  obtain ⟨prepares, seen⟩ := getOrSeedMockPool_prepares runtime slot _ policy
    simulation recovery snapshot seeded_eq
  have state_eq : result.2 = seeded.2 := by
    subst applied
    split <;> rfl
  have handed : result.1.2 = suppliedPool (mockPoolOf seeded.2 profileId) := by
    subst applied
    rw [suppliedPool, seen]
    split <;> rfl
  rw [state_eq]
  refine ⟨⟨prepares.serves, ?_, ?_, ?_⟩, handed⟩
  · rw [← untouched]
    exact prepares.kept
  · rw [← untouched]
    exact prepares.filled
  · intro other different
    exact (prepares.others other different).trans
      (lookup_updateMockInfluence_of_ne different _ _ _ _)

/-- A solve prepares its profile's pool and hands it to the solver. -/
theorem prepareSolve_prepares
    (order : IterationOrder Assignment) (input : BatchSolveContext)
    (fills :
      normalisedName input.recoveryConfig.recoveryMode ≠ "min_error_greedy")
    {prepared : PreparedSolve × RecoveryState}
    (taken : prepareSolve runtime order input = prepared) :
    PreparesPool input.currentSlot
        (normalisedName input.recoveryConfig.recoveryMode)
        (batchProfileId input.pending) input.recoveryState prepared.2 ∧
      prepared.1.mockPoolInput =
        suppliedPool (mockPoolOf prepared.2 (batchProfileId input.pending)) := by
  unfold prepareSolve at taken
  dsimp only at taken
  generalize applied_eq : applyInfeasibilityRecovery runtime
    input.recoveryState input.currentSlot _ (batchProfileId input.pending)
    input.assignment input.simulationConfig input.recoveryConfig
    input.snapshot = applied at taken
  subst taken
  exact applyInfeasibilityRecovery_prepares runtime fills applied_eq

/-- Recovery without mocks empties the profile's pool. -/
private theorem nonnegativePools_of_greedy
    {state : RecoveryState} {slot : ℤ} {baseline : ErrorBaseline}
    {profileId : QosProfileId} {policy : AssignmentPolicy}
    {simulation : SimulationConfig} {recovery : InfeasibilityConfig}
    {snapshot : SolverSnapshot}
    (greedy : normalisedName recovery.recoveryMode = "min_error_greedy")
    (pools : NonnegativePools state) :
    NonnegativePools
      (applyInfeasibilityRecovery runtime state slot baseline profileId policy
        simulation recovery snapshot).2 := by
  unfold applyInfeasibilityRecovery
  dsimp only
  rw [if_pos greedy]
  refine NonnegativePools.resetMockPool fun other => ?_
  rw [mockPoolOf_updateMockInfluence]
  exact pools other

theorem nonnegativePools_prepareSolve
    {order : IterationOrder Assignment} {input : BatchSolveContext}
    (pools : NonnegativePools input.recoveryState) :
    NonnegativePools (prepareSolve runtime order input).2 := by
  generalize taken : prepareSolve runtime order input = prepared
  by_cases greedy :
      normalisedName input.recoveryConfig.recoveryMode = "min_error_greedy"
  · unfold prepareSolve at taken
    have final := congrArg Prod.snd taken
    dsimp only at final
    rw [← final]
    exact nonnegativePools_of_greedy runtime greedy pools
  · exact (prepareSolve_prepares runtime order input greedy
      taken).1.nonnegativePools pools

end Prepare

/-- The modes a batch strategy reports. -/
def ReportedMode (mode : String) : Prop :=
  mode = "greedy_after_infeasible" ∨ mode = "greedy_singleton" ∨
    ∃ pruning, mode = "dp_" ++ pruning

/-- No strategy reports a recovery mode. -/
theorem ReportedMode.ne_recoveryMode
    {mode : String} (reported : ReportedMode mode)
    {recovery : InfeasibilityConfig} (fills : recovery.FillsPool) :
    normalisedName recovery.recoveryMode ≠ mode := by
  intro same
  have recoveryMode : mode = "carryover" ∨ mode = "forecast" := by
    rw [← same]
    exact fills
  rcases reported with rfl | rfl | ⟨pruning, rfl⟩
  · exact absurd recoveryMode (by decide)
  · exact absurd recoveryMode (by decide)
  · have first : ∀ text : String, "dp_" ++ pruning = text →
        text.toList.head? = some 'd' := by
      rintro text rfl
      rw [String.toList_append]
      rfl
    rcases recoveryMode with carryover | forecast
    · exact absurd (first _ carryover) (by decide)
    · exact absurd (first _ forecast) (by decide)

section Solves

variable {σ : Type} {runtime : NumericRuntime σ} {oracle : SolveOracle}
variable {input : BatchSolveContext}

/-- The records after a step that may consume under a reported mode. -/
def ConsumesAsReported (slot : ℤ) (profileId : QosProfileId)
    (recoveryMode : String) (before after : RecoveryState) : Prop :=
  after = before ∨
    ∃ mode consumed, ReportedMode mode ∧
      after =
        consumeMockPool before slot mode consumed profileId recoveryMode

private theorem finish_recovery
    (prep : PreparedSolve) (status mode : String)
    (assignments : List Assignment) (recovery : RecoveryState) :
    (prep.finish status mode assignments input recovery).2 =
      consumeMockPool recovery input.currentSlot mode
        (prep.finish status mode assignments input
          recovery).1.context.mockRecoveryConsumed
        prep.profileId input.recoveryConfig.recoveryMode := by
  rw [PreparedSolve.finish]

private theorem finish_consumes
    {prep : PreparedSolve} {recovery : RecoveryState} {mode : String}
    (reported : ReportedMode mode) (status : String)
    (assignments : List Assignment) :
    ConsumesAsReported input.currentSlot prep.profileId
      input.recoveryConfig.recoveryMode recovery
      (prep.finish status mode assignments input recovery).2 :=
  Or.inr ⟨mode, _, reported, finish_recovery prep status mode assignments
    recovery⟩

private theorem complete_consumes
    {prep : PreparedSolve} {greedySolver : DpSolver} {pruning : String}
    {placed : List RequestAssignment} {recovery after : RecoveryState}
    {result : BatchSolveResult}
    (completed : prep.complete input greedySolver pruning placed recovery =
      some (result, after)) :
    ConsumesAsReported input.currentSlot prep.profileId
      input.recoveryConfig.recoveryMode recovery after := by
  have reported : ∀ missed : Prop, ∀ [Decidable missed],
      ReportedMode
        (if missed then "greedy_after_infeasible" else "dp_" ++ pruning) := by
    intro missed _
    split
    · exact Or.inl rfl
    · exact Or.inr (Or.inr ⟨pruning, rfl⟩)
  obtain ⟨decisions, _, finished⟩ := Option.map_eq_some_iff.mp completed
  have final := congrArg Prod.snd finished
  by_cases uncovered : (decisions.countP fun assignment =>
      assignment.requestId ∈ prep.pendingIds) ≠ prep.pendingIds.card
  · rw [if_pos uncovered] at final
    subst final
    exact Or.inl rfl
  · rw [if_neg uncovered] at final
    subst final
    exact finish_consumes (reported _) _ _

/-- A solve prepares the profile's pool and may consume under the mode it
reports. -/
theorem solve_consumes
    {solver : BatchSolver} {result : BatchSolveResult} {after : RecoveryState}
    (taken : solver.solve runtime oracle input = some (result, after)) :
    ConsumesAsReported input.currentSlot (batchProfileId input.pending)
      input.recoveryConfig.recoveryMode
      (prepareSolve runtime oracle.futureOrder input).2 after := by
  change ConsumesAsReported input.currentSlot
    (prepareSolve runtime oracle.futureOrder input).1.profileId _ _ after
  cases solver with
  | dp =>
      simp only [BatchSolver.solve, solveDp, Option.bind_eq_some_iff] at taken
      obtain ⟨dpSolver, _, greedySolver, _, completed⟩ := taken
      exact complete_consumes completed
  | greedySingleton =>
      obtain ⟨fallback, _, finished⟩ := Option.map_eq_some_iff.mp taken
      split at finished
      · cases finished
        exact Or.inl rfl
      · have final := congrArg Prod.snd finished
        subst final
        exact finish_consumes (Or.inr (Or.inl rfl)) _ _

end Solves

/-! ## Batches without a slot -/

/-- What the engine promises of a claimed batch. -/
structure BatchSolveContext.Claimed (input : BatchSolveContext) : Prop where
  someRequest : input.pending ≠ []
  unique : (requestIds input.pending).Nodup
  uncommitted : ∀ assignment ∈ input.snapshot.assignments.values,
    assignment.requestId ∉ requestIds input.pending
  started : 0 ≤ input.currentSlot
  past_nonneg : 0 ≤ input.assignment.errorWindowPast
  future_nonneg : 0 ≤ input.assignment.errorWindowFuture

/-- A request of the batch has no slot of its own; the singleton strategy also
needs one for every assignment it may move. -/
def BatchSolveContext.LeavesPending (input : BatchSolveContext)
    (solver : BatchSolver) : Prop :=
  (∃ request ∈ input.pending, ¬ HasOwnSlot input request) ∨
    solver = .greedySingleton ∧
      input.solverConfig.dpLockFutureAssignments = false ∧
        ∃ assignment ∈ input.snapshot.assignments.values,
          assignment.qosProfileId = batchProfileId input.pending ∧
            input.currentSlot ≤ assignment.scheduledSlot ∧
              input.Stranded (input.movableRequestOf assignment)

section Placements

variable {σ : Type} {runtime : NumericRuntime σ} {oracle : SolveOracle}
variable {input : BatchSolveContext} {result : BatchSolveResult}
variable {recovery : RecoveryState}

private theorem ServesEach.hasOwnSlot
    (serves : ServesEach input result.assignments) :
    ¬ ∃ request ∈ input.pending, ¬ HasOwnSlot input request := by
  rintro ⟨request, member, stranded⟩
  obtain ⟨_, _, _, lower, upper⟩ := serves request member
  exact stranded (lower.trans upper)

private theorem solveDp_servesEach_or_nothing (claimed : input.Claimed)
    (solved : solveDp runtime oracle input = some (result, recovery)) :
    (result.assignments = [] ∧ input.LeavesPending .dp) ∨
      (ServesEach input result.assignments ∧ ¬ input.LeavesPending .dp) := by
  have disjoint : ¬ ∃ requestId ∈ requestIds input.pending,
      requestId ∈ assignmentIds (input.movableFuture oracle.futureOrder) := by
    rintro ⟨requestId, pending, moves⟩
    obtain ⟨assignment, movable, rfl⟩ := List.mem_map.mp moves
    have stored := ((input.mem_movableFuture_iff oracle.futureOrder
      assignment).mp movable).2.1
    exact claimed.uncommitted assignment stored pending
  rcases (solveDp_outcome claimed.unique claimed.someRequest
      solved).servesEach claimed.future_nonneg disjoint with
    ⟨nothing, stranded⟩ | serves
  · exact Or.inl ⟨nothing, Or.inl stranded⟩
  · refine Or.inr ⟨serves, ?_⟩
    rintro (stranded | ⟨other, _⟩)
    · exact serves.hasOwnSlot stranded
    · cases other

private theorem solveGreedySingleton_servesEach_or_nothing
    (claimed : input.Claimed)
    (solved : solveGreedySingleton runtime oracle input =
      some (result, recovery)) :
    (result.assignments = [] ∧ input.LeavesPending .greedySingleton) ∨
      (ServesEach input result.assignments ∧
        ¬ input.LeavesPending .greedySingleton) := by
  have movable_iff := input.mem_movableFuture_iff oracle.futureOrder
  rcases solveGreedySingleton_cases solved with
    ⟨nothing, failing⟩ | ⟨ids, passing⟩
  · refine Or.inl ⟨nothing, ?_⟩
    rcases exists_mem_solveRequests_iff.mp failing with
      ⟨request, member, stranded⟩ | ⟨assignment, movable, stranded⟩
    · refine Or.inl ⟨request, member, ?_⟩
      rw [hasOwnSlot_iff]
      exact not_not.mpr stranded
    · obtain ⟨unlocked, stored, own, future⟩ := (movable_iff assignment).mp movable
      exact Or.inr ⟨rfl, unlocked, assignment, stored, own, future, stranded⟩
  · rcases solveGreedySingleton_servesEach solved with nothing | serves
    · rw [nothing] at ids
      have none := (List.append_eq_nil_iff.mp ids.symm).1
      exact absurd (List.map_eq_nil_iff.mp none) claimed.someRequest
    · refine Or.inr ⟨serves, ?_⟩
      rintro (stranded | ⟨_, unlocked, assignment, stored, own, future,
        stranded⟩)
      · exact serves.hasOwnSlot stranded
      · have moves := (movable_iff assignment).mpr
          ⟨unlocked, stored, own, future⟩
        exact passing (exists_mem_solveRequests_iff.mpr
          (Or.inr ⟨assignment, moves, stranded⟩))

/-- A solve places nothing exactly if the batch leaves requests pending, and
else serves each request. -/
theorem BatchSolver.solve_servesEach_or_nothing {solver : BatchSolver}
    (claimed : input.Claimed)
    (solved : solver.solve runtime oracle input = some (result, recovery)) :
    (result.assignments = [] ∧ input.LeavesPending solver) ∨
      (ServesEach input result.assignments ∧ ¬ input.LeavesPending solver) := by
  cases solver with
  | dp => exact solveDp_servesEach_or_nothing claimed solved
  | greedySingleton =>
      exact solveGreedySingleton_servesEach_or_nothing claimed solved

end Placements

/-! ## Sequences of solves -/

/-- A batch solve; the solves before it decide its recovery data. -/
structure BatchCall where
  solver : BatchSolver
  oracle : SolveOracle
  input : BatchSolveContext

namespace BatchCall

section Calls

variable {σ : Type} (runtime : NumericRuntime σ) (call : BatchCall)
variable (state : RecoveryState)

def profileId : QosProfileId := batchProfileId call.input.pending

def inputAt : BatchSolveContext :=
  { call.input with recoveryState := state }

def solve : Option (BatchSolveResult × RecoveryState) :=
  call.solver.solve runtime call.oracle (call.inputAt state)

/-- The recovery data after the solve; `none` when it panics. -/
def step (state : RecoveryState) (call : BatchCall) : Option RecoveryState :=
  (call.solve runtime state).map Prod.snd

/-- The profile's pool when the solve reads it. -/
def poolRead : PersistentMockPool :=
  mockPoolOf
    (prepareSolve runtime call.oracle.futureOrder (call.inputAt state)).2
    call.profileId

/-- The mocks the solver gets. -/
def suppliedMocks : ℤ :=
  (prepareSolve runtime call.oracle.futureOrder
    (call.inputAt state)).1.mockPoolInput.initialCount

/-- Number of assignments inside the window of the solve. -/
def insideWindow (result : BatchSolveResult) : ℕ :=
  let policy := call.input.assignment
  let slot := call.input.currentSlot
  result.assignments.countP fun assignment =>
    decide (max (slot - policy.errorWindowPast) 0 ≤ assignment.scheduledSlot ∧
      assignment.scheduledSlot ≤
        min (slot + policy.errorWindowFuture) (policy.totalSlots - 1))

/-- The recovery mode fills a pool with a noticeable mock error. -/
def UsesPool : Prop :=
  call.input.recoveryConfig.FillsPool ∧
    1 / 100 ≤ (call.poolRead runtime state).error

/-- Another solve of the profile in the same slot and mode. -/
structure SamePool (call next : BatchCall) : Prop where
  profile : next.profileId = call.profileId
  slot : next.input.currentSlot = call.input.currentSlot
  mode : normalisedName next.input.recoveryConfig.recoveryMode =
    normalisedName call.input.recoveryConfig.recoveryMode

/-- The solve takes a mock for each of its assignments while there is one,
the next solve gets the others, and no other pool changes. -/
structure ConservesMocks (result : BatchSolveResult) (after : RecoveryState) :
    Prop where
  consumes : (mockPoolOf after call.profileId).remaining =
    call.suppliedMocks runtime state -
      min (call.insideWindow result : ℤ) (call.suppliedMocks runtime state)
  nextGets : ∀ next, SamePool call next →
    next.suppliedMocks runtime after =
      call.suppliedMocks runtime state -
        min (call.insideWindow result : ℤ) (call.suppliedMocks runtime state)
  bounded : 0 ≤ (mockPoolOf after call.profileId).remaining ∧
    (mockPoolOf after call.profileId).remaining ≤
      (call.poolRead runtime state).remaining
  others : ∀ other ≠ call.profileId, after.lookup other = state.lookup other

end Calls

section Invariant

variable {σ : Type} {runtime : NumericRuntime σ} {call : BatchCall}
variable {state : RecoveryState} {result : BatchSolveResult}
variable {after : RecoveryState}

theorem nonnegativePools_solve
    (pools : NonnegativePools state)
    (solved : call.solve runtime state = some (result, after)) :
    NonnegativePools after := by
  have prepared : NonnegativePools
      (prepareSolve runtime call.oracle.futureOrder (call.inputAt state)).2 :=
    nonnegativePools_prepareSolve runtime pools
  rcases solve_consumes solved with kept | ⟨mode, consumed, _, consumes⟩
  · rw [kept]
    exact prepared
  · rw [consumes]
    exact prepared.consumeMockPool _ _ _ _

theorem poolRead_prepares
    (runtime : NumericRuntime σ) (state : RecoveryState)
    (fills : call.input.recoveryConfig.FillsPool) :
    PreparesPool call.input.currentSlot
        (normalisedName call.input.recoveryConfig.recoveryMode)
        call.profileId state
        (prepareSolve runtime call.oracle.futureOrder (call.inputAt state)).2 ∧
      call.suppliedMocks runtime state =
        (suppliedPool (call.poolRead runtime state)).initialCount := by
  obtain ⟨prepares, supplied⟩ := prepareSolve_prepares runtime
    call.oracle.futureOrder (call.inputAt state) fills.ne_greedy rfl
  exact ⟨prepares, congrArg MockPool.initialCount supplied⟩

/-- After the preparation, a solve changes no recovery data. -/
theorem lookup_solve
    (fills : call.input.recoveryConfig.FillsPool)
    (solved : call.solve runtime state = some (result, after))
    (other : QosProfileId) :
    after.lookup other =
      (prepareSolve runtime call.oracle.futureOrder
        (call.inputAt state)).2.lookup other := by
  rcases solve_consumes solved with kept | ⟨mode, consumed, reported, consumes⟩
  · exact congrArg (AList.lookup other) kept
  · have serves := (poolRead_prepares runtime state fills).1.serves.2
    have different : (mockPoolOf
        (prepareSolve runtime call.oracle.futureOrder (call.inputAt state)).2
        (batchProfileId (call.inputAt state).pending)).mode ≠ some mode := by
      intro same
      exact reported.ne_recoveryMode fills
        (Option.some_inj.mp (serves.symm.trans same))
    exact (congrArg (AList.lookup other) consumes).trans
      (lookup_consumeMockPool_of_mode_ne different _ _ _)

/-- The pool keeps all mocks it had when the solve read it. -/
theorem mockPoolOf_solve
    (fills : call.input.recoveryConfig.FillsPool)
    (solved : call.solve runtime state = some (result, after)) :
    mockPoolOf after call.profileId = call.poolRead runtime state := by
  unfold poolRead mockPoolOf profileState Dictionary.getD
  rw [lookup_solve fills solved]

theorem suppliedMocks_eq
    (pools : NonnegativePools state) (uses : call.UsesPool runtime state) :
    call.suppliedMocks runtime state =
      (call.poolRead runtime state).remaining := by
  have nonneg : 0 ≤ (call.poolRead runtime state).remaining :=
    nonnegativePools_prepareSolve runtime pools _
  have positive : 0 < (call.poolRead runtime state).error :=
    lt_of_lt_of_le (by norm_num) uses.2
  rw [(poolRead_prepares runtime state uses.1).2]
  exact suppliedPool_initialCount nonneg positive

/-- The next solve of the profile gets what this one read. -/
theorem suppliedMocks_next
    (pools : NonnegativePools state) (uses : call.UsesPool runtime state)
    (solved : call.solve runtime state = some (result, after))
    {next : BatchCall} (same : SamePool call next) :
    next.suppliedMocks runtime after = call.suppliedMocks runtime state := by
  have kept := mockPoolOf_solve uses.1 solved
  have nextFills : next.input.recoveryConfig.FillsPool := by
    unfold InfeasibilityConfig.FillsPool
    rw [same.mode]
    exact uses.1
  have serves : (mockPoolOf after next.profileId).Serves
      next.input.currentSlot
      (normalisedName next.input.recoveryConfig.recoveryMode) := by
    rw [same.profile, same.slot, same.mode, kept]
    exact (poolRead_prepares runtime state uses.1).1.serves
  have read : next.poolRead runtime after = call.poolRead runtime state := by
    rw [← kept, ← same.profile]
    exact (poolRead_prepares runtime after nextFills).1.kept serves
  have nextUses : next.UsesPool runtime after := by
    refine ⟨nextFills, ?_⟩
    rw [read]
    exact uses.2
  calc next.suppliedMocks runtime after
      = (next.poolRead runtime after).remaining :=
        suppliedMocks_eq (nonnegativePools_solve pools solved) nextUses
    _ = (call.poolRead runtime state).remaining := by rw [read]
    _ = call.suppliedMocks runtime state := (suppliedMocks_eq pools uses).symm

/-- Mocks are taken as they should be exactly when none has to be. -/
theorem conservesMocks_iff
    (pools : NonnegativePools state) (uses : call.UsesPool runtime state)
    (solved : call.solve runtime state = some (result, after)) :
    call.ConservesMocks runtime state result after ↔
      call.suppliedMocks runtime state = 0 ∨ call.insideWindow result = 0 := by
  have supplied := suppliedMocks_eq pools uses
  have kept := mockPoolOf_solve uses.1 solved
  have nonneg := nonnegativePools_solve pools solved call.profileId
  constructor
  · intro conserves
    have consumes := conserves.consumes
    rw [kept, ← supplied] at consumes
    omega
  · intro nothing
    have untaken : min (call.insideWindow result : ℤ)
        (call.suppliedMocks runtime state) = 0 := by
      rw [kept, ← supplied] at nonneg
      omega
    refine ⟨?_, fun next same => ?_, ⟨nonneg, by rw [kept]⟩, ?_⟩
    · rw [kept, untaken, sub_zero, supplied]
    · rw [suppliedMocks_next pools uses solved same, untaken, sub_zero]
    · intro other different
      rw [lookup_solve uses.1 solved]
      exact (poolRead_prepares runtime state uses.1).1.others other different

/-- Nothing is assigned inside the window exactly if the batch leaves requests
pending. -/
theorem insideWindow_eq_zero_iff (claimed : call.input.Claimed)
    (solved : call.solve runtime state = some (result, after)) :
    call.insideWindow result = 0 ↔
      call.input.LeavesPending call.solver := by
  have same : (call.inputAt state).Claimed :=
    { claimed with }
  rcases BatchSolver.solve_servesEach_or_nothing same solved with
    ⟨nothing, leaves⟩ | ⟨serves, placeable⟩
  · refine iff_of_true ?_ leaves
    rw [insideWindow, nothing, List.countP_nil]
  · refine iff_of_false (fun outside => ?_) placeable
    obtain ⟨request, member⟩ :=
      List.exists_mem_of_ne_nil _ claimed.someRequest
    obtain ⟨assignment, placed, _, lower, upper⟩ := serves request member
    refine List.countP_eq_zero.mp outside assignment placed ?_
    have started := claimed.started
    have past := claimed.past_nonneg
    unfold ownFirstSlot at lower
    unfold ownLastSlot at upper
    dsimp only [inputAt] at lower upper
    rw [decide_eq_true_eq]
    omega

end Invariant

/-- In every sequence of solves, each solve that uses a pool takes its mocks
exactly if the pool is empty or nothing is assigned inside the window.  For
batches of the engine the latter means that they leave requests pending. -/
theorem mock_pools_conserved_iff
    {σ : Type} (runtime : NumericRuntime σ) (calls : List BatchCall) :
    (Transition.Guarded (step runtime)
        (fun state call => call.UsesPool runtime state →
          ∀ result after, call.solve runtime state = some (result, after) →
            call.ConservesMocks runtime state result after)
        ∅ calls ↔
      Transition.Guarded (step runtime)
        (fun state call => call.UsesPool runtime state →
          ∀ result after, call.solve runtime state = some (result, after) →
            call.suppliedMocks runtime state = 0 ∨
              call.insideWindow result = 0)
        ∅ calls) ∧
      ((∀ call ∈ calls, call.input.Claimed) →
        (Transition.Guarded (step runtime)
            (fun state call => call.UsesPool runtime state →
              ∀ result after,
                call.solve runtime state = some (result, after) →
                  call.ConservesMocks runtime state result after)
            ∅ calls ↔
          Transition.Guarded (step runtime)
            (fun state call => call.UsesPool runtime state →
              call.solve runtime state ≠ none →
                call.suppliedMocks runtime state = 0 ∨
                  call.input.LeavesPending call.solver)
            ∅ calls)) := by
  have pools : ∀ {earlier : List BatchCall} {state : RecoveryState},
      Transition.run (step runtime) ∅ earlier = some state →
        NonnegativePools state := by
    intro earlier state reached
    refine Transition.run_induction (fun _ => NonnegativePools)
      nonnegativePools_empty ?_ reached
    intro _ before call next holds taken
    obtain ⟨⟨result, after⟩, solved, rfl⟩ := Option.map_eq_some_iff.mp taken
    exact nonnegativePools_solve holds solved
  constructor
  · constructor
    · intro conserved earlier call later split_ state reached uses result after
        solved
      exact (conservesMocks_iff (pools reached) uses solved).mp
        (conserved earlier call later split_ state reached uses result after
          solved)
    · intro nothing earlier call later split_ state reached uses result after
        solved
      exact (conservesMocks_iff (pools reached) uses solved).mpr
        (nothing earlier call later split_ state reached uses result after
          solved)
  · intro claimed
    constructor
    · intro conserved earlier call later split_ state reached uses returns
      obtain ⟨⟨result, after⟩, solved⟩ := Option.ne_none_iff_exists'.mp returns
      have member : call ∈ calls := by
        rw [split_]
        simp
      rw [← insideWindow_eq_zero_iff (claimed call member) solved]
      exact (conservesMocks_iff (pools reached) uses solved).mp
        (conserved earlier call later split_ state reached uses result after
          solved)
    · intro nothing earlier call later split_ state reached uses result after
        solved
      have member : call ∈ calls := by
        rw [split_]
        simp
      refine (conservesMocks_iff (pools reached) uses solved).mpr ?_
      rw [insideWindow_eq_zero_iff (claimed call member) solved]
      exact nothing earlier call later split_ state reached uses
        (by rw [solved]; exact Option.some_ne_none _)

/-! ## A pool that is never consumed -/

/-- A request solved under forecast recovery. -/
def forecastCall (requestId : ℕ) : BatchCall where
  solver := .dp
  oracle := .steady
  input :=
    { defaultSolve [.new 0 requestId 0 3] with
      recoveryConfig :=
        { InfeasibilityConfig.default with recoveryMode := "forecast" } }

/-- One request is placed and the pool keeps all its mocks. -/
theorem mock_pool_never_consumed :
    ¬ Transition.Guarded (step .least)
        (fun state call => call.UsesPool .least state →
          ∀ result after, call.solve .least state = some (result, after) →
            call.ConservesMocks .least state result after)
        ∅ [forecastCall 1, forecastCall 2] := by
  intro conserved
  have computed :
      ((forecastCall 1).solve .least ∅).map (fun solved =>
        ((forecastCall 1).insideWindow solved.1,
          (mockPoolOf solved.2 (forecastCall 1).profileId).remaining,
          (forecastCall 1).suppliedMocks .least ∅,
          decide (1 / 100 ≤ ((forecastCall 1).poolRead .least ∅).error))) =
        some (1, 48, 48, true) := by
    decide +kernel
  obtain ⟨⟨result, after⟩, solved, outcome⟩ :=
    Option.map_eq_some_iff.mp computed
  simp only [Prod.mk.injEq, decide_eq_true_eq] at outcome
  obtain ⟨inside, remaining, supplied, noticeable⟩ := outcome
  have consumes := (conserved [] (forecastCall 1) [forecastCall 2] rfl ∅ rfl
    ⟨Or.inr (by decide +kernel), noticeable⟩ result after solved).consumes
  rw [inside, remaining, supplied] at consumes
  exact absurd consumes (by decide)

end BatchCall

end Carbonshift
