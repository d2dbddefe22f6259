import Carbonshift.Engine.CommittedTotals
import Carbonshift.Engine.WindowGuarantee

/-!
# The cumulative budget of the swarm strategies

A flavour passes the cumulative rule if the profile's average stays within its
threshold.  The most accurate flavour, chosen when none passes, is within the
threshold itself, so it keeps the average there as well.
-/

namespace Carbonshift

/-! ## One batch -/

/-- A tally whose average error is within a threshold, after the placements
made on top of a context. -/
structure Spends (threshold : ℚ) (ctx : SwarmContext) (tally : SwarmTally)
    (solution : List Assignment) : Prop where
  sum_eq : tally.globalErrorSum = ctx.globalErrorSum + totalErrorSum solution
  count_eq : tally.globalCount = ctx.globalCount + solution.length
  within : tally.globalErrorSum ≤ threshold * tally.globalCount

/-- The average stays within a threshold if these assignments are added to a
context. -/
def SwarmContext.Affords (ctx : SwarmContext) (threshold : ℚ)
    (solution : List Assignment) : Prop :=
  ctx.globalErrorSum + totalErrorSum solution ≤
    threshold * (ctx.globalCount + solution.length : ℕ)

/-- The cumulative rule is on, and some flavour is within the threshold. -/
structure AssignmentPolicy.Budgeted (policy : AssignmentPolicy)
    (threshold : ℚ) : Prop where
  enabled : policy.globalErrorConstraintEnabled = true
  threshold_eq : policy.maxErrorThreshold = threshold
  affordable : ∃ flavour ∈ policy.flavours, flavour.error ≤ threshold

section Batch

variable {σ : Type} {runtime : NumericRuntime σ}
variable {policy : AssignmentPolicy} {carbonForecast : List ℚ}
variable {threshold : ℚ} {ctx : SwarmContext} {pending : List Request}

theorem Spends.start (within : ctx.globalErrorSum ≤ threshold * ctx.globalCount) :
    Spends threshold ctx ctx.tally [] :=
  ⟨(add_zero _).symm, rfl, within⟩

theorem Spends.place
    {tally : SwarmTally} {solution : List Assignment} {flavour : Flavour}
    (spends : Spends threshold ctx tally solution)
    (affords : tally.globalErrorSum + flavour.error ≤
      threshold * (tally.globalCount + 1 : ℕ))
    (request : Request) (slot : ℤ) (cost : ℚ) :
    Spends threshold ctx (tally.place slot flavour)
      (solution ++ [makeAssignment request slot flavour cost]) := by
  refine ⟨?_, ?_, affords⟩
  · have added : totalErrorSum
        (solution ++ [makeAssignment request slot flavour cost]) =
          totalErrorSum solution + flavour.error := by
      simp [totalErrorSum, makeAssignment, Assignment.new]
    rw [added, ← add_assoc, ← spends.sum_eq]
    rfl
  · rw [List.length_append, ← Nat.add_assoc, ← spends.count_eq]
    rfl

theorem Spends.affords
    {tally : SwarmTally} {solution : List Assignment}
    (spends : Spends threshold ctx tally solution) :
    ctx.Affords threshold solution := by
  rw [SwarmContext.Affords, ← spends.sum_eq, ← spends.count_eq]
  exact spends.within

/-- The flavour picked for a slot keeps the average within the threshold. -/
theorem pickFlavour_affords
    (carbonForecast : List ℚ) (budgeted : policy.Budgeted threshold)
    {fallback : Flavour} (accurate : fallback.error ≤ threshold)
    {tally : SwarmTally}
    (within : tally.globalErrorSum ≤ threshold * tally.globalCount)
    (slot : ℤ) :
    tally.globalErrorSum +
        (pickFlavour policy carbonForecast tally slot fallback).1.error ≤
      threshold * (tally.globalCount + 1 : ℕ) := by
  unfold pickFlavour pickFeasibleFlavour
  cases found : (sortedFlavours policy.flavours).find?
      (swarmFeasible policy tally slot) with
  | none =>
      simp only [Option.map_none, Option.getD_none]
      push_cast
      linarith
  | some flavour =>
      simp only [Option.map_some, Option.getD_some]
      have feasible := List.find?_some found
      have positive : (0 : ℚ) < tally.globalCount + 1 := by positivity
      have average : ¬ threshold <
          (tally.globalErrorSum + flavour.error) / (tally.globalCount + 1) := by
        intro exceeds
        simp [swarmFeasible, budgeted.enabled, budgeted.threshold_eq,
          exceeds] at feasible
      have affords := (div_le_iff₀ positive).mp (not_lt.mp average)
      push_cast
      exact affords

private theorem accurate_of_argmin
    (budgeted : policy.Budgeted threshold) {fallback : Flavour}
    (least : policy.flavours.argmin Flavour.error = some fallback) :
    fallback.error ≤ threshold := by
  obtain ⟨flavour, offered, cheap⟩ := budgeted.affordable
  exact (List.le_of_mem_argmin offered least).trans cheap

theorem OnlineBanditState.solveBatch_affords
    (budgeted : policy.Budgeted threshold)
    (within : ctx.globalErrorSum ≤ threshold * ctx.globalCount)
    {learned : OnlineBanditState σ}
    {solved : List Assignment × OnlineBanditState σ}
    (answered : learned.solveBatch runtime policy carbonForecast pending ctx =
      some solved) :
    ctx.Affords threshold solved.1 := by
  obtain ⟨fallback, least, rfl⟩ := Option.map_eq_some_iff.mp answered
  have accurate := accurate_of_argmin budgeted least
  have spends : ∀ solving :
      (OnlineBanditState σ × SwarmTally) × List Assignment,
      Spends threshold ctx solving.1.2 solving.2 → ∀ request ∈ pending,
        Spends threshold ctx
          (banditStep runtime policy carbonForecast fallback solving
            request).1.2
          (banditStep runtime policy carbonForecast fallback solving
            request).2 := by
    intro solving spends request _
    unfold banditStep
    split
    · exact spends
    · exact spends.place
        (pickFlavour_affords carbonForecast budgeted accurate
          spends.within _) _ _ _
  have placed := List.foldlRecOn
    (motive := fun solving :
        (OnlineBanditState σ × SwarmTally) × List Assignment =>
      Spends threshold ctx solving.1.2 solving.2)
    pending (banditStep runtime policy carbonForecast fallback)
    (b := ((learned, ctx.tally), [])) (Spends.start within) spends
  exact placed.affords

theorem antWalk_affords
    (runtime : NumericRuntime σ) (carbonForecast : List ℚ)
    (pending : List Request)
    (budgeted : policy.Budgeted threshold)
    (within : ctx.globalErrorSum ≤ threshold * ctx.globalCount)
    {fallback : Flavour} (accurate : fallback.error ≤ threshold)
    (state : OnlineAcoState σ) (rng : σ) :
    ctx.Affords threshold
      (antWalk runtime policy carbonForecast state fallback ctx pending
        rng).solution := by
  have spends : ∀ walk : AntWalk σ,
      Spends threshold ctx walk.tally walk.solution → ∀ request ∈ pending,
        Spends threshold ctx
          (antStep runtime policy carbonForecast state fallback walk
            request).tally
          (antStep runtime policy carbonForecast state fallback walk
            request).solution := by
    intro walk spends request _
    unfold antStep
    split
    · exact spends
    · exact spends.place
        (pickFlavour_affords carbonForecast budgeted accurate spends.within
          _) _ _ _
  have walked := List.foldlRecOn
    (motive := fun walk : AntWalk σ =>
      Spends threshold ctx walk.tally walk.solution)
    pending (antStep runtime policy carbonForecast state fallback)
    (b := ⟨rng, ctx.tally, 0, []⟩) (Spends.start within) spends
  exact walked.affords

/-- The best ant is an ant; a colony without one proposes nothing. -/
theorem OnlineAcoState.solveBatch_affords
    (budgeted : policy.Budgeted threshold)
    (within : ctx.globalErrorSum ≤ threshold * ctx.globalCount)
    {learned : OnlineAcoState σ}
    {solved : List Assignment × OnlineAcoState σ}
    (answered : learned.solveBatch runtime policy carbonForecast pending ctx =
      some solved) :
    ctx.Affords threshold solved.1 := by
  obtain ⟨fallback, least, rfl⟩ := Option.map_eq_some_iff.mp answered
  have accurate := accurate_of_argmin budgeted least
  have walks := fun (state : OnlineAcoState σ) (rng : σ) =>
    antWalk_affords runtime carbonForecast pending budgeted within
      accurate state rng
  have affordable := acoIterations_all walks learned.nIterations
    (show BestSolution.All _
      ((learned, none) : OnlineAcoState σ × BestSolution).2 from
        BestSolution.All.none _)
  dsimp only
  cases best : ((acoIterate runtime policy carbonForecast fallback ctx
      pending)^[learned.nIterations] (learned, none)).2 with
  | none => exact (Spends.start within).affords
  | some kept =>
      rw [best] at affordable
      exact affordable kept rfl

/-- Either strategy keeps the average of a batch within the threshold. -/
theorem OnlineSwarmState.solveBatch_affords
    (budgeted : policy.Budgeted threshold)
    (within : ctx.globalErrorSum ≤ threshold * ctx.globalCount)
    {learned : OnlineSwarmState σ} {slot : ℤ}
    {solved : List Assignment × OnlineSwarmState σ}
    (answered : learned.solveBatch runtime pending slot carbonForecast ctx
      policy = some solved) :
    ctx.Affords threshold solved.1 := by
  cases learned with
  | none =>
      cases answered
      exact (Spends.start within).affords
  | bandit learned =>
      obtain ⟨_, own, rfl⟩ := Option.map_eq_some_iff.mp answered
      exact OnlineBanditState.solveBatch_affords budgeted within own
  | aco learned =>
      obtain ⟨_, own, rfl⟩ := Option.map_eq_some_iff.mp answered
      exact OnlineAcoState.solveBatch_affords budgeted within own

end Batch

/-! ## Profiles -/

/-- Every request of the profile brings the cumulative rule and a flavour
within the threshold. -/
def BudgetedRequests (cfg : Config) (profileId : QosProfileId)
    (threshold : ℚ) (requests : List Request) : Prop :=
  ∀ request ∈ requests, request.qosProfileId = profileId →
    (cfg.requestPolicy request).Budgeted threshold

/-- A batch is solved under the policy of its first request. -/
theorem budgeted_workerPolicy
    {cfg : Config} {known pending : List Request}
    {profileId : QosProfileId} {threshold : ℚ}
    (budgeted : BudgetedRequests cfg profileId threshold known)
    (someRequest : pending ≠ [])
    (known_mem : ∀ request ∈ pending, request ∈ known)
    (own : ∀ request ∈ pending, request.qosProfileId = profileId)
    (tiers : List CapacityTier) :
    (cfg.workerPolicy pending tiers).Budgeted threshold := by
  obtain ⟨request, rest, rfl⟩ := List.exists_cons_of_ne_nil someRequest
  have first : request ∈ request :: rest := List.mem_cons_self
  have policy := budgeted request (known_mem request first) (own request first)
  unfold Config.requestPolicy at policy
  unfold Config.workerPolicy
  cases brought : request.qosProfile with
  | none =>
      rw [brought] at policy
      simp only [List.head?_cons, Option.bind_some, brought]
      exact ⟨policy.enabled, policy.threshold_eq, policy.affordable⟩
  | some profile =>
      rw [brought] at policy
      simp only [List.head?_cons, Option.bind_some, brought]
      exact ⟨policy.enabled, policy.threshold_eq, policy.affordable⟩

section Entries

variable {profileId : QosProfileId}

theorem profileErrorSum_eq_entries (assignments : List Assignment) :
    profileErrorSum profileId assignments =
      ((profileEntries profileId assignments).map fun entry =>
        entry.2.2).sum := by
  induction assignments with
  | nil => rfl
  | cons assignment rest inductionHypothesis =>
      have split : profileErrorSum profileId (assignment :: rest) =
          (if assignment.qosProfileId = profileId then assignment.error
            else 0) + profileErrorSum profileId rest := by
        simp [profileErrorSum]
      rw [split, inductionHypothesis]
      by_cases own : assignment.qosProfileId = profileId
      · simp [profileEntries, Assignment.windowEntry, own]
      · simp [profileEntries, Assignment.windowEntry, own]

theorem profileCount_eq_entries (assignments : List Assignment) :
    profileCount profileId assignments =
      (profileEntries profileId assignments).length := by
  rw [profileCount, profileEntries, List.filter_map, List.length_map,
    List.countP_eq_length_filter]
  rfl

theorem profileErrorSum_of_owned {assignments : List Assignment}
    (owned : ∀ assignment ∈ assignments, assignment.qosProfileId = profileId) :
    profileErrorSum profileId assignments = totalErrorSum assignments := by
  refine congrArg List.sum (List.map_congr_left fun assignment member => ?_)
  exact if_pos (owned assignment member)

theorem profileCount_of_owned {assignments : List Assignment}
    (owned : ∀ assignment ∈ assignments, assignment.qosProfileId = profileId) :
    profileCount profileId assignments = assignments.length :=
  List.countP_eq_length.mpr fun assignment member =>
    decide_eq_true (owned assignment member)

end Entries

namespace Engine

variable {σ : Type} {cfg : Config} {runtime : NumericRuntime σ}
variable {engine : Engine σ} {known : List Request}
variable {profileId : QosProfileId} {threshold : ℚ}

/-- The average of a profile stays within a threshold if these assignments
are added to the committed ones. -/
def WithinBudget (profileId : QosProfileId) (threshold : ℚ)
    (committed : Dictionary ℕ Assignment) (added : List Assignment) : Prop :=
  profileErrorSum profileId committed.values + totalErrorSum added ≤
    threshold * (profileCount profileId committed.values + added.length : ℕ)

theorem withinBudget_congr
    {committed after : Dictionary ℕ Assignment}
    (same : (profileEntries profileId after.values).Perm
      (profileEntries profileId committed.values))
    (added : List Assignment) :
    WithinBudget profileId threshold after added ↔
      WithinBudget profileId threshold committed added := by
  have sums := (same.map fun entry => entry.2.2).sum_eq
  have counts := same.length_eq
  rw [WithinBudget, WithinBudget, profileErrorSum_eq_entries,
    profileErrorSum_eq_entries, profileCount_eq_entries,
    profileCount_eq_entries, sums, counts]

/-- A worker makes swarm observations only; one of the profile reads its totals
and proposes nothing that takes the average beyond the threshold. -/
def budgetPromise (profileId : QosProfileId) (threshold : ℚ) (σ : Type) :
    PhasePromise σ where
  observed now batch _ view :=
    view.swarmContext ≠ none ∧
      (batch.profileId = profileId → ∀ ctx, view.swarmContext = some ctx →
        ctx.globalErrorSum = profileErrorSum profileId now.values ∧
          ctx.globalCount = profileCount profileId now.values)
  proposed now batch _ proposal :=
    batch.profileId = profileId →
      WithinBudget profileId threshold now proposal.assignments

private theorem totalErrorSum_ownedBy (assignments : List Assignment) :
    totalErrorSum (ownedBy profileId assignments) =
      totalErrorSum assignments := by
  simp [totalErrorSum, ownedBy, Function.comp_def]

/-- The totals a swarm worker reads are those of the stored assignments. -/
private theorem swarmContext_totals
    {actions : List Action} (own : ProposesOwnBatches cfg)
    (unique : (requestIds (receivedBy actions)).Nodup)
    (reached : Transition.run (step cfg runtime) (new cfg) actions =
      some engine) (worker : BatchWorker σ)
    (batch_eq : batchProfileId worker.pending = profileId) :
    (swarmContext engine worker).globalErrorSum =
        profileErrorSum profileId engine.shared.assignments.values ∧
      (swarmContext engine worker).globalCount =
        profileCount profileId engine.shared.assignments.values := by
  have noExcess := run_excess_eq_zero own unique reached profileId
  have agree := (run_aggregates_agree reached).profileCount profileId
  rw [← agree, ← sub_eq_zero.mp noExcess, ← batch_eq]
  exact ⟨rfl, rfl⟩

private theorem budget_rules
    (swarm : cfg.workerKind ≠ .batch)
    (settled : Settled cfg known engine)
    (budgeted : BudgetedRequests cfg profileId threshold known)
    (reads : ∀ worker : BatchWorker σ,
      batchProfileId worker.pending = profileId →
        (swarmContext engine worker).globalErrorSum =
            profileErrorSum profileId engine.shared.assignments.values ∧
          (swarmContext engine worker).globalCount =
            profileCount profileId engine.shared.assignments.values)
    (within : WithinBudget profileId threshold engine.shared.assignments []) :
    (budgetPromise profileId threshold σ).Rules cfg runtime engine false where
  observesBatch _ _ kind := absurd kind swarm
  observesSwarm := by
    intro workerId worker _ _ view found _ _ observes
    refine ⟨by simp [observes], fun own ctx same => ?_⟩
    rw [observes] at same
    cases same
    refine reads worker ?_
    exact (settled.reserved.wellFormed found).batchProfileId_eq.trans own
  solvesBatch := by
    intro _ _ _ _ _ _ _ _ _ _ _ _ observed
    exact absurd rfl observed.1
  solvesSwarm := by
    intro workerId worker tiers _ view ctx _ _ _ found _ same answered _
      observed own
    have batch := settled.reserved.wellFormed found
    obtain ⟨sum_eq, count_eq⟩ := observed.2 own ctx same
    have policy := budgeted_workerPolicy budgeted batch.someRequest batch.known
      (fun request member => (batch.own request member).trans own) tiers
    have start : ctx.globalErrorSum ≤ threshold * ctx.globalCount := by
      rw [sum_eq, count_eq]
      simpa [WithinBudget, totalErrorSum] using within
    have affords :=
      OnlineSwarmState.solveBatch_affords policy start answered
    rw [WithinBudget, totalErrorSum_ownedBy, ← sum_eq, ← count_eq, ownedBy,
      List.length_map]
    exact affords
  stable := by
    intro workerId worker after committer found change other holds
    have entries := settled.profileEntries_perm change found other
    refine ⟨fun was => ⟨(holds.observed was).1, fun own ctx same => ?_⟩,
      fun was own => ?_⟩
    · obtain ⟨sum_eq, count_eq⟩ := (holds.observed was).2 own ctx same
      have owned : worker.profileId = profileId := own
      rw [owned] at entries
      rw [sum_eq, count_eq, profileErrorSum_eq_entries,
        profileErrorSum_eq_entries, profileCount_eq_entries,
        profileCount_eq_entries, entries.length_eq,
        (entries.map fun entry => entry.2.2).sum_eq]
      exact ⟨rfl, rfl⟩
    · have owned : worker.profileId = profileId := own
      rw [owned] at entries
      exact (withinBudget_congr entries _).mpr (holds.proposed was own)

/-- A commit stays within the budget; other changes leave the profile as it
is. -/
private theorem withinBudget_of_change
    (settled : Settled cfg known engine)
    (kept : (budgetPromise profileId threshold σ).Kept engine)
    (within : WithinBudget profileId threshold engine.shared.assignments [])
    {after : Dictionary ℕ Assignment} {committer : Option ℕ}
    (change : AssignmentsChange engine false after committer) :
    WithinBudget profileId threshold after [] := by
  cases change with
  | same assignments_eq =>
      rw [assignments_eq]
      exact within
  | @corrected requestId edit place error_eq assignments_eq =>
      rw [assignments_eq]
      refine (withinBudget_congr (profileEntries_perm ?_) []).mpr within
      refine Dictionary.map_values_adjust_perm (fun assignment => ?_) _ _
      rw [Assignment.windowEntry, place.qosProfileId_eq,
        place.scheduledSlot_eq, error_eq rfl, Assignment.windowEntry]
  | @committed workerId worker _ _ proposal found was assignments_eq =>
      have added : (profileEntries profileId
          (engine.shared.addAssignments
            proposal.assignments).assignments.values).Perm
          (profileEntries profileId
            (proposal.assignments ++ engine.shared.assignments.values)) :=
        profileEntries_perm
          ((settled.values_of_commit found was).map Assignment.windowEntry)
      have owned := ((settled.ownBatch workerId worker found).proposed was).2
      rw [assignments_eq]
      by_cases own : worker.profileId = profileId
      · have affords := (kept workerId worker found).proposed was own
        have ownedAll : ∀ assignment ∈ proposal.assignments,
            assignment.qosProfileId = profileId :=
          fun assignment member => (owned assignment member).trans own
        rw [profileEntries_append] at added
        have sums := (added.map fun entry => entry.2.2).sum_eq
        have counts := added.length_eq
        rw [List.map_append, List.sum_append, ← profileErrorSum_eq_entries,
          ← profileErrorSum_eq_entries, ← profileErrorSum_eq_entries,
          profileErrorSum_of_owned ownedAll] at sums
        rw [List.length_append, ← profileCount_eq_entries,
          ← profileCount_eq_entries, ← profileCount_eq_entries,
          profileCount_of_owned ownedAll] at counts
        rw [WithinBudget, sums, counts]
        simpa [WithinBudget, totalErrorSum, add_comm] using affords
      · have foreign : ∀ assignment ∈ proposal.assignments,
            assignment.qosProfileId ≠ profileId :=
          fun assignment member same =>
            own ((owned assignment member).symm.trans same)
        rw [profileEntries_append, profileEntries_of_foreign foreign,
          List.nil_append] at added
        exact (withinBudget_congr added []).mpr within

/-- No action of a run corrects an error, and every request is budgeted. -/
structure BudgetedAction (cfg : Config) (profileId : QosProfileId)
    (threshold : ℚ) (action : Action) : Prop where
  uncorrected : action.correctsError = false
  requests : BudgetedRequests cfg profileId threshold action.received

/-- The committed assignments stay within the budget in every state. -/
theorem run_within_budget
    (swarm : cfg.workerKind ≠ .batch) {actions : List Action}
    (budgeted : ∀ action ∈ actions,
      BudgetedAction cfg profileId threshold action)
    (unique : (requestIds (receivedBy actions)).Nodup)
    (reached : Transition.run (step cfg runtime) (new cfg) actions =
      some engine) :
    WithinBudget profileId threshold engine.shared.assignments [] := by
  refine (Settled.run_induction (Or.inr swarm)
    (BudgetedAction cfg profileId threshold)
    (fun history state =>
      Transition.run (step cfg runtime) (new cfg) history = some state ∧
        WithinBudget profileId threshold state.shared.assignments [] ∧
          (budgetPromise profileId threshold σ).Kept state)
    ?_ ?_ budgeted unique reached).2.2.1
  · refine ⟨rfl, ?_, PhasePromise.kept_new _ cfg⟩
    have nothing : profileErrorSum profileId [] + totalErrorSum [] ≤
        threshold * (profileCount profileId [] + 0 : ℕ) := by
      simp [profileErrorSum, totalErrorSum, profileCount]
    exact nothing
  · rintro history state action next earlier now settled
      ⟨before, within, kept⟩ taken
    have known : BudgetedRequests cfg profileId threshold
        (receivedBy history) := by
      intro request member
      obtain ⟨past, performed, received⟩ := List.mem_flatMap.mp member
      exact (earlier past performed).requests request received
    have rules : (budgetPromise profileId threshold σ).Rules cfg runtime state
        false :=
      budget_rules swarm settled known
        (fun worker => swarmContext_totals (Or.inr swarm) settled.distinct
          before worker) within
    obtain ⟨_, change⟩ := (step_effect taken).assignmentsChange
    rw [now.uncorrected] at change
    rw [← now.uncorrected] at rules
    exact ⟨Transition.run_concat_eq_some_iff.mpr ⟨state, before, taken⟩,
      withinBudget_of_change settled kept within change,
      rules.kept_of_step kept taken⟩

/-- Under a swarm strategy, the cumulative average error of a profile stays
within its threshold. -/
theorem swarm_average_within_threshold
    (cfg : Config) (runtime : NumericRuntime σ) (profileId : QosProfileId)
    (threshold : ℚ) (actions : List Action) (engine : Engine σ)
    (stats : GlobalErrorStats)
    (swarm : cfg.workerKind ≠ .batch)
    (budgeted : ∀ action ∈ actions,
      BudgetedAction cfg profileId threshold action)
    (unique : (requestIds (receivedBy actions)).Nodup)
    (reached : Transition.run (step cfg runtime) (new cfg) actions =
      some engine)
    (found : engine.shared.profileErrorStats.lookup profileId = some stats) :
    stats.errorSum / stats.count ≤ threshold := by
  have within := run_within_budget swarm budgeted unique reached
  have agree := run_aggregates_agree reached
  have noExcess := run_excess_eq_zero (Or.inr swarm) unique reached profileId
  have positive := (agree.averages profileId stats found).1
  have stats_eq :
      engine.shared.profileErrorStats.getD profileId .default = stats := by
    rw [Dictionary.getD, found, Option.getD_some]
  have sum_eq := sub_eq_zero.mp noExcess
  have count_eq := agree.profileCount profileId
  rw [stats_eq] at sum_eq count_eq
  rw [WithinBudget, ← sum_eq, ← count_eq] at within
  refine (div_le_iff₀ (Nat.cast_pos.mpr positive)).mpr ?_
  simpa [totalErrorSum] using within

/-- The default settings with the bandit as the strategy. -/
def banditConfig : Config :=
  { Config.default with
    solver := { SolverConfig.default with solverStrategy := "bandit" } }

/-- A batch of two is committed by the bandit. -/
def banditRun : List Action :=
  [.addRequests [.new 0 1 0 3, .new 0 2 0 3],
    .selectProfile 0 true (List.replicate 24 1), .claimBatch, .work 0 .enter,
    .work 0 .observe, .work 0 (.solve .steady), .work 0 .commit, .release 0]

private theorem banditRun_outcome :
    ∃ engine stats,
      Transition.run (step banditConfig .least) (new banditConfig) banditRun =
          some engine ∧
        engine.shared.profileErrorStats.lookup .defaultProfile =
          some stats ∧
        stats.count = 2 := by
  have computed :
      ((Transition.run (step banditConfig .least) (new banditConfig)
          banditRun).bind fun engine =>
        engine.shared.profileErrorStats.lookup .defaultProfile).map
          GlobalErrorStats.count = some 2 := by
    decide +kernel
  obtain ⟨stats, computed, counted⟩ := Option.map_eq_some_iff.mp computed
  obtain ⟨engine, reached, found⟩ := Option.bind_eq_some_iff.mp computed
  exact ⟨engine, stats, reached, found, counted⟩

theorem swarm_average_within_threshold_bandit :
    ∃ engine stats,
      Transition.run (step banditConfig .least) (new banditConfig) banditRun =
          some engine ∧
        engine.shared.profileErrorStats.lookup .defaultProfile =
          some stats ∧
        stats.count = 2 ∧ stats.errorSum / stats.count ≤ (4 : ℚ) := by
  obtain ⟨engine, stats, reached, found, counted⟩ := banditRun_outcome
  have uncorrected : ∀ action ∈ banditRun, action.correctsError = false := by
    decide
  have unprofiled : ∀ action ∈ banditRun, ∀ request ∈ action.received,
      request.qosProfile = none := by
    decide
  have policy : banditConfig.assignmentPolicy.Budgeted 4 :=
    ⟨rfl, rfl, _, List.mem_cons_self, by decide⟩
  have budgeted : ∀ action ∈ banditRun,
      BudgetedAction banditConfig .defaultProfile 4 action := by
    refine fun action performed => ⟨uncorrected action performed, ?_⟩
    intro request received _
    rw [Config.requestPolicy, unprofiled action performed request received]
    exact policy
  exact ⟨engine, stats, reached, found, counted,
    swarm_average_within_threshold banditConfig .least .defaultProfile 4
      banditRun engine stats (by decide) budgeted (by decide) reached found⟩

end Engine

end Carbonshift
