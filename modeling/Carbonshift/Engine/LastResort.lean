import Carbonshift.Engine.Coverage
import Carbonshift.Engine.DpWarmStart
import Carbonshift.Engine.SwarmPlacement

/-!
# The flavour of last resort

Four paths place a request although no candidate keeps the error budget.  Warm
start, singleton strategy and swarm pick look for the least error; the greedy
fallback looks for the longest duration instead, which is the most accurate
flavour in a well calibrated profile only.
-/

namespace Carbonshift

/-- The decision uses a flavour of least error. -/
def UsesMostAccurate (flavours : List Flavour) (name : String) (error : ℚ) :
    Prop :=
  ∃ flavour ∈ flavours, name = flavour.name ∧ error = flavour.error ∧
    ∀ other ∈ flavours, flavour.error ≤ other.error

theorem usesMostAccurate_of_argmin {flavours : List Flavour}
    {flavour : Flavour}
    (least : flavours.argmin Flavour.error = some flavour) :
    UsesMostAccurate flavours flavour.name flavour.error :=
  ⟨flavour, List.argmin_mem least, rfl, rfl, fun _ member =>
    List.le_of_mem_argmin member least⟩

/-- The longest flavour, the last one of equals, is a most accurate one. -/
def LongestIsMostAccurate (flavours : List Flavour) : Prop :=
  ∀ longest, flavours.reverse.argmax Flavour.duration = some longest →
    ∀ other ∈ flavours, longest.error ≤ other.error

/-! ## The greedy fallback -/

namespace DpSolver

variable {solver : DpSolver} {currentSlot : ℤ} {tiers : List CapacityTier}
variable {requestFlavours : Dictionary ℕ (List Flavour)}

/-- The fallback serves the request with its longest flavour. -/
def ServesLongest (solver : DpSolver) (currentSlot : ℤ)
    (requestFlavours : Dictionary ℕ (List Flavour)) (request : SolveRequest)
    (decision : RequestAssignment) : Prop :=
  solver.FallbackPlaceable currentSlot request ∧
    decision.requestId = request.requestId ∧
      ∃ longest, solver.fallbackFlavour requestFlavours request = some longest ∧
        decision.flavourName = longest.name ∧ decision.error = longest.error

/-- The fallback serves exactly the requests that have a slot. -/
theorem PlacesGreedily.serves
    {counts : List ℤ} {requests : List SolveRequest}
    {answer : List RequestAssignment}
    (places : solver.PlacesGreedily currentSlot tiers requestFlavours counts
      requests answer) :
    (∀ decision ∈ answer, ∃ request ∈ requests,
        solver.ServesLongest currentSlot requestFlavours request decision) ∧
      ∀ request ∈ requests,
        solver.FallbackPlaceable currentSlot request →
          ∃ decision ∈ answer,
            solver.ServesLongest currentSlot requestFlavours request
              decision := by
  induction places with
  | nil counts => exact ⟨nofun, nofun⟩
  | skip unplaceable _ inductionHypothesis =>
      obtain ⟨serves, served⟩ := inductionHypothesis
      constructor
      · intro decision member
        obtain ⟨request, listed, serving⟩ := serves decision member
        exact ⟨request, List.mem_cons_of_mem _ listed, serving⟩
      · intro request member placeable
        rcases List.mem_cons.mp member with rfl | behind
        · exact absurd placeable unplaceable
        · exact served request behind placeable
  | place longest first_le le_last _ inductionHypothesis =>
      obtain ⟨serves, served⟩ := inductionHypothesis
      constructor
      · intro decision member
        rcases List.mem_cons.mp member with rfl | behind
        · exact ⟨_, List.mem_cons_self, first_le.trans le_last, rfl, _,
            longest, rfl, rfl⟩
        · obtain ⟨request, listed, serving⟩ := serves decision behind
          exact ⟨request, List.mem_cons_of_mem _ listed, serving⟩
      · intro request member placeable
        rcases List.mem_cons.mp member with rfl | behind
        · exact ⟨_, List.mem_cons_self, placeable, rfl, _, longest, rfl, rfl⟩
        · obtain ⟨decision, listed, serving⟩ :=
            served request behind placeable
          exact ⟨decision, List.mem_cons_of_mem _ listed, serving⟩

/-! ## The warm start -/

section WarmStart

variable {input : SolveBatchInput} {key : DpStateKey} {request : SolveRequest}

/-- No flavour of the request keeps the budget in any slot open to it. -/
def NothingFeasible (solver : DpSolver) (input : SolveBatchInput)
    (key : DpStateKey) (request : SolveRequest) : Prop :=
  ∀ flavour ∈ solver.flavoursFor request.requestId input.requestFlavours,
    ∀ slot, earliestFor input request ≤ slot →
      slot ≤ solver.deadlineFor input request →
        solver.candidateFeasible input key flavour slot = false

/-- Without a feasible candidate the scan finds no best one. -/
theorem scanRequest_best_of_infeasible (minErrorIndex : ℕ)
    (infeasible : solver.NothingFeasible input key request) :
    (solver.scanRequest input key request minErrorIndex).best = none := by
  unfold scanRequest
  refine List.foldlRecOn (motive := fun (scan : SequentialScan) => scan.best = none)
    _ _ rfl fun scan unset candidate candidateMember => ?_
  refine List.foldlRecOn (motive := fun (scan : SequentialScan) => scan.best = none)
    _ _ unset fun scan unset slot slotMember => ?_
  have bounds := mem_slotRange.mp slotMember
  have refused := infeasible candidate.1
    (List.fst_mem_of_mem_zipIdx candidateMember) slot bounds.1 bounds.2
  simp only [scanCandidate, refused, Bool.false_and, Bool.false_eq_true,
    if_false]
  exact unset

/-- The fallback of the warm start is a most accurate flavour. -/
theorem sequentialStep_mostAccurate
    (infeasible : solver.NothingFeasible input key request)
    {decision : RequestAssignment} {nextKey : DpStateKey}
    (placed : solver.sequentialStep input key request =
      some (decision, nextKey)) :
    UsesMostAccurate
      (solver.flavoursFor request.requestId input.requestFlavours)
      decision.flavourName decision.error := by
  simp only [sequentialStep, Option.bind_eq_bind, Option.bind_eq_some_iff,
    Option.pure_def, Option.some.injEq, Prod.mk.injEq] at placed
  obtain ⟨minError, smallest, chosen, picked, rfl, rfl⟩ := placed
  rw [scanRequest_best_of_infeasible minError.2 infeasible, Option.none_or]
    at picked
  obtain ⟨kept, _, rfl⟩ := Option.map_eq_some_iff.mp picked
  refine ⟨minError.1, List.fst_mem_of_mem_zipIdx (List.argmin_mem smallest),
    rfl, rfl, fun other member => ?_⟩
  obtain ⟨index, position⟩ := List.getElem?_of_mem member
  have listed := List.mem_zipIdx_iff_getElem?.mpr
    (show _[((other, index) : Flavour × ℕ).2]? = _ from position)
  have least : minError.1.error ≤ ((other, index) : Flavour × ℕ).1.error :=
    List.le_of_mem_argmin
      (f := fun candidate : Flavour × ℕ => candidate.1.error) listed smallest
  exact least

end WarmStart

end DpSolver

/-! ## Singleton strategy and swarm pick -/

section Others

variable {prep : PreparedSolve} {input : BatchSolveContext}
variable {fallback : Flavour}

/-- The candidates of a request in the singleton scan. -/
theorem mem_singletonCandidates_iff {first last slot : ℤ}
    {flavour : Flavour} :
    (slot, flavour) ∈ singletonCandidates prep first last ↔
      (first ≤ slot ∧ slot ≤ last) ∧ flavour ∈ prep.solverFlavours := by
  simp only [singletonCandidates, List.mem_flatMap, mem_slotRange,
    List.mem_map, List.mem_insertionSort, Prod.mk.injEq]
  constructor
  · rintro ⟨_, bounds, _, member, rfl, rfl⟩
    exact ⟨bounds, member⟩
  · rintro ⟨bounds, member⟩
    exact ⟨slot, bounds, flavour, member, rfl, rfl⟩

/-- Without a feasible flavour the singleton strategy uses a most accurate
one. -/
theorem singletonStep_mostAccurate
    (least : prep.solverFlavours.argmin Flavour.error = some fallback)
    {scan next : SingletonScan} {request : SolveRequest}
    (infeasible : ∀ flavour ∈ prep.solverFlavours,
      singletonFeasible prep input scan
        (prep.assignmentMetadata.getD request.requestId
          (input.currentSlot, request.deadlineSlot)).1 flavour = false)
    (placed : singletonStep prep input fallback scan request = some next) :
    ∃ decision : RequestAssignment,
      next.solved = scan.solved ++ [decision] ∧
        UsesMostAccurate prep.solverFlavours decision.flavourName
          decision.error := by
  have nothing :
      (singletonCandidates prep (max request.earliestSlot input.currentSlot)
        request.deadlineSlot).filter (fun candidate =>
          singletonFeasible prep input scan
            (prep.assignmentMetadata.getD request.requestId
              (input.currentSlot, request.deadlineSlot)).1
            candidate.2) = [] := by
    refine List.filter_eq_nil_iff.mpr ?_
    rintro ⟨slot, flavour⟩ member
    rw [infeasible flavour (mem_singletonCandidates_iff.mp member).2]
    exact Bool.false_ne_true
  have chosen : singletonChoice prep input fallback scan request =
      (max request.earliestSlot input.currentSlot, fallback) := by
    rw [singletonChoice]
    rw [nothing]
    rfl
  rw [singletonStep, chosen] at placed
  split at placed
  · cases placed
  · cases placed
    exact ⟨_, rfl, usesMostAccurate_of_argmin least⟩

/-- Without a feasible flavour the swarm uses a most accurate one. -/
theorem pickFlavour_mostAccurate {policy : AssignmentPolicy}
    (least : policy.flavours.argmin Flavour.error = some fallback)
    (carbonForecast : List ℚ) {tally : SwarmTally} {slot : ℤ}
    (infeasible : ∀ flavour ∈ policy.flavours,
      swarmFeasible policy tally slot flavour = false) :
    UsesMostAccurate policy.flavours
      (pickFlavour policy carbonForecast tally slot fallback).1.name
      (pickFlavour policy carbonForecast tally slot fallback).1.error := by
  have nothing : (sortedFlavours policy.flavours).find?
      (swarmFeasible policy tally slot) = none := by
    refine List.find?_eq_none.mpr fun flavour member => ?_
    rw [infeasible flavour ((List.mem_insertionSort _).mp member)]
    exact Bool.false_ne_true
  rw [pickFlavour, pickFeasibleFlavour, nothing]
  exact usesMostAccurate_of_argmin least

end Others

/-! ## The four paths of a batch -/

section Batch

variable {σ : Type} (runtime : NumericRuntime σ)
variable (order : IterationOrder Assignment) (input : BatchSolveContext)

/-- Whatever the DP leaves out, and wherever a path finds no feasible
candidate, every request gets a most accurate flavour of its own. -/
structure LastResortMostAccurate : Prop where
  greedyFallback : ∀ greedySolver,
    buildSolver input.assignment.flavours input.carbonForecast
        input.assignment input.solverConfig "none" = some greedySolver →
      ∀ placed decisions,
        (prepareSolve runtime order input).1.greedyPlacements input
            greedySolver placed = some decisions →
          ∀ decision ∈ decisions,
            UsesMostAccurate
              (greedySolver.flavoursFor decision.requestId
                input.requestFlavours)
              decision.flavourName decision.error
  warmStart : ∀ (solver : DpSolver) (batch : SolveBatchInput)
      (key : DpStateKey) (request : SolveRequest),
    solver.NothingFeasible batch key request →
      ∀ decision nextKey,
        solver.sequentialStep batch key request = some (decision, nextKey) →
          UsesMostAccurate
            (solver.flavoursFor request.requestId batch.requestFlavours)
            decision.flavourName decision.error
  greedySingleton : ∀ fallback,
    (prepareSolve runtime order input).1.solverFlavours.argmin Flavour.error =
        some fallback →
      ∀ (scan next : SingletonScan) (request : SolveRequest),
        (∀ flavour ∈ (prepareSolve runtime order input).1.solverFlavours,
          singletonFeasible (prepareSolve runtime order input).1 input scan
            ((prepareSolve runtime order input).1.assignmentMetadata.getD
              request.requestId (input.currentSlot, request.deadlineSlot)).1
            flavour = false) →
          singletonStep (prepareSolve runtime order input).1 input fallback
              scan request = some next →
            ∃ decision : RequestAssignment,
              next.solved = scan.solved ++ [decision] ∧
                UsesMostAccurate
                  (prepareSolve runtime order input).1.solverFlavours
                  decision.flavourName decision.error
  swarmPick : ∀ fallback,
    input.assignment.flavours.argmin Flavour.error = some fallback →
      ∀ tally slot,
        (∀ flavour ∈ input.assignment.flavours,
          swarmFeasible input.assignment tally slot flavour = false) →
          UsesMostAccurate input.assignment.flavours
            (pickFlavour input.assignment input.carbonForecast tally slot
              fallback).1.name
            (pickFlavour input.assignment input.carbonForecast tally slot
              fallback).1.error

/-- Every request the fallback can place has a longest flavour that is a most
accurate one. -/
def LongestSuffices : Prop :=
  ∀ greedySolver,
    buildSolver input.assignment.flavours input.carbonForecast
        input.assignment input.solverConfig "none" = some greedySolver →
      ∀ request ∈ input.pending,
        greedySolver.FallbackPlaceable input.currentSlot
            (input.solveRequestOf request) →
          LongestIsMostAccurate
            (greedySolver.flavoursFor request.id input.requestFlavours)

/-- Placements of all requests of the batch with another id. -/
private def placedOthers (requestId : ℕ) : List RequestAssignment :=
  (input.pending.filter fun request => decide (request.id ≠ requestId)).map
    fun request =>
      { requestId := request.id
        flavourName := ""
        slot := 0
        carbonCost := 0
        error := 0 }

private theorem mem_scheduledPendingIds_placedOthers
    (requestId placedId : ℕ) :
    placedId ∈ (prepareSolve runtime order input).1.scheduledPendingIds
        (placedOthers input requestId) ↔
      placedId ≠ requestId ∧ placedId ∈ requestIds input.pending := by
  rw [PreparedSolve.scheduledPendingIds, prepareSolve_pendingIds]
  simp only [placedOthers, requestIds, List.mem_toFinset, List.mem_filter,
    List.mem_map, decide_eq_true_eq]
  constructor
  · rintro ⟨⟨_, ⟨other, ⟨_, different⟩, rfl⟩, rfl⟩, member⟩
    exact ⟨different, member⟩
  · rintro ⟨different, queued, member, rfl⟩
    exact ⟨⟨_, ⟨queued, ⟨member, different⟩, rfl⟩, rfl⟩, queued, member, rfl⟩

/-- Then only the requests of this id are left to the fallback. -/
private theorem mem_unscheduled_placedOthers
    {requestId : ℕ} {request : SolveRequest} :
    request ∈ (prepareSolve runtime order input).1.unscheduled input
        (placedOthers input requestId) ↔
      ∃ queued ∈ input.pending, queued.id = requestId ∧
        input.solveRequestOf queued = request := by
  simp only [PreparedSolve.unscheduled, List.mem_map, List.mem_filter,
    decide_eq_true_eq, mem_scheduledPendingIds_placedOthers]
  constructor
  · rintro ⟨queued, ⟨member, left⟩, same⟩
    refine ⟨queued, member, ?_, same⟩
    by_contra other
    exact left ⟨other, queued, member, rfl⟩
  · rintro ⟨queued, member, own, same⟩
    exact ⟨queued, ⟨member, fun placed => placed.1 own⟩, same⟩

/-- The last resort is accurate exactly where the longest flavour is. -/
theorem last_resort_most_accurate_iff :
    LastResortMostAccurate runtime order input ↔ LongestSuffices input := by
  constructor
  · intro accurate greedySolver built request member placeable longest last
      other offered
    have left := (mem_unscheduled_placedOthers runtime order input).mpr
      ⟨request, member, rfl, rfl⟩
    obtain ⟨decisions, fellBack⟩ : ∃ decisions,
        (prepareSolve runtime order input).1.greedyPlacements input
          greedySolver (placedOthers input request.id) = some decisions := by
      refine greedySolver.greedyFallback_isSome _ fun queued unscheduled => ?_
      obtain ⟨same, _, sameId, rfl⟩ :=
        (mem_unscheduled_placedOthers runtime order input).mp unscheduled
      rw [show (input.solveRequestOf same).requestId = request.id from sameId]
      exact List.ne_nil_of_mem offered
    obtain ⟨decision, chosen, _, requestId_eq, flavour, longest_eq, _,
        error_eq⟩ :=
      (DpSolver.greedyFallback_places fellBack).serves.2 _ left placeable
    obtain ⟨least, _, _, least_eq, below⟩ :=
      accurate.greedyFallback greedySolver built _ _ fellBack decision chosen
    have own : flavour = longest := Option.some.inj (longest_eq.symm.trans last)
    rw [← own, ← error_eq, least_eq]
    refine below other ?_
    rw [requestId_eq]
    exact offered
  · intro suffices_
    refine
      { greedyFallback := fun greedySolver built placed decisions fellBack
          decision chosen => ?_
        warmStart := fun solver batch key request infeasible decision nextKey
          placed => DpSolver.sequentialStep_mostAccurate infeasible placed
        greedySingleton := fun fallback least scan next request infeasible
          placed => singletonStep_mostAccurate least infeasible placed
        swarmPick := fun fallback least tally slot infeasible =>
          pickFlavour_mostAccurate least input.carbonForecast infeasible }
    obtain ⟨solved, unscheduled, placeable, requestId_eq, longest, longest_eq,
        name_eq, error_eq⟩ :=
      (DpSolver.greedyFallback_places fellBack).serves.1 decision chosen
    obtain ⟨request, left, rfl⟩ := List.mem_map.mp unscheduled
    have accurate := suffices_ greedySolver built request
      (List.mem_filter.mp left).1 placeable longest longest_eq
    rw [requestId_eq]
    exact ⟨longest, DpSolver.mem_flavoursFor_of_fallback longest_eq, name_eq,
      error_eq, accurate⟩

end Batch

/-- The longer flavour is the less accurate one, and none meets the
threshold. -/
def invertedProfile : QosProfile where
  profileId := ⟨"inverted-v1"⟩
  taskKind := ⟨"text-generation"⟩
  flavours := [⟨"Slow", 20, 60⟩, ⟨"Quick", 10, 5⟩]
  errorSemantics := "word-overlap-f1-v1"
  maxErrorThreshold := 5
  errorWindow := { pastSlots := 2, futureSlots := 2, pastDecaySlots := 0 }
  cumulativeError := { enabled := false, hard := false }

def invertedBatch : BatchSolveContext :=
  { defaultSolve [.newForQosProfile 0 7 0 3 invertedProfile] with
    assignment := Config.default.assignmentPolicyForProfile invertedProfile }

/-- The profile is accepted, the batch is infeasible, and its request gets the
error of 20 where 10 was to be had. -/
theorem inverted_profile_gets_less_accurate :
    invertedProfile.validate = .ok () ∧
      (solveDp .least .steady invertedBatch).map (fun solved =>
        (solved.1.context.status,
          solved.1.assignments.map Assignment.error)) =
        some ("ok_greedy_after_infeasible", [20]) ∧
      ¬ LastResortMostAccurate .least .entryOrder invertedBatch := by
  refine ⟨by decide +kernel, by decide +kernel, fun accurate => ?_⟩
  have computed :
      (buildSolver invertedBatch.assignment.flavours
        invertedBatch.carbonForecast invertedBatch.assignment
        invertedBatch.solverConfig "none").bind (fun greedySolver =>
          ((prepareSolve .least .entryOrder invertedBatch).1.greedyPlacements
            invertedBatch greedySolver []).map fun decisions =>
              (decisions.map fun decision =>
                (decision.requestId, decision.error),
                greedySolver.flavoursFor 7 invertedBatch.requestFlavours)) =
        some ([(7, 20)], invertedProfile.flavours) := by
    decide +kernel
  obtain ⟨greedySolver, built, outcome⟩ := Option.bind_eq_some_iff.mp computed
  obtain ⟨decisions, fellBack, both⟩ := Option.map_eq_some_iff.mp outcome
  obtain ⟨placements, own⟩ := Prod.mk.inj both
  have inaccurate : ((7, 20) : ℕ × ℚ) ∈
      decisions.map fun decision => (decision.requestId, decision.error) := by
    rw [placements]
    exact List.mem_singleton_self _
  obtain ⟨decision, chosen, same⟩ := List.mem_map.mp inaccurate
  obtain ⟨requestId_eq, error_eq⟩ := Prod.mk.inj same
  obtain ⟨flavour, _, _, least_eq, below⟩ :=
    accurate.greedyFallback greedySolver built [] decisions fellBack decision
      chosen
  rw [requestId_eq, own] at below
  have quick := below ⟨"Quick", 10, 5⟩ (by decide)
  rw [← least_eq, error_eq] at quick
  norm_num at quick

end Carbonshift
