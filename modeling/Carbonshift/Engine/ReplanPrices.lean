import Carbonshift.Engine.Conservation
import Carbonshift.Engine.SingleWriter

/-!
# Prices of replanned assignments

With unlocked future assignments a batch carries the profile's committed
assignments along.  Two tables do not know them: their flavours are missing
from the overrides of the batch, so the duration stored for them comes from the
global table; and when the search finds nothing, the fallback counts the slots
as if they were gone, although they stay.
-/

namespace Carbonshift

/-! ## What the search may answer -/

namespace DpSolver

variable (solver : DpSolver) (input : SolveBatchInput) (oracle : SearchOracle)

/-- A joint placement that the batch accepts. -/
structure Plans (choices : List Choice) : Prop where
  legal : solver.LegalChoices input choices
  within : solver.WithinThreshold input (solver.priceChoices input [] choices)

/-- Nothing is pruned, and the time does not run out. -/
structure Exhaustive : Prop where
  unpruned : solver.pruning = "none"
  inTime : ∀ layer, oracle.elapsed layer ≤ solver.timeout

/-- The search may answer with an accepted placement; an exhaustive one only
if no other costs less. -/
structure MayAnswer (choices : List Choice) : Prop where
  plans : solver.Plans input choices
  cheapest : solver.Exhaustive oracle → ∀ others, solver.Plans input others →
    totalCarbonCost (solver.priceChoices input [] choices) ≤
      totalCarbonCost (solver.priceChoices input [] others)

/-- The search is exhaustive and there is something to find, or its warm start
is feasible. -/
inductive SurelyAnswers : Prop where
  | exhaustive {choices : List Choice} (searches : solver.Exhaustive oracle)
      (plans : solver.Plans input choices)
  | warmStart
      (placeable : ∀ request ∈ input.requests, solver.Placeable input request)
      (feasible : solver.WithinThreshold input
        (solver.computeSequentialSolution input).1)

variable {solver input oracle} {choices : List Choice}

/-- A request with a legal choice can be placed. -/
theorem placeable_of_legalChoices
    (legal : solver.LegalChoices input choices) :
    ∀ request ∈ input.requests, solver.Placeable input request := by
  intro request member
  obtain ⟨choice, _, legalChoice⟩ :=
    List.Forall₂.exists_left_of_mem legal.flip member
  exact ⟨List.ne_nil_of_mem legalChoice.flavour_mem,
    legalChoice.earliest_le.trans legalChoice.le_deadline⟩

theorem AnswersBatch.mayAnswer
    (answers : solver.AnswersBatch input (solver.solveBatch input oracle)
      choices)
    (started : 0 ≤ input.currentSlot) (someRequest : input.requests ≠ []) :
    solver.MayAnswer input oracle choices := by
  have priced := answers.eq_priceChoices started
  have within := answers.within
  rw [priced] at within
  refine ⟨⟨answers.legal, within⟩, fun searches others plans => ?_⟩
  rw [← priced]
  exact (solveBatch_le_of_legal searches.unpruned searches.inTime started
    someRequest (placeable_of_legalChoices plans.legal) plans.legal
    plans.within).2

theorem SurelyAnswers.solveBatch_ne_nil
    (answers : solver.SurelyAnswers input oracle)
    (started : 0 ≤ input.currentSlot) (someRequest : input.requests ≠ []) :
    solver.solveBatch input oracle ≠ [] := by
  cases answers with
  | exhaustive searches plans =>
      exact (solveBatch_le_of_legal searches.unpruned searches.inTime started
        someRequest (placeable_of_legalChoices plans.legal) plans.legal
        plans.within).1
  | warmStart placeable feasible =>
      obtain ⟨choices, answers, _⟩ := exists_answersBatch_of_warmStart oracle
        someRequest placeable feasible
      exact answers.ne_nil someRequest

end DpSolver

/-! ## What is promised -/

namespace BatchSolveContext

section Definitions

variable (input : BatchSolveContext)

/-- The committed assignments a proposal does not replace. -/
def staying (assignments : List Assignment) : List Assignment :=
  input.snapshot.assignments.values.filter fun placed =>
    decide (placed.requestId ∉ assignmentIds assignments)

/-- The assignment stores the duration of its flavour and costs what its
position costs at that duration. -/
structure SelfConsistent (assignment : Assignment) (position : ℤ) : Prop where
  duration_eq : ∃ flavour ∈ input.assignment.flavours,
    assignment.flavourName = flavour.name ∧
      assignment.flavourDuration = flavour.duration
  costs : CostsPosition input.assignment input.carbonForecast assignment
    position

instance (assignment : Assignment) (position : ℤ) :
    Decidable (input.SelfConsistent assignment position) :=
  have : Decidable (CostsPosition input.assignment input.carbonForecast
      assignment position) := inferInstanceAs (Decidable (_ = _))
  decidable_of_iff (_ ∧ _)
    ⟨fun both => ⟨both.1, both.2⟩, fun consistent =>
      ⟨consistent.duration_eq, consistent.costs⟩⟩

/-- Every assignment of the proposal is consistent at the position it takes
behind the assignments that stay and the earlier ones of the proposal. -/
def ReplansConsistently (assignments : List Assignment) : Prop :=
  Ranking.Ranked Assignment.scheduledSlot input.SelfConsistent
    (fun slot => (slotOccupancy (input.staying assignments) slot : ℤ))
    assignments

variable {σ : Type} (runtime : NumericRuntime σ) (oracle : SolveOracle)

/-- The joint placement of the search. -/
def searchDecisions : List RequestAssignment :=
  let prep := (prepareSolve runtime oracle.futureOrder input).1
  ((buildSolver prep.solverFlavours input.carbonForecast input.assignment
    input.solverConfig
    (getEffectivePruningMode input.pending.length input.solverConfig)).map
      fun solver =>
        solver.solveBatch (prep.dpInput input) oracle.search).getD []

/-- The placement of the fallback when the search finds nothing. -/
def fallbackDecisions : List RequestAssignment :=
  ((buildSolver input.assignment.flavours input.carbonForecast
    input.assignment input.solverConfig "none").bind fun greedySolver =>
      (prepareSolve runtime oracle.futureOrder input).1.greedyPlacements input
        greedySolver []).getD []

/-- Price of a unit of work at a position of a slot. -/
def unitPrice (slot position : ℤ) : ℚ :=
  (slotEntry input.carbonForecast slot).getD 1 *
    getCapacityMultiplier input.assignment.capacityTiers position *
    input.assignment.carbonCostDurationScale

/-- The global table agrees on the flavour of a name. -/
def TableAgrees (flavourName : String) : Prop :=
  ∀ flavour ∈ input.assignment.flavours, flavourName = flavour.name →
    input.flavourDurationByName.getD flavour.name 0 = flavour.duration

/-- The choices of the solve hide what the tables do not know: the global
table agrees on the flavours of replanned requests, and the assignments a
fallback leaves in place do not change the price of a position it takes. -/
structure DecisionsSuffice : Prop where
  replanned : ∀ decision ∈ input.searchDecisions runtime oracle,
    decision.requestId ∈
        assignmentIds (input.movableFuture oracle.futureOrder) →
      input.TableAgrees decision.flavourName
  fallback : input.searchDecisions runtime oracle = [] →
    (input.fallbackDecisions runtime oracle).length = input.pending.length →
      Ranking.Ranked RequestAssignment.slot
        (fun decision position =>
          input.unitPrice decision.slot position =
            input.unitPrice decision.slot
              (position + slotOccupancy
                (input.movableFuture oracle.futureOrder) decision.slot))
        (fun slot =>
          (slotOccupancy (input.fixedFuture oracle.futureOrder) slot : ℤ))
        (input.fallbackDecisions runtime oracle)

/-- The batch as the search sees it, and the solver of the search. -/
def searchInput : SolveBatchInput :=
  (prepareSolve runtime oracle.futureOrder input).1.dpInput input

def searchSolver : Option DpSolver :=
  buildSolver (prepareSolve runtime oracle.futureOrder input).1.solverFlavours
    input.carbonForecast input.assignment input.solverConfig
    (getEffectivePruningMode input.pending.length input.solverConfig)

/-- The global table agrees on the flavours of the movable requests. -/
def PlanAgrees (choices : List Choice) : Prop :=
  ∀ choice ∈ choices,
    choice.request.requestId ∈
        assignmentIds (input.movableFuture oracle.futureOrder) →
      input.TableAgrees choice.flavour.name

/-- A slot that the fallback considers for a pending request. -/
structure FallbackSlot (request : Request) (slot : ℤ) : Prop where
  first_le : DpSolver.fallbackFirst input.currentSlot
    (input.solveRequestOf request) ≤ slot
  le_last : slot ≤
    min (max (input.solveRequestOf request).deadlineSlot input.currentSlot)
      (input.assignment.totalSlots - 1)

/-- The tables say the same with and without the movable requests: on their
flavours in every placement the search may answer with, and, unless the search
surely answers, in every position in which the fallback may place a batch that
it can serve. -/
structure TablesSuffice : Prop where
  replanned : ∀ solver, input.searchSolver runtime oracle = some solver →
    ∀ choices,
      solver.MayAnswer (input.searchInput runtime oracle) oracle.search
          choices →
        input.PlanAgrees oracle choices
  fallback : ∀ solver, input.searchSolver runtime oracle = some solver →
    ¬ solver.SurelyAnswers (input.searchInput runtime oracle) oracle.search →
      (∀ request ∈ input.pending, ∃ slot, input.FallbackSlot request slot) →
        ∀ request ∈ input.pending, ∀ slot, input.FallbackSlot request slot →
          ∀ position : ℤ,
            slotOccupancy (input.fixedFuture oracle.futureOrder) slot <
                position →
              position ≤
                  slotOccupancy (input.fixedFuture oracle.futureOrder) slot +
                    input.pending.length →
                input.unitPrice slot position =
                  input.unitPrice slot
                    (position + slotOccupancy
                      (input.movableFuture oracle.futureOrder) slot)

/-- A batch of one registered profile in a consistent state: every commitment
is stored under its request, and no pending request is committed. -/
structure RegisteredBatch (profile : QosProfile) : Prop where
  valid : profile.validate = .ok ()
  registered : ∀ request ∈ input.pending, request.qosProfile = some profile
  flavours_eq : input.assignment.flavours = profile.flavours
  someRequest : input.pending ≠ []
  unique : (requestIds input.pending).Nodup
  keyed : Keyed input.snapshot.assignments
  uncommitted : ∀ requestId ∈ requestIds input.pending,
    input.snapshot.assignments.lookup requestId = none
  started : 0 ≤ input.currentSlot

end Definitions

variable {input : BatchSolveContext} {profile : QosProfile}

/-! ## Occupancy -/

section Occupancy

variable {order : IterationOrder Assignment} {slot : ℤ}

/-- Fixed and movable assignments make up the committed occupancy. -/
theorem slotOccupancy_fixed_add_movable
    (order : IterationOrder Assignment) (future : input.currentSlot ≤ slot) :
    slotOccupancy (input.fixedFuture order) slot +
        slotOccupancy (input.movableFuture order) slot =
      slotOccupancy input.snapshot.assignments.values slot := by
  have split :
      (input.fixedFuture order ++ input.movableFuture order).Perm
        (input.snapshot.getFutureAssignments order input.currentSlot) := by
    have parts := List.perm_append_comm.trans
      (List.filter_append_perm
        (fun assignment : Assignment => decide
          (assignment.qosProfileId = batchProfileId input.pending))
        (input.snapshot.getFutureAssignments order input.currentSlot))
    unfold fixedFuture movableFuture
    split
    · rw [List.append_nil]
      exact parts
    · exact parts
  rw [← slotOccupancy_append, slotOccupancy_eq_of_perm split slot,
    slotOccupancy_getFutureAssignments order future]

theorem lookup_of_mem_values (keyed : Keyed input.snapshot.assignments)
    {assignment : Assignment}
    (member : assignment ∈ input.snapshot.assignments.values) :
    input.snapshot.assignments.lookup assignment.requestId =
      some assignment := by
  obtain ⟨requestId, found⟩ := Dictionary.mem_values_iff.mp member
  rw [keyed found]
  exact found

/-- The movable assignments, in the order of the snapshot. -/
theorem movableFuture_perm (input : BatchSolveContext)
    (order : IterationOrder Assignment) :
    (input.movableFuture order).Perm
      (input.snapshot.assignments.values.filter fun placed =>
        !input.solverConfig.dpLockFutureAssignments &&
          (decide (placed.qosProfileId = batchProfileId input.pending) &&
            decide (input.currentSlot ≤ placed.scheduledSlot))) := by
  unfold movableFuture
  cases input.solverConfig.dpLockFutureAssignments with
  | true => simp
  | false =>
      unfold sameProfileFuture SolverSnapshot.getFutureAssignments
      rw [List.filter_filter]
      exact (order.perm _).filter _

/-- In a keyed snapshot, the identifiers of the movable assignments single
them out. -/
theorem mem_movable_ids_iff (keyed : Keyed input.snapshot.assignments)
    {placed : Assignment}
    (member : placed ∈ input.snapshot.assignments.values) :
    placed.requestId ∈ assignmentIds (input.movableFuture order) ↔
      placed ∈ input.movableFuture order := by
  constructor
  · intro listed
    obtain ⟨other, movable, same⟩ := List.mem_map.mp listed
    have there := lookup_of_mem_values keyed (mem_movableFuture movable).1
    rw [same, lookup_of_mem_values keyed member] at there
    rwa [Option.some.inj there]
  · exact List.mem_map_of_mem

namespace RegisteredBatch

variable {assignments : List Assignment}

/-- The batch itself replaces nothing. -/
theorem staying_of_pending (batch : RegisteredBatch input profile)
    (ids : assignmentIds assignments = requestIds input.pending) :
    input.staying assignments = input.snapshot.assignments.values := by
  refine List.filter_eq_self.mpr fun placed member => ?_
  rw [decide_eq_true_eq, ids]
  intro pending
  have committed := lookup_of_mem_values batch.keyed member
  rw [batch.uncommitted placed.requestId pending] at committed
  cases committed

/-- What a joint placement leaves in place in the current and later slots is
the fixed load. -/
theorem slotOccupancy_staying_of_movable
    (batch : RegisteredBatch input profile)
    (ids : assignmentIds assignments =
      requestIds input.pending ++ assignmentIds (input.movableFuture order))
    (future : input.currentSlot ≤ slot) :
    slotOccupancy (input.staying assignments) slot =
      slotOccupancy (input.fixedFuture order) slot := by
  have replaced :
      slotOccupancy (input.snapshot.assignments.values.filter fun placed =>
          !decide (placed.requestId ∉ assignmentIds assignments)) slot =
        slotOccupancy (input.movableFuture order) slot := by
    have sameList := movableFuture_perm input order
    rw [slotOccupancy_eq_of_perm sameList slot]
    refine congrArg (slotOccupancy · slot)
      (List.filter_congr fun placed member => ?_)
    have committed := lookup_of_mem_values batch.keyed member
    have notPending : placed.requestId ∉ requestIds input.pending := by
      intro pending
      rw [batch.uncommitted placed.requestId pending] at committed
      cases committed
    have movable : placed.requestId ∈
          assignmentIds (input.movableFuture order) ↔
        placed ∈ input.movableFuture order :=
      mem_movable_ids_iff batch.keyed member
    rw [Bool.eq_iff_iff, Bool.not_eq_true', decide_eq_false_iff_not, not_not,
      ids, List.mem_append, or_iff_right notPending, movable,
      sameList.mem_iff, List.mem_filter, and_iff_right member]
  have parts := slotOccupancy_eq_of_perm
    (List.filter_append_perm
      (fun placed : Assignment =>
        decide (placed.requestId ∉ assignmentIds assignments))
      input.snapshot.assignments.values) slot
  rw [slotOccupancy_append, replaced,
    ← slotOccupancy_fixed_add_movable order future] at parts
  exact Nat.add_right_cancel parts

end RegisteredBatch

end Occupancy

/-! ## Decisions and assignments -/

section Decisions

variable {σ : Type} {runtime : NumericRuntime σ} {oracle : SolveOracle}
variable {result : BatchSolveResult} {recovery : RecoveryState}

/-- A result is made of the joint placement, or of the fallback's when there
is none and it serves the whole batch. -/
inductive MadeOfDecisions (runtime : NumericRuntime σ) (oracle : SolveOracle)
    (input : BatchSolveContext) (result : BatchSolveResult) : Prop where
  | planned
      (found : input.searchDecisions runtime oracle ≠ [])
      (ids : assignmentIds result.assignments =
        requestIds input.pending ++
          assignmentIds (input.movableFuture oracle.futureOrder))
      (assignments_eq : result.assignments =
        (input.searchDecisions runtime oracle).map
          ((prepareSolve runtime oracle.futureOrder input).1.toAssignment
            input.flavourDurationByName))
      (status : result.context.status = "ok")
  | fallback
      (nothing : input.searchDecisions runtime oracle = [])
      (every : (input.fallbackDecisions runtime oracle).length =
        input.pending.length)
      (ids : assignmentIds result.assignments = requestIds input.pending)
      (assignments_eq : result.assignments =
        (input.fallbackDecisions runtime oracle).map
          ((prepareSolve runtime oracle.futureOrder input).1.toAssignment
            input.flavourDurationByName))
      (status : result.context.status = "ok_greedy_after_infeasible")
  | infeasible
      (nothing : input.searchDecisions runtime oracle = [])
      (missing : (input.fallbackDecisions runtime oracle).length ≠
        input.pending.length)
      (assignments_eq : result.assignments = [])
      (status : result.context.status = "infeasible")

private theorem fallbackDecisions_eq
    {greedySolver : DpSolver} {decisions : List RequestAssignment}
    (built : buildSolver input.assignment.flavours input.carbonForecast
      input.assignment input.solverConfig "none" = some greedySolver)
    (placed : (prepareSolve runtime oracle.futureOrder
      input).1.greedyPlacements input greedySolver [] = some decisions) :
    input.fallbackDecisions runtime oracle = decisions := by
  rw [fallbackDecisions, built, Option.bind_some, placed, Option.getD_some]

theorem solveDp_decisions
    (unique : (requestIds input.pending).Nodup)
    (someRequest : input.pending ≠ [])
    (disjoint : ¬ ∃ requestId ∈ requestIds input.pending,
      requestId ∈ assignmentIds (input.movableFuture oracle.futureOrder))
    (solved : solveDp runtime oracle input = some (result, recovery)) :
    MadeOfDecisions runtime oracle input result := by
  simp only [solveDp, Option.bind_eq_some_iff] at solved
  obtain ⟨solver, built, greedySolver, greedyBuilt, completed⟩ := solved
  have searched : input.searchDecisions runtime oracle =
      solver.solveBatch
        ((prepareSolve runtime oracle.futureOrder input).1.dpInput input)
        oracle.search := by
    simp only [searchDecisions, built, Option.map_some, Option.getD_some]
  rcases DpSolver.solveBatch_cases solver
      ((prepareSolve runtime oracle.futureOrder input).1.dpInput input)
      oracle.search with empty | ⟨choices, answers⟩
  · rw [empty] at completed
    obtain ⟨decisions, placed⟩ :=
      greedyPlacements_nil_isSome unique someRequest completed
    have fellBack := fallbackDecisions_eq greedyBuilt placed
    rw [complete_of_nil unique someRequest placed] at completed
    have finished := Option.some_inj.mp completed
    have nothing := searched.trans empty
    split at finished
    · rename_i missing
      rw [← fellBack] at missing
      have assignments := congrArg (fun pair => pair.1.assignments) finished
      have status := congrArg (fun pair => pair.1.context.status) finished
      exact .infeasible nothing missing assignments.symm status.symm
    · rename_i complete
      have assignments := congrArg (fun pair => pair.1.assignments) finished
      have status := congrArg (fun pair => pair.1.context.status) finished
      have everyRequest := not_not.mp complete
      refine .fallback nothing (by rw [fellBack]; exact everyRequest) ?_
        (by rw [fellBack]; exact assignments.symm) status.symm
      rw [← assignments]
      exact (assignmentIds_map_toAssignment _ _ _).trans
        (greedyPlacements_nil_requestIds placed everyRequest)
  · have placedIds := answers.map_requestId.trans
      (map_requestId_solveRequests runtime oracle.futureOrder input)
    rw [complete_of_superset (by
      intro requestId member
      rw [placedIds]
      exact List.mem_append_left _ member)] at completed
    have finished := Option.some_inj.mp completed
    split at finished
    · rename_i missing
      exact absurd (countP_of_disjoint unique placedIds disjoint) missing
    · have assignments := congrArg (fun pair => pair.1.assignments) finished
      have status := congrArg (fun pair => pair.1.context.status) finished
      refine .planned (fun nothing => ?_) ?_
        (by rw [searched]; exact assignments.symm) status.symm
      · rw [searched.symm.trans nothing] at placedIds
        have none := (List.append_eq_nil_iff.mp placedIds.symm).1
        exact someRequest (List.map_eq_nil_iff.mp none)
      · rw [← assignments]
        exact (assignmentIds_map_toAssignment _ _ _).trans placedIds

/-- No movable assignment belongs to a pending request. -/
theorem RegisteredBatch.disjoint (batch : RegisteredBatch input profile)
    (order : IterationOrder Assignment) :
    ¬ ∃ requestId ∈ requestIds input.pending,
      requestId ∈ assignmentIds (input.movableFuture order) := by
  rintro ⟨requestId, pending, movable⟩
  obtain ⟨placed, listed, rfl⟩ := List.mem_map.mp movable
  have committed := lookup_of_mem_values batch.keyed
    (mem_movableFuture listed).1
  rw [batch.uncommitted _ pending] at committed
  cases committed

end Decisions

/-! ## When the tables suffice -/

section Consistency

variable {assignment : Assignment} {position other : ℤ}

namespace RegisteredBatch

theorem distinct (batch : RegisteredBatch input profile) :
    (input.assignment.flavours.map Flavour.name).Nodup := by
  rw [batch.flavours_eq]
  exact (QosProfile.flavours_of_validate batch.valid).1

theorem duration_pos (batch : RegisteredBatch input profile)
    {flavour : Flavour} (member : flavour ∈ input.assignment.flavours) :
    0 < flavour.duration := by
  rw [batch.flavours_eq] at member
  exact (QosProfile.flavours_of_validate batch.valid).2 flavour member

/-- Every request is served with a flavour of the profile. -/
theorem mem_flavours (batch : RegisteredBatch input profile)
    {requestId : ℕ} {flavour : Flavour}
    (served : flavour ∈ input.servedFlavours requestId) :
    flavour ∈ input.assignment.flavours := by
  rcases List.mem_append.mp (mem_batchFlavours_of_servedFlavours served) with
    policy | own
  · exact policy
  · obtain ⟨request, listed, offered⟩ := List.mem_flatMap.mp own
    have profiled := batch.registered request (List.mem_filter.mp listed).1
    rw [AssignmentPolicy.offeredFlavours, profiled, Option.map_some,
      Option.getD_some] at offered
    rwa [batch.flavours_eq]

/-- A served assignment is consistent at a position when its duration is found
again and the position costs what was paid. -/
theorem selfConsistent_iff (batch : RegisteredBatch input profile)
    (served : input.ServedAt assignment position) :
    input.SelfConsistent assignment other ↔
      (∀ flavour ∈ input.assignment.flavours,
        assignment.flavourName = flavour.name →
          assignment.flavourDuration = flavour.duration) ∧
        input.unitPrice assignment.scheduledSlot position =
          input.unitPrice assignment.scheduledSlot other := by
  obtain ⟨flavour, offered, named, _, paid⟩ := served.pays
  have member := batch.mem_flavours offered
  have positive := batch.duration_pos member
  have paidUnits : assignment.carbonCost =
      input.unitPrice assignment.scheduledSlot position * flavour.duration := by
    have cost : assignment.carbonCost = positionCost input.assignment
      input.carbonForecast assignment.scheduledSlot flavour position := paid
    rw [cost, positionCost, unitPrice]
    ring
  have storedUnits : storedCost input.assignment input.carbonForecast
      assignment other = input.unitPrice assignment.scheduledSlot other *
        assignment.flavourDuration := by
    rw [storedCost, unitPrice]
    ring
  constructor
  · rintro ⟨⟨found, there, sameName, duration⟩, costs⟩
    have same : found = flavour := eq_of_same_name batch.distinct member there
      (sameName.symm.trans named)
    subst same
    refine ⟨fun candidate listed candidateName => ?_, ?_⟩
    · rw [eq_of_same_name batch.distinct member listed
        (candidateName.symm.trans named)]
      exact duration
    · unfold CostsPosition at costs
      rw [paidUnits, storedUnits, duration] at costs
      exact mul_right_cancel₀ positive.ne' costs
  · rintro ⟨durations, samePrice⟩
    have duration := durations flavour member named
    refine ⟨⟨flavour, member, named, duration⟩, ?_⟩
    unfold CostsPosition
    rw [paidUnits, storedUnits, duration, samePrice]

/-- A pending request finds its flavour in its own list. -/
theorem selfConsistent_iff_of_pending
    (batch : RegisteredBatch input profile)
    (served : input.ServedAt assignment position)
    (pending : assignment.requestId ∈ requestIds input.pending) :
    input.SelfConsistent assignment other ↔
      input.unitPrice assignment.scheduledSlot position =
        input.unitPrice assignment.scheduledSlot other := by
  rw [batch.selfConsistent_iff served, and_iff_right]
  obtain ⟨flavour, offered, named, _, _⟩ := served.pays
  intro candidate listed candidateName
  have same : candidate = flavour := eq_of_same_name batch.distinct
    (batch.mem_flavours offered) listed (candidateName.symm.trans named)
  obtain ⟨request, member, sameId⟩ := List.mem_map.mp pending
  have stored := served.duration_eq
  change flavour ∈ input.servedFlavours assignment.requestId at offered
  rw [← sameId] at stored offered
  have named : assignment.flavourName = flavour.name := named
  rw [stored, named, same]
  exact storedDuration_eq_of_profile (batch.registered request member)
    batch.flavours_eq batch.unique batch.distinct member offered

/-- Any other request finds it in the global table. -/
theorem selfConsistent_iff_of_replanned
    (batch : RegisteredBatch input profile)
    (served : input.ServedAt assignment position)
    (replanned : assignment.requestId ∉ requestIds input.pending) :
    input.SelfConsistent assignment position ↔
      input.TableAgrees assignment.flavourName := by
  have absent :
      input.requestFlavours.lookup assignment.requestId = none := by
    cases found : input.requestFlavours.lookup assignment.requestId with
    | none => rfl
    | some own =>
        obtain ⟨request, member, sameId, _⟩ :=
          offered_of_lookup_requestFlavours found
        exact absurd (List.mem_map.mpr ⟨request, member, sameId⟩) replanned
  rw [batch.selfConsistent_iff served, and_iff_left rfl, served.duration_eq,
    storedDuration, absent, Option.bind_none, Option.map_none, Option.getD_none]
  exact forall₂_congr fun flavour _ => forall_congr' fun sameName => by
    rw [sameName]

end RegisteredBatch

variable {σ : Type} {runtime : NumericRuntime σ} {oracle : SolveOracle}
variable {result : BatchSolveResult} {recovery : RecoveryState}

/-- The proposal is served behind the fixed load. -/
theorem RegisteredBatch.served (batch : RegisteredBatch input profile)
    (solved : solveDp runtime oracle input = some (result, recovery)) :
    Ranking.Ranked Assignment.scheduledSlot input.ServedAt
        (fun slot =>
          (slotOccupancy (input.fixedFuture oracle.futureOrder) slot : ℤ))
        result.assignments ∧
      ∀ assignment ∈ result.assignments,
        input.currentSlot ≤ assignment.scheduledSlot := by
  rcases (solveDp_outcome batch.unique batch.someRequest solved).proposal with
    nothing | proposal
  · rw [nothing]
    exact ⟨trivial, by simp⟩
  · refine ⟨?_, proposal.future⟩
    have served := proposal.served batch.started
    simpa only [proposal.baseline_eq, getD_countSlots] using served

/-- A joint placement is consistent when the global table agrees on what it
gives to replanned requests. -/
theorem RegisteredBatch.consistent_iff_of_planned
    (batch : RegisteredBatch input profile)
    (solved : solveDp runtime oracle input = some (result, recovery))
    (ids : assignmentIds result.assignments =
      requestIds input.pending ++
        assignmentIds (input.movableFuture oracle.futureOrder)) :
    input.ReplansConsistently result.assignments ↔
      ∀ assignment ∈ result.assignments,
        assignment.requestId ∈
            assignmentIds (input.movableFuture oracle.futureOrder) →
          input.TableAgrees assignment.flavourName := by
  obtain ⟨served, future⟩ := batch.served solved
  have occupied : ∀ assignment ∈ result.assignments,
      (slotOccupancy (input.staying result.assignments)
          assignment.scheduledSlot : ℤ) =
        slotOccupancy (input.fixedFuture oracle.futureOrder)
          assignment.scheduledSlot := by
    intro assignment member
    rw [batch.slotOccupancy_staying_of_movable ids (future assignment member)]
  have behindFixed : input.ReplansConsistently result.assignments ↔
      Ranking.Ranked Assignment.scheduledSlot input.SelfConsistent
        (fun slot =>
          (slotOccupancy (input.fixedFuture oracle.futureOrder) slot : ℤ))
        result.assignments := Ranking.ranked_congr_iff occupied
  have pointwise :
      Ranking.Ranked Assignment.scheduledSlot
          (fun assignment _ =>
            assignment.requestId ∈
                assignmentIds (input.movableFuture oracle.futureOrder) →
              input.TableAgrees assignment.flavourName)
          (fun slot =>
            (slotOccupancy (input.fixedFuture oracle.futureOrder) slot : ℤ))
          result.assignments ↔ _ := Ranking.ranked_const_iff
  refine behindFixed.trans (Iff.trans ?_ pointwise)
  refine served.iff_of_holds fun assignment member position here => ?_
  have listed : assignment.requestId ∈ assignmentIds result.assignments :=
    List.mem_map_of_mem member
  by_cases pending : assignment.requestId ∈ requestIds input.pending
  · rw [batch.selfConsistent_iff_of_pending here pending]
    exact iff_of_true rfl fun movable =>
      absurd ⟨_, pending, movable⟩ (batch.disjoint _)
  · rw [batch.selfConsistent_iff_of_replanned here pending]
    rw [ids, List.mem_append, or_iff_right pending] at listed
    exact ⟨fun agrees _ => agrees, fun agrees => agrees listed⟩

/-- A fallback is consistent when the assignments it leaves in place cost its
positions nothing. -/
theorem RegisteredBatch.consistent_iff_of_fallback
    (batch : RegisteredBatch input profile)
    (solved : solveDp runtime oracle input = some (result, recovery))
    (ids : assignmentIds result.assignments = requestIds input.pending) :
    input.ReplansConsistently result.assignments ↔
      Ranking.Ranked Assignment.scheduledSlot
        (fun assignment position =>
          input.unitPrice assignment.scheduledSlot position =
            input.unitPrice assignment.scheduledSlot
              (position + slotOccupancy
                (input.movableFuture oracle.futureOrder)
                assignment.scheduledSlot))
        (fun slot =>
          (slotOccupancy (input.fixedFuture oracle.futureOrder) slot : ℤ))
        result.assignments := by
  obtain ⟨served, future⟩ := batch.served solved
  have occupied : ∀ assignment ∈ result.assignments,
      (slotOccupancy (input.staying result.assignments)
          assignment.scheduledSlot : ℤ) =
        (slotOccupancy (input.fixedFuture oracle.futureOrder)
            assignment.scheduledSlot : ℤ) +
          slotOccupancy (input.movableFuture oracle.futureOrder)
            assignment.scheduledSlot := by
    intro assignment member
    rw [batch.staying_of_pending ids, ← slotOccupancy_fixed_add_movable
      oracle.futureOrder (future assignment member)]
    push_cast
    rfl
  have behindBoth : input.ReplansConsistently result.assignments ↔
      Ranking.Ranked Assignment.scheduledSlot input.SelfConsistent
        (fun slot =>
          (slotOccupancy (input.fixedFuture oracle.futureOrder) slot : ℤ) +
            slotOccupancy (input.movableFuture oracle.futureOrder) slot)
        result.assignments := Ranking.ranked_congr_iff occupied
  refine (behindBoth.trans Ranking.ranked_add_iff).trans ?_
  refine served.iff_of_holds fun assignment member position here => ?_
  refine batch.selfConsistent_iff_of_pending here ?_
  rw [← ids]
  exact List.mem_map_of_mem member

/-- A solve of a registered profile is consistent exactly when its choices
hide what the tables do not know. -/
theorem RegisteredBatch.consistent_iff_decisionsSuffice
    (batch : RegisteredBatch input profile)
    (solved : solveDp runtime oracle input = some (result, recovery)) :
    input.ReplansConsistently result.assignments ↔
      input.DecisionsSuffice runtime oracle := by
  cases solveDp_decisions batch.unique batch.someRequest
      (batch.disjoint oracle.futureOrder) solved with
  | planned found ids assignments_eq _ =>
      rw [batch.consistent_iff_of_planned solved ids, assignments_eq,
        List.forall_mem_map]
      exact ⟨fun agrees => ⟨agrees, fun nothing => absurd nothing found⟩,
        DecisionsSuffice.replanned⟩
  | fallback nothing every ids assignments_eq _ =>
      rw [batch.consistent_iff_of_fallback solved ids, assignments_eq,
        Ranking.ranked_map_iff]
      refine ⟨fun prices => ⟨fun decision member => ?_, fun _ _ => prices⟩,
        fun suffices_ => suffices_.fallback nothing every⟩
      rw [nothing] at member
      cases member
  | infeasible nothing missing assignments_eq _ =>
      rw [assignments_eq]
      refine iff_of_true trivial ⟨fun decision member => ?_,
        fun _ every => absurd every missing⟩
      rw [nothing] at member
      cases member

/-! ## Conditions on the input -/

theorem RegisteredBatch.searchRequests_ne_nil
    (batch : RegisteredBatch input profile) :
    (input.searchInput runtime oracle).requests ≠ [] := by
  intro nothing
  have none := (List.append_eq_nil_iff.mp nothing).1
  exact batch.someRequest (List.map_eq_nil_iff.mp none)

/-- What the search finds is a placement it may answer with. -/
theorem RegisteredBatch.search_mayAnswer
    (batch : RegisteredBatch input profile)
    (found : input.searchDecisions runtime oracle ≠ []) :
    ∃ solver choices,
      input.searchSolver runtime oracle = some solver ∧
        solver.MayAnswer (input.searchInput runtime oracle) oracle.search
            choices ∧
          ((∀ decision ∈ input.searchDecisions runtime oracle,
              decision.requestId ∈
                  assignmentIds (input.movableFuture oracle.futureOrder) →
                input.TableAgrees decision.flavourName) ↔
            input.PlanAgrees oracle choices) := by
  cases built : input.searchSolver runtime oracle with
  | none =>
      have nothing : input.searchDecisions runtime oracle = [] := by
        unfold searchDecisions
        unfold searchSolver at built
        dsimp only
        rw [built]
        rfl
      exact absurd nothing found
  | some solver =>
      have searched : input.searchDecisions runtime oracle =
          solver.solveBatch (input.searchInput runtime oracle)
            oracle.search := by
        unfold searchDecisions
        unfold searchSolver at built
        dsimp only
        rw [built]
        rfl
      rcases DpSolver.solveBatch_cases solver
          (input.searchInput runtime oracle) oracle.search with
        empty | ⟨choices, answers⟩
      · exact absurd (searched.trans empty) found
      · refine ⟨solver, choices, rfl,
          answers.mayAnswer batch.started batch.searchRequests_ne_nil, ?_⟩
        have carried := answers.forall₂_choices
        rw [searched]
        constructor
        · intro agrees choice member
          obtain ⟨decision, listed, carriesOut⟩ :=
            List.Forall₂.exists_left_of_mem carried.flip member
          rw [← carriesOut.requestId_eq, ← carriesOut.flavourName_eq]
          exact agrees decision listed
        · intro agrees decision member
          obtain ⟨choice, listed, carriesOut⟩ :=
            List.Forall₂.exists_left_of_mem carried member
          rw [carriesOut.requestId_eq, carriesOut.flavourName_eq]
          exact agrees choice listed

/-- A search that surely answers finds something. -/
theorem RegisteredBatch.not_surelyAnswers
    (batch : RegisteredBatch input profile)
    (nothing : input.searchDecisions runtime oracle = []) {solver : DpSolver}
    (built : input.searchSolver runtime oracle = some solver) :
    ¬ solver.SurelyAnswers (input.searchInput runtime oracle)
      oracle.search := by
  intro answers
  refine answers.solveBatch_ne_nil batch.started batch.searchRequests_ne_nil ?_
  rw [← nothing]
  unfold searchDecisions
  unfold searchSolver at built
  dsimp only
  rw [built]
  rfl

/-- What suffices for every choice suffices for those of the solve. -/
theorem TablesSuffice.decisionsSuffice
    (tables : input.TablesSuffice runtime oracle)
    (batch : RegisteredBatch input profile)
    (solved : solveDp runtime oracle input = some (result, recovery)) :
    input.DecisionsSuffice runtime oracle := by
  constructor
  · intro decision member
    obtain ⟨solver, choices, built, answers, agrees⟩ :=
      batch.search_mayAnswer (List.ne_nil_of_mem member)
    exact agrees.mpr (tables.replanned solver built choices answers) decision
      member
  · intro nothing every
    simp only [solveDp, Option.bind_eq_some_iff] at solved
    obtain ⟨solver, built, greedySolver, greedyBuilt, _⟩ := solved
    have greedy := builtSolver_of_buildSolver greedyBuilt
    have placed : (prepareSolve runtime oracle.futureOrder
        input).1.greedyPlacements input greedySolver [] =
          some (input.fallbackDecisions runtime oracle) := by
      cases returned : (prepareSolve runtime oracle.futureOrder
          input).1.greedyPlacements input greedySolver [] with
      | none =>
          rw [fallbackDecisions, greedyBuilt, Option.bind_some, returned] at every
          exact absurd (List.length_eq_zero_iff.mp every.symm) batch.someRequest
      | some decisions =>
          rw [fallbackDecisions_eq greedyBuilt returned]
    have places := (greedyPlacements_nil_places placed).forall₂ (by
      rw [every, List.length_map])
    rw [List.forall₂_map_left_iff] at places
    have slots : List.Forall₂
        (fun request decision => input.FallbackSlot request decision.slot)
        input.pending (input.fallbackDecisions runtime oracle) := by
      refine places.imp ?_
      rintro request decision ⟨_, first_le, le_last⟩
      refine ⟨first_le, ?_⟩
      rw [← greedy.windowSize_eq]
      exact le_last
    refine Ranking.ranked_of_forall_position
      fun decision member position lower upper => ?_
    obtain ⟨request, pending, slot⟩ :=
      List.Forall₂.exists_left_of_mem slots member
    rw [every] at upper
    refine tables.fallback solver built
      (batch.not_surelyAnswers nothing built) ?_ request pending decision.slot
      slot position lower upper
    intro other listed
    obtain ⟨placed, _, own⟩ :=
      List.Forall₂.exists_left_of_mem slots.flip listed
    exact ⟨placed.slot, own⟩

end Consistency

end BatchSolveContext

/-! ## One movable assignment -/

section Example

/-- A profile with the given flavours. -/
def flavouredProfile (flavours : List Flavour) : QosProfile where
  profileId := ⟨"flavoured-v1"⟩
  taskKind := ⟨"text-generation"⟩
  flavours := flavours
  errorSemantics := "word-overlap-f1-v1"
  maxErrorThreshold := 5
  errorWindow := { pastSlots := 2, futureSlots := 2, pastDecaySlots := 0 }
  cumulativeError := { enabled := false, hard := false }

/-- One pending request, and one committed assignment that may move. -/
def unlockedBatch (flavours : List Flavour) : BatchSolveContext :=
  { defaultSolve
      [.newForQosProfile 0 7 0 3 (flavouredProfile flavours)] with
    assignment := Config.default.assignmentPolicyForProfile
      (flavouredProfile flavours)
    solverConfig := { SolverConfig.default with
      dpLockFutureAssignments := false }
    snapshot := (SharedState.new.addAssignments
      [{ Assignment.new 3 1 "Draft" (1 / 180) 1 20 (some 0) (some 3) with
          qosProfileId := ⟨"flavoured-v1"⟩ }]).snapshotForSolver
    flavourDurationByName := Config.default.flavourDurationByName }

theorem registeredBatch_unlockedBatch {flavours : List Flavour}
    (valid : (flavouredProfile flavours).validate = .ok ()) :
    (unlockedBatch flavours).RegisteredBatch (flavouredProfile flavours) where
  valid := valid
  registered := by simp [unlockedBatch, defaultSolve, Request.newForQosProfile]
  flavours_eq := rfl
  someRequest := List.cons_ne_nil _ _
  unique := by simp [unlockedBatch, defaultSolve]
  keyed := by
    have empty : Keyed SharedState.new.assignments := by
      intro requestId assignment found
      simp [SharedState.new] at found
    exact fun {_ _} found => Keyed.addAssignments empty _ found
  uncommitted := by
    intro requestId member
    have same : requestId = 7 := List.mem_singleton.mp member
    subst same
    rfl
  started := le_rfl

/-- The same batch on a ladder that charges more for a second request. -/
def steepBatch (flavours : List Flavour) : BatchSolveContext :=
  { unlockedBatch flavours with
    assignment :=
      { (unlockedBatch flavours).assignment with
        capacityTiers := Engine.steepLadder } }

theorem registeredBatch_steepBatch {flavours : List Flavour}
    (valid : (flavouredProfile flavours).validate = .ok ()) :
    (steepBatch flavours).RegisteredBatch (flavouredProfile flavours) :=
  have batch := registeredBatch_unlockedBatch valid
  { batch with
    registered := batch.registered
    flavours_eq := batch.flavours_eq
    unique := batch.unique
    keyed := batch.keyed
    uncommitted := batch.uncommitted
    started := batch.started }

/-- The global table knows the flavours, and the warm start is feasible. -/
private theorem tablesSuffice_steepBatch :
    (steepBatch Config.default.flavours).TablesSuffice .least .steady := by
  have agrees : ∀ flavour ∈
      (steepBatch Config.default.flavours).assignment.flavours,
      (steepBatch Config.default.flavours).flavourDurationByName.getD
        flavour.name 0 = flavour.duration := by
    decide +kernel
  refine ⟨fun _ _ _ _ _ _ _ flavour member _ => agrees flavour member,
    fun solver built unsure => absurd ?_ unsure⟩
  have checked : ((steepBatch Config.default.flavours).searchSolver .least
      .steady).all (fun solver =>
        (((steepBatch Config.default.flavours).searchInput .least
            .steady).requests.all fun request =>
          !(solver.flavoursFor request.requestId
              ((steepBatch Config.default.flavours).searchInput .least
                .steady).requestFlavours).isEmpty &&
            decide (DpSolver.earliestFor
                ((steepBatch Config.default.flavours).searchInput .least
                  .steady) request ≤
              solver.deadlineFor
                ((steepBatch Config.default.flavours).searchInput .least
                  .steady) request)) &&
          solver.warmIsFeasible
            ((steepBatch Config.default.flavours).searchInput .least
              .steady)) = true := by
    decide +kernel
  rw [built, Option.all_some, Bool.and_eq_true, List.all_eq_true] at checked
  have placeable : ∀ request ∈
      ((steepBatch Config.default.flavours).searchInput .least
        .steady).requests,
      solver.Placeable ((steepBatch Config.default.flavours).searchInput .least
        .steady) request := by
    intro request member
    have both := Bool.and_eq_true_iff.mp (checked.1 request member)
    refine ⟨fun empty => ?_, of_decide_eq_true both.2⟩
    rw [empty] at both
    cases both.1
  obtain ⟨_, follows⟩ := DpSolver.exists_warmStartFollows placeable
  exact .warmStart placeable (follows.feasible_iff.mp checked.2)

/-- The fallback charges its request the first position of a slot in which
an assignment stays. -/
theorem fallback_forgets_staying :
    (solveDp .least .steady
      { steepBatch [⟨"Draft", 10, 20⟩] with
        carbonForecast := 9 :: 1 :: List.replicate 22 9 }).map
        (fun solved =>
          (solved.1.context.status,
            solved.1.assignments.map fun assignment =>
              (assignment.scheduledSlot, assignment.carbonCost))) =
      some ("ok_greedy_after_infeasible", [(1, 1 / 180)]) := by
  decide +kernel

end Example

end Carbonshift
