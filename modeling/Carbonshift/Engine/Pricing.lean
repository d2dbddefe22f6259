import Carbonshift.Engine.Coverage
import Carbonshift.Engine.SwarmPlacement

/-!
# What a proposal charges

Under every strategy, an assignment of a proposal is served with a flavour
offered to its request and pays the multiplier of the position it takes on top
of the occupancy the strategy started from.
-/

namespace Carbonshift

/-! ## Position prices -/

/-- Cost of a flavour at a position of a slot. -/
def positionCost (policy : AssignmentPolicy) (carbonForecast : List ℚ)
    (slot : ℤ) (flavour : Flavour) (position : ℤ) : ℚ :=
  (slotEntry carbonForecast slot).getD 1 *
    getCapacityMultiplier policy.capacityTiers position * flavour.duration *
    policy.carbonCostDurationScale

/-- The flavours a batch may serve a request with. -/
def AssignmentPolicy.batchFlavours (policy : AssignmentPolicy)
    (pending : List Request) (requestId : ℕ) : List Flavour :=
  policy.flavours ++
    (pending.filter fun request => decide (request.id = requestId)).flatMap
      policy.offeredFlavours

/-- The solver's part of an assignment. -/
def Assignment.decision (assignment : Assignment) : RequestAssignment where
  requestId := assignment.requestId
  flavourName := assignment.flavourName
  slot := assignment.scheduledSlot
  carbonCost := assignment.carbonCost
  error := assignment.error

/-- The decision uses one of the flavours and pays for the position. -/
def Pays (policy : AssignmentPolicy) (carbonForecast : List ℚ)
    (flavours : List Flavour) (decision : RequestAssignment)
    (position : ℤ) : Prop :=
  ∃ flavour ∈ flavours,
    decision.flavourName = flavour.name ∧ decision.error = flavour.error ∧
      decision.carbonCost =
        positionCost policy carbonForecast decision.slot flavour position

/-- The decision uses an offered flavour and pays for the position. -/
def PaysPosition (policy : AssignmentPolicy) (carbonForecast : List ℚ)
    (pending : List Request) (decision : RequestAssignment) (position : ℤ) :
    Prop :=
  ∃ flavour ∈ policy.batchFlavours pending decision.requestId,
    decision.flavourName = flavour.name ∧ decision.error = flavour.error ∧
      decision.carbonCost =
        positionCost policy carbonForecast decision.slot flavour position

instance (policy : AssignmentPolicy) (carbonForecast : List ℚ)
    (pending : List Request) (decision : RequestAssignment) (position : ℤ) :
    Decidable (PaysPosition policy carbonForecast pending decision position) :=
  inferInstanceAs (Decidable (∃ flavour ∈ _, _))

theorem paysPosition_of_pays
    {policy : AssignmentPolicy} {carbonForecast : List ℚ}
    {flavours : List Flavour} {pending : List Request}
    {decision : RequestAssignment} {position : ℤ}
    (pays : Pays policy carbonForecast flavours decision position)
    (offered : ∀ flavour ∈ flavours,
      flavour ∈ policy.batchFlavours pending decision.requestId) :
    PaysPosition policy carbonForecast pending decision position := by
  obtain ⟨flavour, member, paid⟩ := pays
  exact ⟨flavour, offered flavour member, paid⟩

/-- Every assignment pays for the position it takes on top of the given
occupancy. -/
def PricedByRank (policy : AssignmentPolicy) (carbonForecast : List ℚ)
    (pending : List Request) (occupied : ℤ → ℤ)
    (assignments : List Assignment) : Prop :=
  Ranking.Ranked Assignment.scheduledSlot
    (fun assignment =>
      PaysPosition policy carbonForecast pending assignment.decision)
    occupied assignments

theorem mem_batchFlavours_of_policy
    {policy : AssignmentPolicy} {flavour : Flavour}
    (offered : flavour ∈ policy.flavours) (pending : List Request)
    (requestId : ℕ) : flavour ∈ policy.batchFlavours pending requestId :=
  List.mem_append_left _ offered

theorem mem_batchFlavours_of_request
    {policy : AssignmentPolicy} {flavour : Flavour} {pending : List Request}
    {request : Request} (member : request ∈ pending)
    (offered : flavour ∈ policy.offeredFlavours request) :
    flavour ∈ policy.batchFlavours pending request.id :=
  List.mem_append_right _ <| List.mem_flatMap.mpr
    ⟨request, List.mem_filter.mpr ⟨member, decide_eq_true rfl⟩, offered⟩

/-! ## Online swarm strategies -/

/-- A planned assignment pays with an offered flavour for the position it
takes. -/
theorem Plans.ranked
    {policy : AssignmentPolicy} {carbonForecast : List ℚ}
    {picks : Request → ℤ → Prop} {tally : SwarmTally}
    {requests : List Request} {assignments : List Assignment}
    (plan : Plans policy carbonForecast picks tally requests assignments) :
    Ranking.Ranked Assignment.scheduledSlot
      (fun assignment position => ∃ request, ∃ flavour ∈ policy.flavours,
        assignment = makeAssignment request assignment.scheduledSlot flavour
          (positionCost policy carbonForecast assignment.scheduledSlot flavour
            position))
      (fun slot => tally.slotCount.getD slot 0) assignments := by
  induction plan with
  | nil tally => exact trivial
  | @cons tally request slot flavour requests assignments _ offered _
      inductionHypothesis =>
      refine ⟨⟨request, flavour, offered, rfl⟩, ?_⟩
      have occupied :
          (fun other => (tally.place slot flavour).slotCount.getD other 0) =
            Ranking.occupy (fun other => tally.slotCount.getD other 0) slot := by
        funext other
        by_cases here : other = slot
        · subst here
          simp [SwarmTally.place]
        · rw [Ranking.occupy_of_ne (Ne.symm here)]
          exact Dictionary.getD_upsert_of_ne here _ _ _
      rw [occupied] at inductionHypothesis
      exact inductionHypothesis

theorem Plans.pricedByRank
    {policy : AssignmentPolicy} {carbonForecast : List ℚ}
    {picks : Request → ℤ → Prop} {tally : SwarmTally}
    {requests : List Request} {assignments : List Assignment}
    (plan : Plans policy carbonForecast picks tally requests assignments)
    (pending : List Request) :
    PricedByRank policy carbonForecast pending
      (fun slot => tally.slotCount.getD slot 0) assignments := by
  refine plan.ranked.mono fun assignment _ position paid => ?_
  obtain ⟨request, flavour, offered, planned⟩ := paid
  refine ⟨flavour, mem_batchFlavours_of_policy offered _ _, ?_⟩
  rw [planned]
  exact ⟨rfl, rfl, rfl⟩

theorem Plans.assignmentIds_eq
    {policy : AssignmentPolicy} {carbonForecast : List ℚ}
    {picks : Request → ℤ → Prop} {tally : SwarmTally}
    {requests : List Request} {assignments : List Assignment}
    (plan : Plans policy carbonForecast picks tally requests assignments) :
    assignmentIds assignments = requestIds requests :=
  plan.forall₂.map_eq_map fun _ _ placed => placed.1

namespace OnlineSwarmState

variable {σ : Type} {runtime : NumericRuntime σ}

/-- A swarm solver proposes nothing, or a plan of the batch. -/
theorem solveBatch_plans
    {state : OnlineSwarmState σ} {pending : List Request} {slot : ℤ}
    {carbonForecast : List ℚ} {ctx : SwarmContext}
    {policy : AssignmentPolicy}
    {solved : List Assignment × OnlineSwarmState σ}
    (answered : state.solveBatch runtime pending slot carbonForecast ctx
      policy = some solved) :
    solved.1 = [] ∨
      Plans policy carbonForecast
        (fun request slot => slot ∈ candidateSlots policy request) ctx.tally
        pending solved.1 := by
  cases state with
  | none =>
      cases answered
      exact Or.inl rfl
  | bandit learned =>
      obtain ⟨_, own, rfl⟩ := Option.map_eq_some_iff.mp answered
      exact Or.inr (OnlineBanditState.solveBatch_plans
        (banditPicks_candidate runtime policy learned.epsilon) own)
  | aco learned =>
      obtain ⟨_, own, rfl⟩ := Option.map_eq_some_iff.mp answered
      exact (OnlineAcoState.solveBatch_plans (acoPicks_candidate runtime policy)
        own).imp_left And.left

/-- The plan is the whole batch priced by rank on top of the observed
occupancy. -/
theorem solveBatch_proposal
    {state : OnlineSwarmState σ} {pending : List Request} {slot : ℤ}
    {carbonForecast : List ℚ} {ctx : SwarmContext}
    {policy : AssignmentPolicy}
    {solved : List Assignment × OnlineSwarmState σ}
    (answered : state.solveBatch runtime pending slot carbonForecast ctx
      policy = some solved) :
    solved.1 = [] ∨
      (assignmentIds solved.1 = requestIds pending ∧
        PricedByRank policy carbonForecast pending
          (fun slot => ctx.slotCount.getD slot 0) solved.1) :=
  (solveBatch_plans answered).imp_right fun plan =>
    ⟨plan.assignmentIds_eq, plan.pricedByRank pending⟩

end OnlineSwarmState

/-! ## Flavours of a batch strategy -/

namespace BatchSolveContext

variable (input : BatchSolveContext)

/-- The flavours a batch strategy serves a request with: those of its profile
or of the policy, and for the singleton strategy those of the policy. -/
def servedFlavours (requestId : ℕ) : List Flavour :=
  (input.requestFlavours.lookup requestId).getD input.assignment.flavours ++
    input.restrictFlavours input.assignment.flavours

/-- The duration stored for a decision, looked up again by the flavour's
name. -/
def storedDuration (requestId : ℕ) (flavourName : String) : ℚ :=
  (((input.requestFlavours.lookup requestId).bind fun flavours =>
      flavours.find? fun flavour => flavour.name == flavourName).map
        Flavour.duration).getD
    (input.flavourDurationByName.getD flavourName 0)

/-- The assignment pays for the position with a flavour that served it, and
stores the duration found under the flavour's name. -/
structure ServedAt (assignment : Assignment) (position : ℤ) : Prop where
  pays : Pays input.assignment input.carbonForecast
    (input.servedFlavours assignment.requestId) assignment.decision position
  duration_eq : assignment.flavourDuration =
    input.storedDuration assignment.requestId assignment.flavourName

variable {input}

theorem mem_batchFlavours_of_servedFlavours
    {requestId : ℕ} {flavour : Flavour}
    (served : flavour ∈ input.servedFlavours requestId) :
    flavour ∈ input.assignment.batchFlavours input.pending requestId := by
  rcases List.mem_append.mp served with own | policy
  · cases found : input.requestFlavours.lookup requestId with
    | none =>
        rw [found, Option.getD_none] at own
        exact mem_batchFlavours_of_policy own _ _
    | some flavours =>
        rw [found, Option.getD_some] at own
        obtain ⟨request, member, sameId, allowed⟩ :=
          offered_of_lookup_requestFlavours found
        rw [← sameId]
        exact mem_batchFlavours_of_request member (allowed flavour own)
  · exact mem_batchFlavours_of_policy (mem_of_mem_restrictFlavours policy) _ _

/-- What the decisions pay is what the assignments made of them pay. -/
theorem ranked_servedAt_of_decisions
    {σ : Type} {runtime : NumericRuntime σ}
    {order : IterationOrder Assignment} {offers : ℕ → List Flavour}
    {occupied : ℤ → ℤ} {decisions : List RequestAssignment}
    (ranked : Ranking.Ranked RequestAssignment.slot
      (fun decision => Pays input.assignment input.carbonForecast
        (offers decision.requestId) decision) occupied decisions)
    (served : ∀ requestId, ∀ flavour ∈ offers requestId,
      flavour ∈ input.servedFlavours requestId) :
    Ranking.Ranked Assignment.scheduledSlot input.ServedAt occupied
      (decisions.map ((prepareSolve runtime order input).1.toAssignment
        input.flavourDurationByName)) := by
  refine Ranking.ranked_map_iff.mpr (ranked.mono fun decision _ _ paid => ?_)
  obtain ⟨flavour, member, paid⟩ := paid
  exact ⟨⟨flavour, served _ flavour member, paid⟩, rfl⟩

end BatchSolveContext

/-! ## Rolling-window DP and its fallback -/

section Batch

variable {σ : Type} {runtime : NumericRuntime σ}
variable {order : IterationOrder Assignment} {input : BatchSolveContext}
variable {solver : DpSolver} {flavours : List Flavour}

/-- A slot table read back inside the horizon. -/
theorem getD_slotTable
    (horizon : ℤ) (entry : ℤ → ℤ) {slot : ℤ} (nonneg : 0 ≤ slot)
    (inside : slot < horizon) :
    ((List.range horizon.toNat).map fun (index : ℕ) =>
      entry (index : ℤ)).getD slot.toNat 0 = entry slot := by
  have bounded : slot.toNat < horizon.toNat := by omega
  rw [List.getD_eq_getElem?_getD, List.getElem?_map,
    List.getElem?_range bounded]
  simp [Int.toNat_of_nonneg nonneg]

/-- Inside the horizon, the solver charges the position price. -/
theorem incrementalCarbonCost_eq_positionCost
    (built : BuiltSolver input flavours solver)
    {slot : ℤ} (nonneg : 0 ≤ slot) (inside : slot < solver.windowSize)
    {tiers : List CapacityTier}
    (sameTiers : ∀ position,
      getCapacityMultiplier tiers position =
        getCapacityMultiplier input.assignment.capacityTiers position)
    (flavour : Flavour) (baseCounts incCounts : List ℤ) :
    solver.incrementalCarbonCost slot flavour.duration baseCounts incCounts
        tiers =
      positionCost input.assignment input.carbonForecast slot flavour
        (baseCounts.getD slot.toNat 0 + incCounts.getD slot.toNat 0 + 1) := by
  have forecast :
      (slotEntry input.carbonForecast slot).getD 1 =
        solver.carbonForecast.val.getD slot.toNat 0 := by
    have covered :
        slot.toNat < solver.carbonForecast.val.length := by
      rw [solver.carbonForecast.property]
      omega
    rw [← built.forecast_eq, slotEntry, if_neg (not_lt.mpr nonneg),
      List.getD_eq_getElem?_getD, List.getElem?_eq_getElem covered]
    rfl
  simp only [DpSolver.incrementalCarbonCost, positionCost, sameTiers,
    forecast, built.scale_eq]

theorem resolvedTiers_multiplier
    {dpInput : SolveBatchInput} (flat : dpInput.capacityMultiplier = 1)
    (position : ℤ) :
    getCapacityMultiplier (DpSolver.resolvedTiers dpInput) position =
      getCapacityMultiplier dpInput.capacityTiers position := by
  unfold DpSolver.resolvedTiers
  cases tiers : dpInput.capacityTiers with
  | nil => simp [flat, getCapacityMultiplier, CapacityTier.covers]
  | cons tier rest => simp

/-- The flavours of the DP and of the fallback. -/
private theorem mem_servedFlavours_of_flavoursFor
    (built : BuiltSolver input flavours solver)
    (policyFlavours : ∀ flavour ∈ flavours,
      flavour ∈ input.assignment.flavours)
    {requestId : ℕ} {flavour : Flavour}
    (offered : flavour ∈
      solver.flavoursFor requestId input.requestFlavours) :
    flavour ∈ input.servedFlavours requestId := by
  unfold DpSolver.flavoursFor at offered
  refine List.mem_append_left _ ?_
  cases found : input.requestFlavours.lookup requestId with
  | none =>
      rw [found, Option.getD_none, built.flavours_eq] at offered
      exact policyFlavours flavour offered
  | some own =>
      rw [found, Option.getD_some] at offered
      exact offered

private theorem slots_inside
    {placed : List RequestAssignment} {choices : List Choice}
    {dpInput : SolveBatchInput}
    (answers : solver.AnswersBatch dpInput placed choices)
    {choice : Choice} (member : choice ∈ choices) :
    dpInput.currentSlot ≤ choice.slot ∧ choice.slot < solver.windowSize := by
  obtain ⟨request, _, legal⟩ :=
    List.Forall₂.exists_left_of_mem answers.legal member
  have lower := legal.earliest_le
  have upper := legal.le_deadline
  unfold DpSolver.earliestFor at lower
  unfold DpSolver.deadlineFor at upper
  omega

/-- The DP prices every decision at its rank on top of the baseline. -/
theorem ranked_of_answersBatch
    (built : BuiltSolver input flavours solver)
    (started : 0 ≤ input.currentSlot)
    {placed : List RequestAssignment} {choices : List Choice}
    (answers : solver.AnswersBatch
      ((prepareSolve runtime order input).1.dpInput input) placed choices) :
    Ranking.Ranked RequestAssignment.slot
      (fun decision => Pays input.assignment input.carbonForecast
        (solver.flavoursFor decision.requestId input.requestFlavours) decision)
      (fun slot =>
        (SharedState.countSlots (input.fixedFuture order)).getD slot 0)
      placed := by
  refine Ranking.ranked_of_getElem? fun index decision located => ?_
  have priced := answers.eq_priceChoices started
  have there := located
  rw [priced] at there
  obtain ⟨choice, chosen, paid⟩ := DpSolver.getElem?_priceChoices there
  rw [← priced, List.nil_append] at paid
  have member := List.mem_of_getElem? chosen
  obtain ⟨request, _, legal⟩ :=
    List.Forall₂.exists_left_of_mem answers.legal member
  have inside := slots_inside answers member
  have nonneg : 0 ≤ choice.slot := started.trans inside.1
  have sameSlot : decision.slot = choice.slot := by rw [paid]; rfl
  have earlier :
      Ranking.boxCount RequestAssignment.slot (placed.take (index + 1))
          decision.slot =
        Ranking.boxCount RequestAssignment.slot (placed.take index)
          choice.slot + 1 := by
    rw [List.take_add_one, located, Option.toList_some, Ranking.boxCount_append,
      Ranking.boxCount_cons, sameSlot]
    simp
  have baseline :
      (solver.baseCounts
        ((prepareSolve runtime order input).1.dpInput input)).getD
          choice.slot.toNat 0 =
        (SharedState.countSlots (input.fixedFuture order)).getD
          choice.slot 0 :=
    getD_slotTable solver.windowSize
      (fun slot =>
        (SharedState.countSlots (input.fixedFuture order)).getD slot 0)
      nonneg inside.2
  have placedThere :
      (occupancy solver.windowSize (placed.take index)).getD
          choice.slot.toNat 0 =
        Ranking.boxCount RequestAssignment.slot (placed.take index)
          choice.slot :=
    getD_slotTable solver.windowSize
      (fun slot =>
        ((Ranking.boxCount RequestAssignment.slot (placed.take index) slot : ℕ)
          : ℤ))
      nonneg inside.2
  refine ⟨choice.flavour, ?_, by rw [paid]; rfl, by rw [paid]; rfl, ?_⟩
  · rw [paid]
    have offered := legal.flavour_mem
    rw [← legal.request_eq] at offered
    exact offered
  · rw [earlier, sameSlot]
    have cost :
        decision.carbonCost =
          solver.incrementalCarbonCost choice.slot choice.flavour.duration
            (solver.baseCounts
              ((prepareSolve runtime order input).1.dpInput input))
            (occupancy solver.windowSize (placed.take index))
            (DpSolver.resolvedTiers
              ((prepareSolve runtime order input).1.dpInput input)) := by
      rw [paid]
      rfl
    rw [cost, incrementalCarbonCost_eq_positionCost built nonneg inside.2
      (resolvedTiers_multiplier rfl), baseline, placedThere]
    congr 1
    push_cast
    omega

private theorem slots_of_places
    {counts : List ℤ} {currentSlot : ℤ} {tiers : List CapacityTier}
    {requestFlavours : Dictionary ℕ (List Flavour)}
    {requests : List SolveRequest} {answer : List RequestAssignment}
    (places : solver.PlacesGreedily currentSlot tiers requestFlavours counts
      requests answer) :
    ∀ decision ∈ answer,
      currentSlot ≤ decision.slot ∧ decision.slot < solver.windowSize := by
  induction places with
  | nil counts => simp
  | skip _ _ inductionHypothesis => exact inductionHypothesis
  | place _ first_le le_last _ inductionHypothesis =>
      have inside := le_last.trans (min_le_right _ _)
      exact List.forall_mem_cons.mpr
        ⟨⟨(le_max_right _ _).trans first_le, Int.lt_of_le_sub_one inside⟩,
          inductionHypothesis⟩

/-- The fallback prices every decision at its rank on top of the occupancy it
starts from. -/
theorem ranked_of_placesGreedily
    (built : BuiltSolver input input.assignment.flavours solver)
    (started : 0 ≤ input.currentSlot)
    {counts : List ℤ} {requests : List SolveRequest}
    {answer : List RequestAssignment}
    (horizon : counts.length = solver.windowSize.toNat)
    (places : solver.PlacesGreedily input.currentSlot
      input.assignment.capacityTiers input.requestFlavours counts requests
      answer) :
    Ranking.Ranked RequestAssignment.slot
      (fun decision => Pays input.assignment input.carbonForecast
        (solver.flavoursFor decision.requestId input.requestFlavours) decision)
      (fun slot => counts.getD slot.toNat 0) answer := by
  induction places with
  | nil counts => exact trivial
  | skip _ _ inductionHypothesis => exact inductionHypothesis horizon
  | @place counts request requests answer flavour slot longest first_le le_last
      rest inductionHypothesis =>
      have offered := DpSolver.mem_flavoursFor_of_fallback longest
      have nonneg : 0 ≤ slot :=
        (started.trans (le_max_right _ _)).trans first_le
      have inside : slot < solver.windowSize := by
        unfold DpSolver.fallbackLast at le_last
        omega
      have bounded : slot.toNat < counts.length := by omega
      refine ⟨⟨flavour, offered, rfl, rfl, ?_⟩, ?_⟩
      · have within : slot.toNat < solver.windowSize.toNat := by omega
        have empty :
            (List.replicate solver.windowSize.toNat (0 : ℤ)).getD
              slot.toNat 0 = 0 := by
          rw [List.getD_eq_getElem?_getD, List.getElem?_replicate,
            if_pos within, Option.getD_some]
        dsimp only
        rw [incrementalCarbonCost_eq_positionCost built nonneg inside
          (fun _ => rfl), empty, zero_add]
      · have later := inductionHypothesis (by simpa using horizon)
        refine later.congr fun decision member => ?_
        have nonnegThere := started.trans (slots_of_places rest decision member).1
        simp only [List.getD_eq_getElem?_getD, List.getElem?_modify,
          Ranking.occupy]
        by_cases here : slot = decision.slot
        · subst here
          rw [List.getElem?_eq_getElem bounded]
          simp
        · have elsewhere : slot.toNat ≠ decision.slot.toNat := by omega
          simp [here, elsewhere]

private theorem getD_baselineCounts
    {slot : ℤ} (nonneg : 0 ≤ slot) (inside : slot < input.assignment.totalSlots) :
    (input.baselineCounts order).getD slot.toNat 0 =
      (SharedState.countSlots (input.fixedFuture order)).getD slot 0 :=
  getD_slotTable input.assignment.totalSlots
    (fun slot =>
      (SharedState.countSlots (input.fixedFuture order)).getD slot 0)
    nonneg inside

/-- What the worker relies on about a non-empty proposal. -/
structure BatchProposal (order : IterationOrder Assignment)
    (input : BatchSolveContext) (result : BatchSolveResult) : Prop where
  /-- The whole batch, possibly with every movable future assignment. -/
  covers :
    assignmentIds result.assignments = requestIds input.pending ∨
      assignmentIds result.assignments =
        requestIds input.pending ++ assignmentIds (input.movableFuture order)
  profile : ∀ assignment ∈ result.assignments,
    assignment.qosProfileId = batchProfileId input.pending
  future : ∀ assignment ∈ result.assignments,
    input.currentSlot ≤ assignment.scheduledSlot
  served : 0 ≤ input.currentSlot →
    Ranking.Ranked Assignment.scheduledSlot input.ServedAt
      (fun slot => result.baselineSlotCounts.getD slot 0) result.assignments
  baseline_eq :
    result.baselineSlotCounts =
      SharedState.countSlots (input.fixedFuture order)

/-- The whole proposal is priced by rank. -/
theorem BatchProposal.priced {result : BatchSolveResult}
    (proposal : BatchProposal order input result)
    (started : 0 ≤ input.currentSlot) :
    PricedByRank input.assignment input.carbonForecast input.pending
      (fun slot => result.baselineSlotCounts.getD slot 0) result.assignments :=
  (proposal.served started).mono fun _ _ _ served =>
    paysPosition_of_pays served.pays fun _ =>
      BatchSolveContext.mem_batchFlavours_of_servedFlavours

private theorem toAssignment_profile
    (decisions : List RequestAssignment) :
    ∀ assignment ∈ decisions.map
        ((prepareSolve runtime order input).1.toAssignment
          input.flavourDurationByName),
      assignment.qosProfileId = batchProfileId input.pending :=
  List.forall_mem_map.mpr fun _ _ => rfl

/-- The DP pipeline proposes nothing, or the whole batch. -/
theorem DpOutcome.proposal
    {result : BatchSolveResult}
    (outcome : DpOutcome runtime order input result) :
    result.assignments = [] ∨ BatchProposal order input result := by
  cases outcome with
  | infeasible nothing _ _ => exact Or.inl nothing
  | planned built answers assignments_eq baseline_eq _ =>
      refine Or.inr ⟨Or.inr ?_, ?_, ?_, fun started => ?_, baseline_eq⟩
      · rw [assignments_eq, assignmentIds_map_toAssignment,
          answers.map_requestId]
        exact map_requestId_solveRequests runtime order input
      · rw [assignments_eq]
        exact toAssignment_profile _
      · rw [assignments_eq]
        refine List.forall_mem_map.mpr fun decision member => ?_
        obtain ⟨_, _, choice, legal, carriesOut⟩ :=
          List.Forall₂.exists_left_of_mem answers.forall₂ member
        rw [toAssignment_scheduledSlot, carriesOut.slot_eq]
        exact (le_max_right _ _).trans legal.earliest_le
      · rw [assignments_eq, baseline_eq]
        exact BatchSolveContext.ranked_servedAt_of_decisions
          (ranked_of_answersBatch built started answers)
          fun _ _ => mem_servedFlavours_of_flavoursFor built
            fun _ => BatchSolveContext.mem_of_mem_restrictFlavours
  | @fallback greedySolver placed built places everyRequest assignments_eq
      baseline_eq _ =>
      have slots := slots_of_places places
      refine Or.inr ⟨Or.inl ?_, ?_, ?_, fun started => ?_, baseline_eq⟩
      · rw [assignments_eq, assignmentIds_map_toAssignment, everyRequest]
      · rw [assignments_eq]
        exact toAssignment_profile _
      · rw [assignments_eq]
        exact List.forall_mem_map.mpr fun decision member =>
          (slots decision member).1
      · rw [assignments_eq, baseline_eq]
        have horizon :
            (input.baselineCounts order).length =
              greedySolver.windowSize.toNat := by
          rw [BatchSolveContext.baselineCounts, List.length_map,
            List.length_range, ← built.windowSize_eq]
        refine BatchSolveContext.ranked_servedAt_of_decisions
          ((ranked_of_placesGreedily built started horizon places).congr
            fun decision member => ?_)
          fun _ _ => mem_servedFlavours_of_flavoursFor built
            fun _ member => member
        have inside := slots decision member
        rw [built.windowSize_eq] at inside
        exact getD_baselineCounts (started.trans inside.1) inside.2

end Batch

/-! ## Greedy singleton -/

section GreedySingleton

/-- The decision serves the request, neither in the past nor before its
earliest slot. -/
def PlacesInTime (currentSlot : ℤ) (request : SolveRequest)
    (decision : RequestAssignment) : Prop :=
  decision.requestId = request.requestId ∧
    max request.earliestSlot currentSlot ≤ decision.slot

/-- It serves the request by its deadline, too. -/
def PlacesInside (currentSlot : ℤ) (request : SolveRequest)
    (decision : RequestAssignment) : Prop :=
  PlacesInTime currentSlot request decision ∧
    decision.slot ≤ request.deadlineSlot

variable {prep : PreparedSolve} {input : BatchSolveContext}
variable {fallback : Flavour}

private theorem singletonChoice_spec
    (input : BatchSolveContext) (scan : SingletonScan) (request : SolveRequest)
    (offered : fallback ∈ prep.solverFlavours) :
    max request.earliestSlot input.currentSlot ≤
        (singletonChoice prep input fallback scan request).1 ∧
      (singletonChoice prep input fallback scan request).1 ≤
        max (max request.earliestSlot input.currentSlot)
          request.deadlineSlot ∧
      (singletonChoice prep input fallback scan request).2 ∈
        prep.solverFlavours := by
  unfold singletonChoice
  dsimp only
  cases cheapest :
      ((singletonCandidates prep (max request.earliestSlot input.currentSlot)
          request.deadlineSlot).filter fun candidate =>
        singletonFeasible prep input scan
          (prep.assignmentMetadata.getD request.requestId
            (input.currentSlot, request.deadlineSlot)).1
          candidate.2).argmin fun candidate =>
        singletonCost input scan candidate.1 candidate.2 with
  | none => exact ⟨le_rfl, le_max_left _ _, offered⟩
  | some candidate =>
      have candidateMember :=
        (List.mem_filter.mp (List.argmin_mem cheapest)).1
      obtain ⟨slot, slotMember, inner⟩ := List.mem_flatMap.mp candidateMember
      obtain ⟨flavour, flavourMember, rfl⟩ := List.mem_map.mp inner
      have bounds := mem_slotRange.mp slotMember
      exact ⟨bounds.1, bounds.2.trans (le_max_right _ _),
        (List.mem_insertionSort _).mp flavourMember⟩

/-- One step of the singleton scan. -/
private theorem singletonStep_spec
    (offered : fallback ∈ prep.solverFlavours)
    {scan next : SingletonScan} {request : SolveRequest}
    (placed : singletonStep prep input fallback scan request = some next) :
    ∃ decision : RequestAssignment,
      next.solved = scan.solved ++ [decision] ∧
        PlacesInside input.currentSlot request decision ∧
        Pays input.assignment input.carbonForecast prep.solverFlavours decision
          (scan.slotCount.getD decision.slot 0 + 1) ∧
        (fun slot => next.slotCount.getD slot 0) =
          Ranking.occupy (fun slot => scan.slotCount.getD slot 0)
            decision.slot := by
  obtain ⟨future, soon, chosen⟩ :=
    singletonChoice_spec input scan request offered
  unfold singletonStep at placed
  split at placed
  · cases placed
  · rename_i opens
    cases placed
    rw [max_eq_right (not_lt.mp opens)] at soon
    refine ⟨_, rfl, ⟨⟨rfl, future⟩, soon⟩, ⟨_, chosen, rfl, rfl, rfl⟩, ?_⟩
    funext slot
    by_cases here : slot = (singletonChoice prep input fallback scan request).1
    · subst here
      simp
    · rw [Ranking.occupy_of_ne (Ne.symm here)]
      exact Dictionary.getD_upsert_of_ne here _ _ _

/-- The singleton scan places every request, from its earliest slot to its
deadline. -/
theorem singletonScan_spec
    (offered : fallback ∈ prep.solverFlavours)
    {scan final : SingletonScan} {requests : List SolveRequest}
    (placed : singletonScan prep input fallback scan requests = some final) :
    ∃ decisions : List RequestAssignment,
      final.solved = scan.solved ++ decisions ∧
        List.Forall₂ (PlacesInside input.currentSlot) requests decisions ∧
        Ranking.Ranked RequestAssignment.slot
          (Pays input.assignment input.carbonForecast prep.solverFlavours)
          (fun slot => scan.slotCount.getD slot 0) decisions := by
  induction requests generalizing scan with
  | nil =>
      cases placed
      exact ⟨[], by simp, .nil, trivial⟩
  | cons request rest inductionHypothesis =>
      rw [singletonScan, Option.bind_eq_some_iff] at placed
      obtain ⟨next, stepped, scanned⟩ := placed
      obtain ⟨decision, solved, inTime, paid, occupied⟩ :=
        singletonStep_spec offered stepped
      obtain ⟨decisions, finally_, places, ranked⟩ :=
        inductionHypothesis scanned
      rw [occupied] at ranked
      refine ⟨decision :: decisions, ?_, .cons inTime places, paid, ranked⟩
      rw [finally_, solved, List.append_assoc, List.singleton_append]

variable {σ : Type} {runtime : NumericRuntime σ} {oracle : SolveOracle}

/-- The result of a scan that places every request. -/
theorem solveGreedySingleton_of_scan
    (least : (prepareSolve runtime oracle.futureOrder
      input).1.solverFlavours.argmin Flavour.error = some fallback)
    {scan : SingletonScan}
    (scanned : singletonScan (prepareSolve runtime oracle.futureOrder input).1
      input fallback
      { slotCount :=
          (prepareSolve runtime oracle.futureOrder input).1.baselineSlotCounts
        solved := [] }
      (prepareSolve runtime oracle.futureOrder input).1.solveRequests =
        some scan) :
    solveGreedySingleton runtime oracle input =
      some ((prepareSolve runtime oracle.futureOrder input).1.finish "ok"
        "greedy_singleton"
        (scan.solved.map
          ((prepareSolve runtime oracle.futureOrder input).1.toAssignment
            input.flavourDurationByName))
        input (prepareSolve runtime oracle.futureOrder input).2) := by
  unfold solveGreedySingleton
  dsimp only
  rw [least, Option.map_some, scanned]

/-- The singleton strategy proposes nothing, or everything it was given. -/
theorem solveGreedySingleton_proposal
    {result : BatchSolveResult} {recovery : RecoveryState}
    (solved : solveGreedySingleton runtime oracle input =
      some (result, recovery)) :
    result.assignments = [] ∨
      BatchProposal oracle.futureOrder input result := by
  obtain ⟨fallback, least, finished⟩ := Option.map_eq_some_iff.mp solved
  split at finished
  · cases finished
    exact Or.inl rfl
  · rename_i scan scanned
    obtain ⟨decisions, placed, places, ranked⟩ :=
      singletonScan_spec (List.argmin_mem least) scanned
    have ids : decisions.map RequestAssignment.requestId = _ :=
      places.map_eq_map fun _ _ placed => placed.1.1
    have slots : ∀ decision ∈ decisions, input.currentSlot ≤ decision.slot := by
      intro decision member
      obtain ⟨request, _, ⟨_, first⟩, _⟩ :=
        List.Forall₂.exists_left_of_mem places member
      exact (le_max_right _ _).trans first
    rw [List.nil_append] at placed
    rw [placed] at finished
    have assignments := congrArg (fun pair => pair.1.assignments) finished
    have baseline := congrArg (fun pair => pair.1.baselineSlotCounts) finished
    dsimp only [finish_assignments] at assignments
    rw [map_requestId_solveRequests runtime oracle.futureOrder input] at ids
    refine Or.inr ⟨Or.inr ?_, ?_, ?_, fun _ => ?_, baseline.symm⟩
    · rw [← assignments, assignmentIds_map_toAssignment, ids]
    · rw [← assignments]
      exact toAssignment_profile _
    · rw [← assignments]
      exact List.forall_mem_map.mpr slots
    · rw [← assignments, ← baseline]
      exact BatchSolveContext.ranked_servedAt_of_decisions ranked
        fun _ _ => List.mem_append_right _

/-- Both batch strategies propose nothing, or the whole batch. -/
theorem BatchSolver.solve_proposal
    {solver : BatchSolver} (unique : (requestIds input.pending).Nodup)
    (someRequest : input.pending ≠ [])
    {result : BatchSolveResult} {recovery : RecoveryState}
    (solved : solver.solve runtime oracle input = some (result, recovery)) :
    result.assignments = [] ∨
      BatchProposal oracle.futureOrder input result := by
  cases solver with
  | dp => exact (solveDp_outcome unique someRequest solved).proposal
  | greedySingleton =>
      exact solveGreedySingleton_proposal solved

end GreedySingleton

end Carbonshift
