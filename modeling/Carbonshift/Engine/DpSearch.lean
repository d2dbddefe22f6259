import Carbonshift.Engine.DpSolver

/-!
# Batch solving as a search over choice sequences

The purpose of a batch solve in its own terms: a choice sequence names one
flavour and one slot per request, is priced in request order on top of the
baseline, and is acceptable when the quantised window average of the priced
answer meets the threshold.  None of this mentions DP keys.

The second half instantiates the layered search at the solver's keys and
connects it to these notions: a key records exactly the occupancy and the
window accounting of the answer that leads to it.
-/

namespace Carbonshift

/-- A flavour and a slot for one request. -/
structure Choice where
  request : SolveRequest
  flavour : Flavour
  slot : ℤ
  deriving DecidableEq, Repr

/-- How many of the placed assignments each horizon slot holds. -/
def occupancy (windowSize : ℤ) (placed : List RequestAssignment) : List ℤ :=
  (List.range windowSize.toNat).map fun (slot : ℕ) =>
    ((placed.countP fun assignment => assignment.slot = (slot : ℤ) : ℕ) : ℤ)

/-- Total carbon cost of an answer. -/
def totalCarbonCost (answer : List RequestAssignment) : ℚ :=
  (answer.map RequestAssignment.carbonCost).sum

namespace DpSolver

variable (solver : DpSolver) (input : SolveBatchInput)

/-! ## Choice sequences and their prices -/

/-- The choice uses one of the request's own flavours in a legal slot. -/
structure LegalChoice (request : SolveRequest) (choice : Choice) : Prop where
  request_eq : choice.request = request
  flavour_mem : choice.flavour ∈
    solver.flavoursFor request.requestId input.requestFlavours
  earliest_le : earliestFor input request ≤ choice.slot
  le_deadline : choice.slot ≤ solver.deadlineFor input request

/-- One legal choice per request, in request order. -/
def LegalChoices (choices : List Choice) : Prop :=
  List.Forall₂ (solver.LegalChoice input) input.requests choices

/-- The request has a flavour and a non-empty legal slot range. -/
structure Placeable (request : SolveRequest) : Prop where
  flavours_ne_nil :
    solver.flavoursFor request.requestId input.requestFlavours ≠ []
  earliest_le_deadline :
    earliestFor input request ≤ solver.deadlineFor input request

/-- Price one choice on top of the baseline and the earlier assignments. -/
def priceChoice (earlier : List RequestAssignment) (choice : Choice) :
    RequestAssignment where
  requestId := choice.request.requestId
  flavourName := choice.flavour.name
  slot := choice.slot
  carbonCost := solver.incrementalCarbonCost choice.slot
    choice.flavour.duration (solver.baseCounts input)
    (occupancy solver.windowSize earlier) (resolvedTiers input)
  error := choice.flavour.error

/-- Price a choice sequence in request order. -/
def priceChoices : List RequestAssignment → List Choice → List RequestAssignment
  | _, [] => []
  | earlier, choice :: choices =>
      let assignment := solver.priceChoice input earlier choice
      assignment :: priceChoices (earlier ++ [assignment]) choices

/-! ## The quantised window average of an answer -/

/-- The assignments of an answer that fall into the error window. -/
def windowPlacements (answer : List RequestAssignment) :
    List RequestAssignment :=
  answer.filter fun assignment => solver.inWindow input assignment.slot

/-- Mock requests used up by an answer: one per in-window assignment while
the pool lasts. -/
def mocksConsumed (answer : List RequestAssignment) : ℕ :=
  if 0 < mockErrorBp input then
    min (solver.windowPlacements input answer).length
      input.dynamicMockPool.initialCount.toNat
  else
    0

/-- Window error in basis points after an answer. -/
def windowErrorBp (answer : List RequestAssignment) : ℤ :=
  roundHalfAway (input.errorWindowBaseline.errorSum * 100) +
    ((solver.windowPlacements input answer).map fun assignment =>
      roundHalfAway (assignment.error * 100)).sum -
    solver.mocksConsumed input answer * mockErrorBp input

/-- Window request count in thousandths after an answer.  A consumed mock
takes the place of the request that consumed it, and clears a negative
baseline count. -/
def windowCountMilli (answer : List RequestAssignment) : ℤ :=
  let baseline := roundHalfAway (input.errorWindowBaseline.requestCount * 1000)
  let consumed := solver.mocksConsumed input answer
  (if consumed = 0 then baseline else max baseline 0) +
    1000 * ((solver.windowPlacements input answer).length - consumed)

/-- The quantised window average of the answer exceeds no given threshold; a
window without weight has no average. -/
def WithinThreshold (answer : List RequestAssignment) : Prop :=
  ∀ threshold, input.maxErrorThreshold = some threshold →
    solver.windowCountMilli input answer = 0 ∨
      (solver.windowErrorBp input answer : ℚ) / 100 /
          ((solver.windowCountMilli input answer : ℚ) / 1000) ≤ threshold

/-! ## The search the DP layers perform -/

/-- Keys, options and prices of the DP layers. -/
def dpSearch : LayeredSearch DpStateKey Choice RequestAssignment ℚ where
  next key choice := solver.advanceKey input key choice.flavour choice.slot
  price key choice := solver.incrementalCarbonCost choice.slot
    choice.flavour.duration (solver.baseCounts input) key.incCounts
    (resolvedTiers input)
  record key choice :=
    { requestId := choice.request.requestId
      flavourName := choice.flavour.name
      slot := choice.slot
      carbonCost := solver.incrementalCarbonCost choice.slot
        choice.flavour.duration (solver.baseCounts input) key.incCounts
        (resolvedTiers input)
      error := choice.flavour.error }

/-- The options of one request: every flavour in every legal slot. -/
def stageFor (request : SolveRequest) : List Choice :=
  (solver.flavoursFor request.requestId input.requestFlavours).flatMap
    fun flavour =>
      (slotRange (earliestFor input request)
        (solver.deadlineFor input request)).map fun slot =>
          { request := request, flavour := flavour, slot := slot }

theorem mem_stageFor_iff {request : SolveRequest} {choice : Choice} :
    choice ∈ solver.stageFor input request ↔
      solver.LegalChoice input request choice := by
  constructor
  · intro member
    obtain ⟨flavour, flavourMember, inner⟩ := List.mem_flatMap.mp member
    obtain ⟨slot, slotMember, rfl⟩ := List.mem_map.mp inner
    have bounds := mem_slotRange.mp slotMember
    exact ⟨rfl, flavourMember, bounds.1, bounds.2⟩
  · rintro ⟨rfl, flavourMember, lower, upper⟩
    exact List.mem_flatMap.mpr ⟨choice.flavour, flavourMember,
      List.mem_map.mpr ⟨choice.slot, mem_slotRange.mpr ⟨lower, upper⟩, rfl⟩⟩

theorem legalChoices_iff_admissible {choices : List Choice} :
    solver.LegalChoices input choices ↔
      LayeredSearch.Admissible
        (input.requests.map (solver.stageFor input)) choices := by
  simp only [LegalChoices, LayeredSearch.Admissible, List.forall₂_map_left_iff,
    mem_stageFor_iff]

/-- The nested loops of a layer are one expansion of the search. -/
theorem expandLayer_eq_expand
    (request : SolveRequest) (entries : List DpEntry) :
    solver.expandLayer input request entries =
      (solver.dpSearch input).expand (solver.stageFor input request) entries := by
  unfold expandLayer LayeredSearch.expand
  congr 1
  funext current entry
  simp only [LayeredSearch.extend, stageFor, List.foldl_flatMap,
    List.foldl_map]
  rfl

@[simp]
theorem dpSearch_next (key : DpStateKey) (choice : Choice) :
    (solver.dpSearch input).next key choice =
      solver.advanceKey input key choice.flavour choice.slot := rfl

@[simp]
theorem dpSearch_record_carbonCost (key : DpStateKey) (choice : Choice) :
    ((solver.dpSearch input).record key choice).carbonCost =
      (solver.dpSearch input).price key choice := rfl

theorem total_eq_totalCarbonCost (key : DpStateKey) (choices : List Choice) :
    (solver.dpSearch input).total key choices =
      totalCarbonCost ((solver.dpSearch input).trace key choices) :=
  LayeredSearch.total_eq_sum_trace _ (fun _ _ => rfl) key choices

/-! ## Keys record occupancy -/

section Occupancy

@[simp]
theorem occupancy_nil (windowSize : ℤ) :
    occupancy windowSize [] = List.replicate windowSize.toNat 0 := by
  simp [occupancy]

/-- Placing one more assignment raises the count of its slot by one. -/
theorem occupancy_concat
    (windowSize : ℤ) (placed : List RequestAssignment)
    {assignment : RequestAssignment} (slotNonneg : 0 ≤ assignment.slot) :
    occupancy windowSize (placed ++ [assignment]) =
      (occupancy windowSize placed).modify assignment.slot.toNat (· + 1) := by
  apply List.ext_getElem
  · simp [occupancy]
  · intro index inLeft inRight
    simp only [occupancy, List.getElem_map, List.getElem_range,
      List.countP_append, List.countP_singleton, List.getElem_modify]
    by_cases here : assignment.slot = (index : ℤ)
    · simp [here]
    · have elsewhere : assignment.slot.toNat ≠ index := by omega
      simp [here, elsewhere]

end Occupancy

variable {solver input}

/-- From a key that records the occupancy of the earlier assignments, the
trace of a legal choice sequence is its priced answer. -/
theorem trace_eq_priceChoices
    {key : DpStateKey} {earlier : List RequestAssignment}
    (recorded : key.incCounts = occupancy solver.windowSize earlier)
    {choices : List Choice}
    (slotsNonneg : ∀ choice ∈ choices, 0 ≤ choice.slot) :
    (solver.dpSearch input).trace key choices =
      solver.priceChoices input earlier choices := by
  induction choices generalizing key earlier with
  | nil => rfl
  | cons choice rest inductionHypothesis =>
      have priced :
          (solver.dpSearch input).record key choice =
            solver.priceChoice input earlier choice := by
        simp [dpSearch, priceChoice, recorded]
      have nextRecorded :
          ((solver.dpSearch input).next key choice).incCounts =
            occupancy solver.windowSize
              (earlier ++ [solver.priceChoice input earlier choice]) := by
        rw [occupancy_concat solver.windowSize earlier
          (slotsNonneg choice List.mem_cons_self), ← recorded]
        rfl
      rw [LayeredSearch.trace, priceChoices, priced,
        inductionHypothesis nextRecorded fun other member =>
          slotsNonneg other (List.mem_cons_of_mem choice member)]

theorem initialKey_incCounts :
    (solver.initialKey input).incCounts = occupancy solver.windowSize [] := by
  simp [initialKey, DpStateKey.new]

/-! ## Keys record the window accounting -/

section Accounting

@[simp]
theorem roundHalfAway_errorCount (key : DpStateKey) :
    roundHalfAway (key.errorCount * 1000) = key.errorCountMilli := by
  have exact : key.errorCount * 1000 = (key.errorCountMilli : ℚ) := by
    simp [DpStateKey.errorCount]
  rw [exact, roundHalfAway_intCast]

theorem roundHalfAway_errorCount_succ (key : DpStateKey) :
    roundHalfAway ((key.errorCount + 1) * 1000) =
      key.errorCountMilli + 1000 := by
  have exact :
      (key.errorCount + 1) * 1000 = ((key.errorCountMilli + 1000 : ℤ) : ℚ) := by
    simp only [DpStateKey.errorCount]
    push_cast
    ring
  rw [exact, roundHalfAway_intCast]

theorem roundHalfAway_errorCount_clamped (key : DpStateKey) :
    roundHalfAway (max (key.errorCount + 1 - 1) 0 * 1000) =
      max key.errorCountMilli 0 := by
  have exact :
      max (key.errorCount + 1 - 1) 0 * 1000 =
        ((max key.errorCountMilli 0 : ℤ) : ℚ) := by
    rw [add_sub_cancel_right, max_mul_of_nonneg _ _ (by norm_num), zero_mul,
      Int.cast_max, Int.cast_zero]
    simp [DpStateKey.errorCount]
  rw [exact, roundHalfAway_intCast]

variable {key : DpStateKey} {answer : List RequestAssignment}
variable {flavour : Flavour} {assignment : RequestAssignment}

/-- The key carries the window sum, the window count and the unused mocks of
the answer that leads to it. -/
structure Accounts
    (solver : DpSolver) (input : SolveBatchInput)
    (key : DpStateKey) (answer : List RequestAssignment) : Prop where
  errorSumBp : key.errorSumBp = solver.windowErrorBp input answer
  errorCountMilli :
    key.errorCountMilli = solver.windowCountMilli input answer
  mockRemaining :
    key.mockRemaining =
      max input.dynamicMockPool.initialCount 0 -
        (solver.mocksConsumed input answer : ℤ)

@[simp]
theorem windowPlacements_nil : solver.windowPlacements input [] = [] := rfl

@[simp]
theorem mocksConsumed_nil : solver.mocksConsumed input [] = 0 := by
  simp [mocksConsumed]

theorem windowPlacements_concat_of_outside
    (answer : List RequestAssignment)
    (outside : solver.inWindow input assignment.slot = false) :
    solver.windowPlacements input (answer ++ [assignment]) =
      solver.windowPlacements input answer := by
  simp [windowPlacements, outside]

theorem windowPlacements_concat_of_inside
    (answer : List RequestAssignment)
    (inside : solver.inWindow input assignment.slot = true) :
    solver.windowPlacements input (answer ++ [assignment]) =
      solver.windowPlacements input answer ++ [assignment] := by
  simp [windowPlacements, inside]

theorem accounts_initialKey :
    Accounts solver input (solver.initialKey input) [] := by
  constructor
  · simp [initialKey, DpStateKey.new, windowErrorBp]
  · simp [initialKey, DpStateKey.new, windowCountMilli]
  · simp [initialKey, DpStateKey.new]

/-- A placement outside the window leaves the accounting as it was. -/
private theorem Accounts.outside
    (accounts : Accounts solver input key answer)
    (outside : solver.inWindow input assignment.slot = false) :
    Accounts solver input (solver.advanceKey input key flavour assignment.slot)
      (answer ++ [assignment]) := by
  have placements := windowPlacements_concat_of_outside answer outside
  have consumed :
      solver.mocksConsumed input (answer ++ [assignment]) =
        solver.mocksConsumed input answer := by
    simp only [mocksConsumed, placements]
  constructor
  · simpa [advanceKey, accountPlacement, outside, DpStateKey.new,
      windowErrorBp, placements, consumed] using accounts.errorSumBp
  · simpa [advanceKey, accountPlacement, outside, DpStateKey.new,
      windowCountMilli, placements, consumed] using accounts.errorCountMilli
  · simpa [advanceKey, accountPlacement, outside, DpStateKey.new,
      consumed] using accounts.mockRemaining

/-- An in-window placement that meets an unused mock takes its place.  Up to
then every in-window placement has consumed a mock. -/
private theorem Accounts.consuming
    (accounts : Accounts solver input key answer)
    (inside : solver.inWindow input assignment.slot = true)
    (sameError : assignment.error = flavour.error)
    (unused : 0 < key.mockRemaining ∧ 0 < mockErrorBp input) :
    Accounts solver input (solver.advanceKey input key flavour assignment.slot)
      (answer ++ [assignment]) := by
  have placements := windowPlacements_concat_of_inside answer inside
  have remaining := accounts.mockRemaining
  have before :
      solver.mocksConsumed input answer =
        (solver.windowPlacements input answer).length := by
    simp only [mocksConsumed, unused.2, if_true] at remaining ⊢
    omega
  have consumed :
      solver.mocksConsumed input (answer ++ [assignment]) =
        solver.mocksConsumed input answer + 1 := by
    rw [before] at remaining
    simp only [mocksConsumed, unused.2, if_true, placements,
      List.length_append, List.length_singleton]
    omega
  have sum := accounts.errorSumBp
  have count := accounts.errorCountMilli
  constructor
  · simp only [windowErrorBp, placements, consumed, advanceKey,
      accountPlacement, inside, unused, if_true, and_self, DpStateKey.new, sum,
      List.map_append, List.map_cons, List.map_nil, List.sum_append,
      List.sum_cons, List.sum_nil, sameError]
    push_cast
    ring
  · simp only [windowCountMilli, before, sub_self, mul_zero,
      add_zero] at count
    simp only [windowCountMilli, placements, consumed, before, advanceKey,
      accountPlacement, inside, unused, if_true, and_self, DpStateKey.new,
      roundHalfAway_errorCount_clamped, count, List.length_append,
      List.length_singleton, sub_self, mul_zero, add_zero]
    split <;> simp
  · simp only [consumed, advanceKey, accountPlacement, inside, unused, if_true,
      and_self, DpStateKey.new]
    rw [remaining]
    push_cast
    ring

/-- Any other in-window placement adds its error and one request. -/
private theorem Accounts.counting
    (accounts : Accounts solver input key answer)
    (inside : solver.inWindow input assignment.slot = true)
    (sameError : assignment.error = flavour.error)
    (used : ¬ (0 < key.mockRemaining ∧ 0 < mockErrorBp input)) :
    Accounts solver input (solver.advanceKey input key flavour assignment.slot)
      (answer ++ [assignment]) := by
  have placements := windowPlacements_concat_of_inside answer inside
  have remaining := accounts.mockRemaining
  have consumed :
      solver.mocksConsumed input (answer ++ [assignment]) =
        solver.mocksConsumed input answer := by
    by_cases priced : 0 < mockErrorBp input
    · simp only [mocksConsumed, priced, if_true, placements,
        List.length_append, List.length_singleton] at remaining ⊢
      omega
    · simp only [mocksConsumed, priced, if_false]
  have sum := accounts.errorSumBp
  have count := accounts.errorCountMilli
  constructor
  · simp only [windowErrorBp, placements, consumed, advanceKey,
      accountPlacement, inside, used, if_true, if_false, DpStateKey.new, sum,
      List.map_append, List.map_cons, List.map_nil, List.sum_append,
      List.sum_cons, List.sum_nil, sameError]
    ring
  · simp only [windowCountMilli, placements, consumed, advanceKey,
      accountPlacement, inside, used, if_true, if_false, DpStateKey.new,
      roundHalfAway_errorCount_succ, count, List.length_append,
      List.length_singleton]
    push_cast
    ring
  · simpa only [consumed, advanceKey, accountPlacement, inside, used, if_true,
      if_false, DpStateKey.new] using remaining

/-- Advancing a key by a placement accounts for it. -/
theorem Accounts.advance
    (accounts : Accounts solver input key answer)
    (flavour : Flavour) (assignment : RequestAssignment)
    (sameError : assignment.error = flavour.error) :
    Accounts solver input (solver.advanceKey input key flavour assignment.slot)
      (answer ++ [assignment]) := by
  cases inside : solver.inWindow input assignment.slot with
  | false => exact accounts.outside inside
  | true =>
      by_cases unused : 0 < key.mockRemaining ∧ 0 < mockErrorBp input
      · exact accounts.consuming inside sameError unused
      · exact accounts.counting inside sameError unused

/-- The key of a choice sequence carries the accounting of its trace. -/
theorem accounts_target (choices : List Choice) :
    Accounts solver input
      ((solver.dpSearch input).target (solver.initialKey input) choices)
      ((solver.dpSearch input).trace (solver.initialKey input) choices) := by
  induction choices using List.reverseRecOn with
  | nil => exact accounts_initialKey
  | append_singleton earlier choice inductionHypothesis =>
      rw [LayeredSearch.target_concat, LayeredSearch.trace_concat]
      exact inductionHypothesis.advance choice.flavour
        ((solver.dpSearch input).record _ choice) rfl

/-- The test on a key is the threshold condition on its answer. -/
theorem Accounts.meetsThreshold_iff
    (accounts : Accounts solver input key answer) :
    meetsThreshold input key = true ↔ solver.WithinThreshold input answer := by
  have zero : key.errorCount = 0 ↔ key.errorCountMilli = 0 := by
    simp [DpStateKey.errorCount]
  unfold meetsThreshold WithinThreshold
  rw [← accounts.errorSumBp, ← accounts.errorCountMilli]
  cases input.maxErrorThreshold with
  | none => simp
  | some threshold =>
      simp only [decide_eq_true_eq, zero, Option.some.injEq, forall_eq']
      rfl

theorem meetsThreshold_target_iff (choices : List Choice) :
    meetsThreshold input
        ((solver.dpSearch input).target (solver.initialKey input) choices) =
        true ↔
      solver.WithinThreshold input
        ((solver.dpSearch input).trace (solver.initialKey input) choices) :=
  (accounts_target choices).meetsThreshold_iff

end Accounting

end DpSolver

end Carbonshift
