import Carbonshift.Engine.DpLayers
import Carbonshift.Library.ListFacts

/-!
# What a batch solve guarantees

Every answer of the solver, whichever exit it takes, is a priced legal choice
sequence within the threshold.  A feasible warm start bounds its cost, and an
unpruned search in time finds a cheapest one.
-/

namespace Carbonshift

namespace DpSolver

variable {solver : DpSolver} {input : SolveBatchInput}
variable {oracle : SearchOracle}

/-! ## Selecting from the final layer -/

section Selection

variable {incumbent : List RequestAssignment} {layer : DpLayer}

private theorem mem_survivors_iff {entry : DpEntry} :
    entry ∈ (oracle.finish.arrange layer.toPairs).filter
        (fun entry => meetsThreshold input entry.1) ↔
      layer.lookup entry.1 = some entry.2 ∧
        meetsThreshold input entry.1 = true := by
  rw [List.mem_filter, IterationOrder.mem_arrange]
  exact and_congr_left fun _ => Dictionary.mem_toPairs_iff

/-- With a state that meets the threshold, the answer is the path of a
cheapest such state. -/
theorem selectAnswer_of_survivor
    {key : DpStateKey} {kept : ℚ × List RequestAssignment}
    (found : layer.lookup key = some kept)
    (meets : meetsThreshold input key = true) :
    ∃ entry : DpEntry,
      layer.lookup entry.1 = some entry.2 ∧
        meetsThreshold input entry.1 = true ∧
        selectAnswer input oracle incumbent layer = entry.2.2 ∧
        entry.2.1 ≤ kept.1 := by
  set survivors := (oracle.finish.arrange layer.toPairs).filter
    (fun entry => meetsThreshold input entry.1) with survivors_def
  have member : (key, kept) ∈ survivors :=
    mem_survivors_iff.mpr ⟨found, meets⟩
  cases smallest : survivors.argmin (fun entry => entry.2.1) with
  | none =>
      rw [List.argmin_eq_none.mp smallest] at member
      cases member
  | some entry =>
      have survives := mem_survivors_iff.mp (List.argmin_mem smallest)
      have cheapest := List.le_of_mem_argmin member smallest
      refine ⟨entry, survives.1, survives.2, ?_, cheapest⟩
      have nonempty : survivors.isEmpty = false :=
        List.isEmpty_eq_false_iff.mpr (List.ne_nil_of_mem member)
      simp only [selectAnswer, ← survivors_def, nonempty, Bool.and_false,
        Bool.false_eq_true, if_false, smallest]

/-- Otherwise there is no answer, or the incumbent when no threshold is
given. -/
theorem selectAnswer_cases :
    selectAnswer input oracle incumbent layer = [] ∨
      selectAnswer input oracle incumbent layer = incumbent ∨
      ∃ entry : DpEntry,
        layer.lookup entry.1 = some entry.2 ∧
          meetsThreshold input entry.1 = true ∧
          selectAnswer input oracle incumbent layer = entry.2.2 := by
  unfold selectAnswer
  dsimp only
  split
  · exact Or.inl rfl
  · split
    · rename_i entry smallest
      have survives := mem_survivors_iff.mp (List.argmin_mem smallest)
      exact Or.inr (Or.inr ⟨entry, survives.1, survives.2, rfl⟩)
    · exact Or.inr (Or.inl rfl)

end Selection

/-! ## Soundness of every exit -/

section Soundness

variable (solver input) in
/-- The answer is priced along a legal choice sequence within the
threshold. -/
structure AnswersBatch
    (answer : List RequestAssignment) (choices : List Choice) : Prop where
  legal : solver.LegalChoices input choices
  answer_eq :
    answer = (solver.dpSearch input).trace (solver.initialKey input) choices
  within : solver.WithinThreshold input answer

/-- A feasible warm start is the incumbent. -/
theorem incumbent_eq_of_feasible
    (feasible : solver.warmIsFeasible input = true) :
    solver.incumbent input = (solver.computeSequentialSolution input).1 := by
  simp [incumbent, feasible]

private theorem incumbent_cases :
    solver.incumbent input = [] ∨
      ∃ choices, AnswersBatch solver input (solver.incumbent input) choices := by
  by_cases feasible : solver.warmIsFeasible input = true
  · rw [incumbent_eq_of_feasible feasible]
    rcases computeSequentialSolution_spec with empty | ⟨choices, follows⟩
    · exact Or.inl empty
    · exact Or.inr ⟨choices, follows.legal, follows.assignments_eq,
        follows.feasible_iff.mp feasible⟩
  · exact Or.inl (by simp [incumbent, feasible])

/-- The path of a kept complete state that meets the threshold answers the
batch. -/
private theorem answersBatch_of_sound
    {final : DpLayer} {entry : DpEntry}
    (sound : (solver.dpSearch input).Sound (solver.initialKey input)
      (input.requests.map (solver.stageFor input)) final)
    (stored : final.lookup entry.1 = some entry.2)
    (meets : meetsThreshold input entry.1 = true) :
    entry.2.1 = totalCarbonCost entry.2.2 ∧
      ∃ choices, AnswersBatch solver input entry.2.2 choices := by
  obtain ⟨choices, admissible, atKey, costs, traced⟩ :=
    sound entry.1 entry.2 stored
  refine ⟨?_, choices, ?_, traced.symm, ?_⟩
  · rw [← costs, ← traced, total_eq_totalCarbonCost]
  · exact (solver.legalChoices_iff_admissible input).mpr admissible
  · rw [← traced, ← meetsThreshold_target_iff, atKey]
    exact meets

private theorem final_sound
    {final : DpLayer}
    (finished : solver.searchLayers input oracle (solver.incumbent input)
      (solver.computeSequentialSolution input).2 0 input.requests
      (AList.singleton (solver.initialKey input) (0, [])) = .ok final) :
    (solver.dpSearch input).Sound (solver.initialKey input)
      (input.requests.map (solver.stageFor input)) final := by
  have start :
      (solver.dpSearch input).Sound (solver.initialKey input)
        (([] : List SolveRequest).map (solver.stageFor input))
        (AList.singleton (solver.initialKey input) (0, [])) :=
    LayeredSearch.sound_singleton
  simpa using searchLayers_sound start finished

/-- The final layer is at least as cheap at the warm-start key as the warm
start. -/
private theorem final_covers
    {choices : List Choice} (follows : WarmStartFollows solver input choices)
    {final : DpLayer}
    (finished : solver.searchLayers input oracle (solver.incumbent input)
      (solver.computeSequentialSolution input).2 0 input.requests
      (AList.singleton (solver.initialKey input) (0, [])) = .ok final) :
    LayeredSearch.Covers final
      ((solver.dpSearch input).target (solver.initialKey input) choices)
      ((solver.dpSearch input).total (solver.initialKey input) choices) := by
  have start :
      LayeredSearch.Covers
        (AList.singleton (solver.initialKey input) (0, []) : DpLayer)
        ((solver.dpSearch input).target (solver.initialKey input) [])
        ((solver.dpSearch input).total (solver.initialKey input) []) :=
    ⟨(0, []), by simp, le_rfl⟩
  have warm :
      ∀ offset ≤ choices.length,
        (solver.computeSequentialSolution input).2[0 + offset]? =
          some ((solver.dpSearch input).target (solver.initialKey input)
            ([] ++ choices.take offset)) := by
    intro offset bounded
    rw [Nat.zero_add, List.nil_append]
    exact follows.keyAfter bounded
  exact searchLayers_covers rfl warm follows.legal start finished

/-- Whichever exit a solve takes, its answer is empty or answers the batch. -/
theorem solveBatch_cases
    (solver : DpSolver) (input : SolveBatchInput) (oracle : SearchOracle) :
    solver.solveBatch input oracle = [] ∨
      ∃ choices,
        AnswersBatch solver input (solver.solveBatch input oracle) choices := by
  unfold solveBatch
  split
  · exact Or.inl rfl
  split
  · exact Or.inl rfl
  split
  · exact Or.inl rfl
  split
  · -- Dead end or timeout: the incumbent answers.
    rename_i answer exited
    rw [searchLayers_error exited]
    exact incumbent_cases
  · rename_i final finished
    rcases selectAnswer_cases with
      empty | incumbentAnswers | ⟨entry, stored, meets, answers⟩
    · exact Or.inl empty
    · rw [incumbentAnswers]
      exact incumbent_cases
    · rw [answers]
      exact Or.inr
        (answersBatch_of_sound (final_sound finished) stored meets).2

end Soundness

/-! ## Reading a priced answer -/

section Pricing

/-- An assignment of a priced answer is its choice priced on top of the
assignments before it. -/
theorem getElem?_priceChoices
    {earlier : List RequestAssignment} {choices : List Choice} {index : ℕ}
    {assignment : RequestAssignment}
    (placed : (solver.priceChoices input earlier choices)[index]? =
      some assignment) :
    ∃ choice,
      choices[index]? = some choice ∧
        assignment = solver.priceChoice input
          (earlier ++ (solver.priceChoices input earlier choices).take index)
          choice := by
  induction choices generalizing earlier index with
  | nil => simp [priceChoices] at placed
  | cons choice rest inductionHypothesis =>
      cases index with
      | zero =>
          refine ⟨choice, rfl, ?_⟩
          simpa [priceChoices] using placed.symm
      | succ next =>
          rw [priceChoices, List.getElem?_cons_succ] at placed
          obtain ⟨found, located, priced⟩ := inductionHypothesis placed
          refine ⟨found, located, ?_⟩
          rw [priced, priceChoices, List.take_succ_cons, List.append_assoc,
            List.singleton_append]

theorem AnswersBatch.slots_nonneg
    {answer : List RequestAssignment} {choices : List Choice}
    (answers : AnswersBatch solver input answer choices)
    (started : 0 ≤ input.currentSlot) :
    ∀ choice ∈ choices, 0 ≤ choice.slot := by
  intro choice member
  obtain ⟨request, _, legal⟩ :=
    List.Forall₂.exists_left_of_mem answers.legal member
  calc
    0 ≤ input.currentSlot := started
    _ ≤ earliestFor input request := le_max_right _ _
    _ ≤ choice.slot := legal.earliest_le

/-- From a non-negative slot on, answers are priced choice sequences. -/
theorem AnswersBatch.eq_priceChoices
    {answer : List RequestAssignment} {choices : List Choice}
    (answers : AnswersBatch solver input answer choices)
    (started : 0 ≤ input.currentSlot) :
    answer = solver.priceChoices input [] choices :=
  answers.answer_eq.trans
    (trace_eq_priceChoices initialKey_incCounts (answers.slots_nonneg started))

theorem AnswersBatch.length_eq
    {answer : List RequestAssignment} {choices : List Choice}
    (answers : AnswersBatch solver input answer choices) :
    answer.length = input.requests.length := by
  rw [answers.answer_eq, LayeredSearch.length_trace, answers.legal.length_eq]

theorem AnswersBatch.ne_nil
    {answer : List RequestAssignment} {choices : List Choice}
    (answers : AnswersBatch solver input answer choices)
    (someRequest : input.requests ≠ []) : answer ≠ [] := by
  intro empty
  have length := answers.length_eq
  rw [empty] at length
  exact someRequest (List.length_eq_zero_iff.mp length.symm)

/-- The decision carries out the choice, whatever it costs. -/
structure CarriesOut (choice : Choice) (decision : RequestAssignment) :
    Prop where
  requestId_eq : decision.requestId = choice.request.requestId
  slot_eq : decision.slot = choice.slot
  flavourName_eq : decision.flavourName = choice.flavour.name
  error_eq : decision.error = choice.flavour.error

private theorem forall₂_trace
    {requests : List SolveRequest} {choices : List Choice}
    (legal : List.Forall₂ (solver.LegalChoice input) requests choices)
    (key : DpStateKey) :
    List.Forall₂
      (fun request decision => ∃ choice,
        solver.LegalChoice input request choice ∧ CarriesOut choice decision)
      requests ((solver.dpSearch input).trace key choices) := by
  induction legal generalizing key with
  | nil => exact List.Forall₂.nil
  | cons legalChoice _ inductionHypothesis =>
      exact List.Forall₂.cons ⟨_, legalChoice, ⟨rfl, rfl, rfl, rfl⟩⟩
        (inductionHypothesis _)

/-- Request by request, the answer carries out a legal choice. -/
theorem AnswersBatch.forall₂
    {answer : List RequestAssignment} {choices : List Choice}
    (answers : AnswersBatch solver input answer choices) :
    List.Forall₂
      (fun request decision => ∃ choice,
        solver.LegalChoice input request choice ∧ CarriesOut choice decision)
      input.requests answer := by
  rw [answers.answer_eq]
  exact forall₂_trace answers.legal _

private theorem forall₂_carriesOut (choices : List Choice) (key : DpStateKey) :
    List.Forall₂ CarriesOut choices
      ((solver.dpSearch input).trace key choices) := by
  induction choices generalizing key with
  | nil => exact List.Forall₂.nil
  | cons choice rest inductionHypothesis =>
      exact List.Forall₂.cons ⟨rfl, rfl, rfl, rfl⟩ (inductionHypothesis _)

/-- The answer carries out its choices, one after another. -/
theorem AnswersBatch.forall₂_choices
    {answer : List RequestAssignment} {choices : List Choice}
    (answers : AnswersBatch solver input answer choices) :
    List.Forall₂ CarriesOut choices answer := by
  rw [answers.answer_eq]
  exact forall₂_carriesOut choices _

/-- One assignment per request, in request order. -/
theorem AnswersBatch.map_requestId
    {answer : List RequestAssignment} {choices : List Choice}
    (answers : AnswersBatch solver input answer choices) :
    answer.map RequestAssignment.requestId =
      input.requests.map SolveRequest.requestId := by
  refine answers.forall₂.map_eq_map ?_
  rintro request decision ⟨choice, legal, carriesOut⟩
  rw [carriesOut.requestId_eq, legal.request_eq]

end Pricing

/-! ## Main results -/

section Guarantees

/-- The documented upper end of a request's slots. -/
def latestSlot (solver : DpSolver) (input : SolveBatchInput)
    (request : SolveRequest) : ℤ :=
  min
    (min (max request.deadlineSlot input.currentSlot)
      (max (input.assignmentMaxSlot.getD (solver.windowSize - 1))
        input.currentSlot))
    (solver.windowSize - 1)

/-- The assignment serves the request with one of its own flavours, in one of
its own slots, and pays the position it takes after `earlier`. -/
structure ServesRequest (solver : DpSolver) (input : SolveBatchInput)
    (earlier : List RequestAssignment) (request : SolveRequest)
    (assignment : RequestAssignment) : Prop where
  requestId_eq : assignment.requestId = request.requestId
  earliest_le :
    max request.earliestSlot input.currentSlot ≤ assignment.slot
  le_latest : assignment.slot ≤ solver.latestSlot input request
  priced : ∃ flavour ∈
    solver.flavoursFor request.requestId input.requestFlavours,
      assignment.flavourName = flavour.name ∧
        assignment.error = flavour.error ∧
        assignment.carbonCost =
          solver.incrementalCarbonCost assignment.slot flavour.duration
            (solver.baseCounts input) (occupancy solver.windowSize earlier)
            (resolvedTiers input)

private theorem deadlineFor_le_latestSlot (request : SolveRequest) :
    solver.deadlineFor input request ≤ solver.latestSlot input request := by
  unfold deadlineFor latestSlot assignmentCap
  omega

/-- A two-slot horizon whose cheap slot is already half full. -/
def twoSlotSolver (pruning : String) (pruningK : ℕ) : DpSolver where
  flavours :=
    [{ name := "fast", error := 4, duration := 1 },
      { name := "precise", error := 1, duration := 2 }]
  windowSize := 2
  carbonForecast := ⟨[3, 1], rfl⟩
  pruning := pruning
  pruningK := pruningK
  timeout := 1
  carbonCostScale := 1

def twoRequestInput : SolveBatchInput where
  requests :=
    [{ requestId := 7, earliestSlot := 0, deadlineSlot := 1 },
      { requestId := 8, earliestSlot := 0, deadlineSlot := 5 }]
  currentSlot := 0
  capacityMultiplier := 1
  capacityTiers :=
    [{ maxRequests := some 1, multiplier := 1 },
      { maxRequests := none, multiplier := 3 }]
  baselineSlotCounts := AList.singleton 1 1
  errorWindowBaseline := { errorSum := 0, requestCount := 0 }
  maxErrorThreshold := some 3
  errorWindowPast := 2
  errorWindowFuture := 2
  assignmentMaxSlot := none
  dynamicMockPool := MockPool.default
  requestFlavours := ∅

theorem twoRequestInput_placeable (pruning : String) (pruningK : ℕ) :
    ∀ request ∈ twoRequestInput.requests,
      (twoSlotSolver pruning pruningK).Placeable twoRequestInput request := by
  intro request member
  simp only [twoRequestInput, List.mem_cons, List.not_mem_nil,
    or_false] at member
  have range : (0 : ℤ) ≤ 1 := zero_le_one
  rcases member with rfl | rfl
  · exact ⟨List.cons_ne_nil _ _, range⟩
  · exact ⟨List.cons_ne_nil _ _, range⟩

/-- Soundness: an answer of any exit serves every request of the batch, in
order, and its quantised window average is within the threshold. -/
theorem solveBatch_sound
    (solver : DpSolver) (input : SolveBatchInput) (oracle : SearchOracle)
    (started : 0 ≤ input.currentSlot) :
    solver.solveBatch input oracle = [] ∨
      (solver.solveBatch input oracle).length = input.requests.length ∧
        (∀ index assignment,
          (solver.solveBatch input oracle)[index]? = some assignment →
          ∃ request,
            input.requests[index]? = some request ∧
              ServesRequest solver input
                ((solver.solveBatch input oracle).take index) request
                assignment) ∧
        solver.WithinThreshold input (solver.solveBatch input oracle) := by
  rcases solveBatch_cases solver input oracle with
    empty | ⟨choices, answers⟩
  · exact Or.inl empty
  refine Or.inr ⟨answers.length_eq, ?_, answers.within⟩
  rw [answers.eq_priceChoices started]
  intro index assignment placed
  obtain ⟨choice, located, rfl⟩ := getElem?_priceChoices placed
  obtain ⟨request, there, legal⟩ := answers.legal.getElem?_right located
  refine ⟨request, there, ?_⟩
  constructor
  · rw [← legal.request_eq]
    rfl
  · exact legal.earliest_le
  · exact legal.le_deadline.trans (deadlineFor_le_latestSlot request)
  · exact ⟨choice.flavour, legal.flavour_mem, rfl, rfl, rfl⟩

/-- Both requests are served, the second after the first. -/
theorem solveBatch_sound_twoRequests :
    ∃ first second,
      (twoSlotSolver "beam" 1).solveBatch twoRequestInput (.steady 0) =
          [first, second] ∧
        ServesRequest (twoSlotSolver "beam" 1) twoRequestInput []
          { requestId := 7, earliestSlot := 0, deadlineSlot := 1 } first ∧
        ServesRequest (twoSlotSolver "beam" 1) twoRequestInput [first]
          { requestId := 8, earliestSlot := 0, deadlineSlot := 5 } second ∧
        (twoSlotSolver "beam" 1).WithinThreshold twoRequestInput
          [first, second] := by
  have nonempty : (twoSlotSolver "beam" 1).solveBatch twoRequestInput
      (.steady 0) ≠ [] := by
    decide +kernel
  obtain ⟨length_eq, serves, within⟩ :=
    (solveBatch_sound (twoSlotSolver "beam" 1) twoRequestInput (.steady 0)
      (by decide)).resolve_left nonempty
  obtain ⟨first, second, answer⟩ := List.length_eq_two.mp length_eq
  rw [answer] at serves within
  obtain ⟨_, one, servesFirst⟩ := serves 0 first rfl
  obtain ⟨_, two, servesSecond⟩ := serves 1 second rfl
  cases one
  cases two
  exact ⟨first, second, answer, servesFirst, servesSecond, within⟩

/-- A solve on placeable requests runs its layers. -/
private theorem solveBatch_eq_search
    (someRequest : input.requests ≠ [])
    (placeable : ∀ request ∈ input.requests,
      solver.Placeable input request) :
    solver.solveBatch input oracle =
      match solver.searchLayers input oracle (solver.incumbent input)
          (solver.computeSequentialSolution input).2 0 input.requests
          (AList.singleton (solver.initialKey input) (0, [])) with
      | .error answer => answer
      | .ok layer =>
          selectAnswer input oracle (solver.incumbent input) layer := by
  have running : input.currentSlot < solver.windowSize := by
    obtain ⟨request, member⟩ := List.exists_mem_of_ne_nil _ someRequest
    have lower : input.currentSlot ≤ earliestFor input request :=
      le_max_right _ _
    have upper : solver.deadlineFor input request ≤ solver.windowSize - 1 :=
      min_le_right _ _
    have range := (placeable request member).earliest_le_deadline
    omega
  have ranges :
      input.requests.any (fun request =>
        decide (solver.deadlineFor input request <
          earliestFor input request)) = false := by
    rw [List.any_eq_false]
    intro request member
    simpa using (placeable request member).earliest_le_deadline
  have nonempty : ¬ input.requests.isEmpty = true := by
    rwa [List.isEmpty_iff]
  refine (if_neg nonempty).trans ((if_neg running.not_ge).trans ?_)
  exact (if_neg (Bool.eq_false_iff.mp ranges)).trans rfl

/-- A feasible warm start leaves an answer that costs no more. -/
theorem exists_answersBatch_of_warmStart
    (oracle : SearchOracle) (someRequest : input.requests ≠ [])
    (placeable : ∀ request ∈ input.requests, solver.Placeable input request)
    (feasible : solver.WithinThreshold input
      (solver.computeSequentialSolution input).1) :
    ∃ choices,
      AnswersBatch solver input (solver.solveBatch input oracle) choices ∧
        totalCarbonCost (solver.solveBatch input oracle) ≤
          totalCarbonCost (solver.computeSequentialSolution input).1 := by
  obtain ⟨warmChoices, follows⟩ := exists_warmStartFollows placeable
  have verdict : solver.warmIsFeasible input = true :=
    follows.feasible_iff.mpr feasible
  rw [solveBatch_eq_search someRequest placeable]
  split
  · rename_i answer exited
    rw [searchLayers_error exited, incumbent_eq_of_feasible verdict]
    exact ⟨warmChoices,
      ⟨follows.legal, follows.assignments_eq, feasible⟩, le_rfl⟩
  · rename_i final finished
    obtain ⟨kept, found, cheap⟩ := final_covers follows finished
    have meets :
        meetsThreshold input
          ((solver.dpSearch input).target (solver.initialKey input)
            warmChoices) = true := by
      rw [meetsThreshold_target_iff, ← follows.assignments_eq]
      exact feasible
    obtain ⟨entry, stored, entryMeets, answers, cheapest⟩ :=
      selectAnswer_of_survivor found meets
    obtain ⟨cost, choices, answersBatch⟩ :=
      answersBatch_of_sound (final_sound finished) stored entryMeets
    rw [answers]
    refine ⟨choices, answersBatch, ?_⟩
    rw [← cost, follows.assignments_eq, ← total_eq_totalCarbonCost]
    exact cheapest.trans cheap

/-- The warm-start safety net: a feasible warm start guarantees a complete
feasible answer that costs no more, under every pruning and timeout. -/
theorem solveBatch_le_warmStart
    (solver : DpSolver) (input : SolveBatchInput) (oracle : SearchOracle)
    (someRequest : input.requests ≠ [])
    (placeable : ∀ request ∈ input.requests, solver.Placeable input request)
    (feasible : solver.WithinThreshold input
      (solver.computeSequentialSolution input).1) :
    solver.solveBatch input oracle ≠ [] ∧
      (solver.solveBatch input oracle).map RequestAssignment.requestId =
        input.requests.map SolveRequest.requestId ∧
      solver.WithinThreshold input (solver.solveBatch input oracle) ∧
      totalCarbonCost (solver.solveBatch input oracle) ≤
        totalCarbonCost (solver.computeSequentialSolution input).1 := by
  obtain ⟨choices, answers, cost⟩ :=
    exists_answersBatch_of_warmStart oracle someRequest placeable feasible
  exact ⟨answers.ne_nil someRequest, answers.map_requestId, answers.within,
    cost⟩

/-- Even with nothing kept by rank and the time already over. -/
theorem solveBatch_le_warmStart_twoRequests :
    (twoSlotSolver "kbest" 0).solveBatch twoRequestInput (.steady 2) ≠ [] ∧
      ((twoSlotSolver "kbest" 0).solveBatch twoRequestInput (.steady 2)).map
          RequestAssignment.requestId =
        twoRequestInput.requests.map SolveRequest.requestId ∧
      (twoSlotSolver "kbest" 0).WithinThreshold twoRequestInput
        ((twoSlotSolver "kbest" 0).solveBatch twoRequestInput (.steady 2)) ∧
      totalCarbonCost
          ((twoSlotSolver "kbest" 0).solveBatch twoRequestInput (.steady 2)) ≤
        totalCarbonCost
          ((twoSlotSolver "kbest" 0).computeSequentialSolution
            twoRequestInput).1 :=
  solveBatch_le_warmStart (twoSlotSolver "kbest" 0) twoRequestInput
    (.steady 2) (List.cons_ne_nil _ _) (twoRequestInput_placeable "kbest" 0)
    (by
      intro threshold given
      cases Option.some.inj given
      exact Or.inr (by decide +kernel))

private theorem final_complete
    (unpruned : solver.pruning = "none")
    (inTime : ∀ layer, oracle.elapsed layer ≤ solver.timeout)
    (placeable : ∀ request ∈ input.requests,
      solver.Placeable input request) :
    ∃ final,
      solver.searchLayers input oracle (solver.incumbent input)
          (solver.computeSequentialSolution input).2 0 input.requests
          (AList.singleton (solver.initialKey input) (0, [])) = .ok final ∧
        (solver.dpSearch input).Complete (solver.initialKey input)
          (input.requests.map (solver.stageFor input)) final := by
  have start :
      (solver.dpSearch input).Complete (solver.initialKey input)
        (([] : List SolveRequest).map (solver.stageFor input))
        (AList.singleton (solver.initialKey input) (0, [])) :=
    LayeredSearch.complete_singleton
  have reached :
      LayeredSearch.Admissible
        (([] : List SolveRequest).map (solver.stageFor input)) [] :=
    List.Forall₂.nil
  simpa using
    searchLayers_complete unpruned inTime placeable reached start

/-- The price of a choice sequence is the cost of its DP path. -/
private theorem total_eq_priceChoices
    (started : 0 ≤ input.currentSlot) {choices : List Choice}
    (legal : solver.LegalChoices input choices) :
    (solver.dpSearch input).trace (solver.initialKey input) choices =
      solver.priceChoices input [] choices := by
  refine trace_eq_priceChoices initialKey_incCounts ?_
  intro choice member
  obtain ⟨request, _, legalChoice⟩ :=
    List.Forall₂.exists_left_of_mem legal member
  exact started.trans
    ((le_max_right _ _).trans legalChoice.earliest_le)

/-- An unpruned search in time finds something where there is something to
find, and nothing that costs more. -/
theorem solveBatch_le_of_legal
    (unpruned : solver.pruning = "none")
    (inTime : ∀ layer, oracle.elapsed layer ≤ solver.timeout)
    (started : 0 ≤ input.currentSlot)
    (someRequest : input.requests ≠ [])
    (placeable : ∀ request ∈ input.requests, solver.Placeable input request)
    {choices : List Choice} (legal : solver.LegalChoices input choices)
    (within : solver.WithinThreshold input
      (solver.priceChoices input [] choices)) :
    solver.solveBatch input oracle ≠ [] ∧
      totalCarbonCost (solver.solveBatch input oracle) ≤
        totalCarbonCost (solver.priceChoices input [] choices) := by
  obtain ⟨final, finished, complete⟩ :=
    final_complete unpruned inTime placeable
  have priced := total_eq_priceChoices started legal
  obtain ⟨kept, found, cheap⟩ :=
    complete choices ((solver.legalChoices_iff_admissible input).mp legal)
  have meets :
      meetsThreshold input
        ((solver.dpSearch input).target (solver.initialKey input) choices) =
          true := by
    rw [meetsThreshold_target_iff, priced]
    exact within
  obtain ⟨entry, stored, entryMeets, answers, cheapest⟩ :=
    selectAnswer_of_survivor found meets
  obtain ⟨cost, placed, answersBatch⟩ :=
    answersBatch_of_sound (final_sound finished) stored entryMeets
  rw [solveBatch_eq_search someRequest placeable, finished]
  dsimp only
  rw [answers]
  refine ⟨answersBatch.ne_nil someRequest, ?_⟩
  rw [← cost, ← priced, ← total_eq_totalCarbonCost]
  exact cheapest.trans cheap

/-- Optimality: an unpruned search in time answers with a cheapest legal
choice sequence within the threshold, and with nothing exactly when there is
none. -/
theorem solveBatch_optimal
    (solver : DpSolver) (input : SolveBatchInput) (oracle : SearchOracle)
    (unpruned : solver.pruning = "none")
    (inTime : ∀ layer, oracle.elapsed layer ≤ solver.timeout)
    (started : 0 ≤ input.currentSlot)
    (someRequest : input.requests ≠ [])
    (placeable : ∀ request ∈ input.requests,
      solver.Placeable input request) :
    (solver.solveBatch input oracle = [] ↔
      ¬ ∃ choices,
        solver.LegalChoices input choices ∧
          solver.WithinThreshold input
            (solver.priceChoices input [] choices)) ∧
      (solver.solveBatch input oracle ≠ [] →
        ∃ choices,
          solver.LegalChoices input choices ∧
            solver.solveBatch input oracle =
              solver.priceChoices input [] choices ∧
            solver.WithinThreshold input
              (solver.priceChoices input [] choices) ∧
            ∀ others,
              solver.LegalChoices input others →
              solver.WithinThreshold input
                (solver.priceChoices input [] others) →
              totalCarbonCost (solver.priceChoices input [] choices) ≤
                totalCarbonCost (solver.priceChoices input [] others)) := by
  have bounded :
      ∀ others,
        solver.LegalChoices input others →
        solver.WithinThreshold input (solver.priceChoices input [] others) →
        solver.solveBatch input oracle ≠ [] ∧
          totalCarbonCost (solver.solveBatch input oracle) ≤
            totalCarbonCost (solver.priceChoices input [] others) :=
    fun _ legal within => solveBatch_le_of_legal unpruned inTime started
      someRequest placeable legal within
  rcases solveBatch_cases solver input oracle with
    empty | ⟨choices, answers⟩
  · refine ⟨⟨fun _ => ?_, fun _ => empty⟩, fun nonempty => absurd empty nonempty⟩
    rintro ⟨others, legal, within⟩
    exact (bounded others legal within).1 empty
  · have priced := answers.eq_priceChoices started
    have within := answers.within
    rw [priced] at within
    refine ⟨⟨fun empty => ?_, fun none => ?_⟩, fun _ => ?_⟩
    · exact absurd empty (bounded choices answers.legal within).1
    · exact absurd ⟨choices, answers.legal, within⟩ none
    · refine ⟨choices, answers.legal, priced, within, ?_⟩
      intro others legal othersWithin
      rw [← priced]
      exact (bounded others legal othersWithin).2

theorem solveBatch_optimal_twoRequests :
    ((twoSlotSolver "none" 0).solveBatch twoRequestInput (.steady 0) = [] ↔
      ¬ ∃ choices,
        (twoSlotSolver "none" 0).LegalChoices twoRequestInput choices ∧
          (twoSlotSolver "none" 0).WithinThreshold twoRequestInput
            ((twoSlotSolver "none" 0).priceChoices twoRequestInput []
              choices)) ∧
      ((twoSlotSolver "none" 0).solveBatch twoRequestInput (.steady 0) ≠ [] →
        ∃ choices,
          (twoSlotSolver "none" 0).LegalChoices twoRequestInput choices ∧
            (twoSlotSolver "none" 0).solveBatch twoRequestInput (.steady 0) =
              (twoSlotSolver "none" 0).priceChoices twoRequestInput []
                choices ∧
            (twoSlotSolver "none" 0).WithinThreshold twoRequestInput
              ((twoSlotSolver "none" 0).priceChoices twoRequestInput []
                choices) ∧
            ∀ others,
              (twoSlotSolver "none" 0).LegalChoices twoRequestInput others →
              (twoSlotSolver "none" 0).WithinThreshold twoRequestInput
                ((twoSlotSolver "none" 0).priceChoices twoRequestInput []
                  others) →
              totalCarbonCost
                  ((twoSlotSolver "none" 0).priceChoices twoRequestInput []
                    choices) ≤
                totalCarbonCost
                  ((twoSlotSolver "none" 0).priceChoices twoRequestInput []
                    others)) :=
  solveBatch_optimal (twoSlotSolver "none" 0) twoRequestInput (.steady 0)
    rfl (fun _ => zero_le_one) (by decide) (List.cons_ne_nil _ _)
    (twoRequestInput_placeable "none" 0)

/-- Two fast placements would cost six, but average four percent. -/
example :
    totalCarbonCost
        ((twoSlotSolver "none" 0).solveBatch twoRequestInput (.steady 0)) =
      9 := by
  decide +kernel

end Guarantees

end DpSolver

end Carbonshift
