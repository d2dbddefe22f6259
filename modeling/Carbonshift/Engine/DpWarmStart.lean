import Carbonshift.Engine.DpSearch
import Carbonshift.Library.ListFacts

/-!
# The sequential warm start

Whatever the warm start places, it places legally: its assignments and keys
are those of a legal choice sequence.  It fails only on a request without a
flavour or without a legal slot.
-/

namespace Carbonshift

namespace DpSolver

variable {solver : DpSolver} {input : SolveBatchInput}
variable {key : DpStateKey} {request : SolveRequest}

/-! ## Scanning the candidates of one request -/

section Scan

/-- What the scan has kept so far are legal candidates at their own prices. -/
structure Scanned
    (solver : DpSolver) (input : SolveBatchInput)
    (key : DpStateKey) (request : SolveRequest) (minError : Flavour)
    (scan : SequentialScan) : Prop where
  best : ∀ kept, scan.best = some kept →
    solver.LegalChoice input request ⟨request, kept.2.1, kept.2.2⟩ ∧
      kept.1 =
        (solver.dpSearch input).price key ⟨request, kept.2.1, kept.2.2⟩
  fallback : ∀ kept, scan.fallback = some kept →
    solver.LegalChoice input request ⟨request, minError, kept.2⟩ ∧
      kept.1 = (solver.dpSearch input).price key ⟨request, minError, kept.2⟩

variable {minError flavour : Flavour} {scan : SequentialScan} {slot : ℤ}

theorem Scanned.scanCandidate
    (scanned : Scanned solver input key request minError scan)
    (legal : solver.LegalChoice input request ⟨request, flavour, slot⟩)
    {isMinError : Bool}
    (recognised : isMinError = true → flavour = minError) :
    Scanned solver input key request minError
      (solver.scanCandidate input key isMinError flavour scan slot) := by
  constructor
  · intro kept found
    simp only [DpSolver.scanCandidate] at found
    split at found
    · cases Option.some.inj found
      exact ⟨legal, rfl⟩
    · exact scanned.best kept found
  · intro kept found
    simp only [DpSolver.scanCandidate] at found
    split at found
    · rename_i taken
      have same := recognised (Bool.and_eq_true_iff.mp taken).1
      subst same
      cases Option.some.inj found
      exact ⟨legal, rfl⟩
    · exact scanned.fallback kept found

/-- Once a fallback slot is known, one stays known. -/
theorem scanCandidate_fallback_isSome
    (known : scan.fallback.isSome) (isMinError : Bool)
    (flavour : Flavour) (slot : ℤ) :
    (solver.scanCandidate input key isMinError flavour scan
      slot).fallback.isSome := by
  simp only [DpSolver.scanCandidate]
  split
  · rfl
  · exact known

/-- The most accurate flavour leaves a fallback slot behind. -/
theorem scanCandidate_minError_isSome
    (scan : SequentialScan) (flavour : Flavour) (slot : ℤ) :
    (solver.scanCandidate input key true flavour scan
      slot).fallback.isSome := by
  simp only [DpSolver.scanCandidate, Bool.true_and]
  cases kept : scan.fallback with
  | none => rfl
  | some earlier => split <;> rfl

end Scan

/-! ## Placing one request -/

section Step

variable {minError : Flavour × ℕ}

theorem scanned_scanRequest
    (member : minError ∈
      (solver.flavoursFor request.requestId input.requestFlavours).zipIdx) :
    Scanned solver input key request minError.1
      (solver.scanRequest input key request minError.2) := by
  have atIndex := List.mem_zipIdx_iff_getElem?.mp member
  unfold scanRequest
  refine List.foldlRecOn _ _ ⟨nofun, nofun⟩ fun scan scanned candidate
    candidateMember => ?_
  refine List.foldlRecOn _ _ scanned fun scan scanned slot slotMember => ?_
  have bounds := mem_slotRange.mp slotMember
  refine scanned.scanCandidate
    ⟨rfl, List.fst_mem_of_mem_zipIdx candidateMember, bounds.1, bounds.2⟩ ?_
  intro sameIndex
  have candidateAt := List.mem_zipIdx_iff_getElem?.mp candidateMember
  rw [beq_iff_eq.mp sameIndex, atIndex] at candidateAt
  exact (Option.some.inj candidateAt).symm

/-- A request with a flavour and a legal slot leaves the scan with a fallback
slot. -/
theorem scanRequest_fallback_isSome
    (member : minError ∈
      (solver.flavoursFor request.requestId input.requestFlavours).zipIdx)
    (range : earliestFor input request ≤ solver.deadlineFor input request) :
    (solver.scanRequest input key request minError.2).fallback.isSome := by
  obtain ⟨before, after, split⟩ := List.append_of_mem member
  obtain ⟨earlier, later, slots⟩ :=
    List.append_of_mem (mem_slotRange.mpr ⟨le_rfl, range⟩)
  have keepsSlots :
      ∀ (scan : SequentialScan) (isMinError : Bool) (flavour : Flavour)
        (remaining : List ℤ), scan.fallback.isSome →
        (remaining.foldl
          (solver.scanCandidate input key isMinError flavour)
          scan).fallback.isSome := by
    intro scan isMinError flavour remaining known
    induction remaining generalizing scan with
    | nil => exact known
    | cons slot rest inductionHypothesis =>
        exact inductionHypothesis _
          (scanCandidate_fallback_isSome known isMinError flavour slot)
  unfold scanRequest
  rw [split, List.foldl_append, List.foldl_cons]
  refine List.foldlRecOn after _ ?_ fun scan known candidate _ =>
    keepsSlots scan _ _ _ known
  rw [slots, List.foldl_append, List.foldl_cons, beq_self_eq_true]
  exact keepsSlots _ _ _ _ (scanCandidate_minError_isSome _ _ _)

/-- A placed request is placed by a legal choice, recorded and accounted for
as the DP layers do. -/
theorem sequentialStep_eq_some
    {assignment : RequestAssignment} {nextKey : DpStateKey}
    (placed : solver.sequentialStep input key request =
      some (assignment, nextKey)) :
    ∃ choice,
      solver.LegalChoice input request choice ∧
        assignment = (solver.dpSearch input).record key choice ∧
        nextKey = (solver.dpSearch input).next key choice := by
  simp only [sequentialStep, Option.bind_eq_bind, Option.bind_eq_some_iff,
    Option.pure_def, Option.some.injEq, Prod.mk.injEq] at placed
  obtain ⟨minError, smallest, chosen, picked, rfl, rfl⟩ := placed
  have scanned :
      Scanned solver input key request minError.1
        (solver.scanRequest input key request minError.2) :=
    scanned_scanRequest (List.argmin_mem smallest)
  refine ⟨⟨request, chosen.2.1, chosen.2.2⟩, ?_⟩
  rcases Option.or_eq_some_iff.mp picked with best | ⟨_, fallback⟩
  · obtain ⟨legal, priced⟩ := scanned.best chosen best
    refine ⟨legal, ?_, rfl⟩
    rw [priced]
    rfl
  · obtain ⟨kept, found, rfl⟩ := Option.map_eq_some_iff.mp fallback
    obtain ⟨legal, priced⟩ := scanned.fallback kept found
    refine ⟨legal, ?_, rfl⟩
    rw [priced]
    rfl

theorem sequentialStep_isSome
    (placeable : solver.Placeable input request) (key : DpStateKey) :
    ∃ placed, solver.sequentialStep input key request = some placed := by
  set candidates :=
    (solver.flavoursFor request.requestId input.requestFlavours).zipIdx
    with candidates_def
  have nonempty : candidates ≠ [] := by
    simp [candidates_def, placeable.flavours_ne_nil]
  obtain ⟨minError, smallest⟩ :=
    List.exists_argmin (fun candidate => candidate.1.error) nonempty
  have fallback :
      (solver.scanRequest input key request minError.2).fallback.isSome :=
    scanRequest_fallback_isSome (List.argmin_mem smallest)
      placeable.earliest_le_deadline
  obtain ⟨kept, found⟩ := Option.isSome_iff_exists.mp fallback
  refine Option.isSome_iff_exists.mp ?_
  cases best : (solver.scanRequest input key request minError.2).best <;>
    simp [sequentialStep, ← candidates_def, smallest, best, found]

end Step

/-! ## Placing the whole batch -/

section Batch

theorem sequentialFrom_eq_some
    {requests : List SolveRequest} {answer : List RequestAssignment}
    (placed : (solver.sequentialFrom input key requests).1 = some answer) :
    ∃ choices,
      List.Forall₂ (solver.LegalChoice input) requests choices ∧
        answer = (solver.dpSearch input).trace key choices ∧
        (solver.sequentialFrom input key requests).2 =
          (solver.dpSearch input).visited key choices := by
  induction requests generalizing key answer with
  | nil =>
      cases Option.some.inj placed
      exact ⟨[], .nil, rfl, rfl⟩
  | cons request rest inductionHypothesis =>
      cases step : solver.sequentialStep input key request with
      | none => simp [sequentialFrom, step] at placed
      | some result =>
          obtain ⟨assignment, nextKey⟩ := result
          simp only [sequentialFrom, step, Option.map_eq_some_iff] at placed ⊢
          obtain ⟨later, laterPlaced, rfl⟩ := placed
          obtain ⟨choice, legal, rfl, rfl⟩ := sequentialStep_eq_some step
          obtain ⟨choices, legalRest, rfl, keys⟩ :=
            inductionHypothesis laterPlaced
          refine ⟨choice :: choices, .cons legal legalRest, rfl, ?_⟩
          rw [keys]
          rfl

theorem sequentialFrom_isSome
    {requests : List SolveRequest}
    (placeable : ∀ request ∈ requests, solver.Placeable input request)
    (key : DpStateKey) :
    ∃ answer, (solver.sequentialFrom input key requests).1 = some answer := by
  induction requests generalizing key with
  | nil => exact ⟨[], rfl⟩
  | cons request rest inductionHypothesis =>
      obtain ⟨placed, step⟩ :=
        sequentialStep_isSome (placeable request List.mem_cons_self) key
      obtain ⟨later, laterPlaced⟩ :=
        inductionHypothesis
          (fun other member =>
            placeable other (List.mem_cons_of_mem request member))
          placed.2
      exact ⟨placed.1 :: later, by
        simp [sequentialFrom, step, laterPlaced]⟩

variable (solver input) in
/-- The warm start follows the given legal choice sequence. -/
structure WarmStartFollows (choices : List Choice) : Prop where
  legal : solver.LegalChoices input choices
  assignments_eq :
    (solver.computeSequentialSolution input).1 =
      (solver.dpSearch input).trace (solver.initialKey input) choices
  keys_eq :
    (solver.computeSequentialSolution input).2 =
      solver.initialKey input ::
        (solver.dpSearch input).visited (solver.initialKey input) choices

/-- The warm start is empty or follows a legal choice sequence. -/
theorem computeSequentialSolution_spec :
    (solver.computeSequentialSolution input).1 = [] ∨
      ∃ choices, WarmStartFollows solver input choices := by
  cases placed : (solver.sequentialFrom input (solver.initialKey input)
      input.requests).1 with
  | none => exact Or.inl (by simp [computeSequentialSolution, placed])
  | some answer =>
      obtain ⟨choices, legal, traced, keys⟩ := sequentialFrom_eq_some placed
      refine Or.inr ⟨choices, legal, ?_, ?_⟩
      · simp [computeSequentialSolution, placed, traced]
      · simp [computeSequentialSolution, keys]

/-- On placeable requests the warm start is complete. -/
theorem exists_warmStartFollows
    (placeable : ∀ request ∈ input.requests, solver.Placeable input request) :
    ∃ choices, WarmStartFollows solver input choices := by
  obtain ⟨answer, placed⟩ :=
    sequentialFrom_isSome placeable (solver.initialKey input)
  obtain ⟨choices, legal, traced, keys⟩ := sequentialFrom_eq_some placed
  refine ⟨choices, legal, ?_, ?_⟩
  · simp [computeSequentialSolution, placed, traced]
  · simp [computeSequentialSolution, keys]

variable {choices : List Choice}

/-- The feasibility verdict on the warm start is the threshold condition on
its assignments. -/
theorem WarmStartFollows.feasible_iff
    (follows : WarmStartFollows solver input choices) :
    solver.warmIsFeasible input = true ↔
      solver.WithinThreshold input
        (solver.computeSequentialSolution input).1 := by
  rw [warmIsFeasible, follows.keys_eq, LayeredSearch.getLast?_visited, Option.all_some,
    follows.assignments_eq, meetsThreshold_target_iff]

theorem WarmStartFollows.keyAfter
    (follows : WarmStartFollows solver input choices)
    {index : ℕ} (inside : index ≤ choices.length) :
    (solver.computeSequentialSolution input).2[index]? =
      some ((solver.dpSearch input).target (solver.initialKey input)
        (choices.take index)) := by
  rw [follows.keys_eq, LayeredSearch.getElem?_visited _ _ _ inside]

end Batch

end DpSolver

end Carbonshift
