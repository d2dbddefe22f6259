import Carbonshift.Engine.DpGuarantees
import Mathlib.Order.Bounds.Basic

/-!
# Batches of one request

With one request the warm start is no heuristic: it weighs every candidate
against the threshold and keeps a cheapest one.  Whichever way a solve ends,
its answer is a cheapest acceptable candidate.
-/

namespace Carbonshift

namespace DpSolver

variable {solver : DpSolver} {input : SolveBatchInput}
variable {key : DpStateKey} {request : SolveRequest}

/-! ## The cheapest feasible candidate -/

section Scan

variable {scan : SequentialScan} {bound : ℚ} {flavour : Flavour} {slot : ℤ}

/-- A feasible candidate within the bound is kept. -/
def BestAtMost (bound : ℚ) (scan : SequentialScan) : Prop :=
  ∃ kept, scan.best = some kept ∧ kept.1 ≤ bound

theorem BestAtMost.scanCandidate (known : BestAtMost bound scan)
    (isMinError : Bool) (flavour : Flavour) (slot : ℤ) :
    BestAtMost bound
      (solver.scanCandidate input key isMinError flavour scan slot) := by
  obtain ⟨kept, best, within⟩ := known
  unfold BestAtMost
  simp only [DpSolver.scanCandidate, best, Option.all_some]
  split
  · rename_i taken
    have cheaper := of_decide_eq_true (Bool.and_eq_true_iff.mp taken).2
    exact ⟨_, rfl, cheaper.le.trans within⟩
  · exact ⟨kept, rfl, within⟩

theorem bestAtMost_scanCandidate
    (feasible : solver.candidateFeasible input key flavour slot = true)
    (scan : SequentialScan) (isMinError : Bool) :
    BestAtMost
      (solver.incrementalCarbonCost slot flavour.duration
        (solver.baseCounts input) key.incCounts (resolvedTiers input))
      (solver.scanCandidate input key isMinError flavour scan slot) := by
  unfold BestAtMost
  simp only [DpSolver.scanCandidate, feasible, Bool.true_and]
  split
  · exact ⟨_, rfl, le_rfl⟩
  · rename_i kept
    cases best : scan.best with
    | none => simp [best] at kept
    | some earlier =>
        refine ⟨earlier, rfl, ?_⟩
        simpa [best] using kept

/-- The scan keeps nothing dearer than a feasible candidate of the request. -/
theorem bestAtMost_scanRequest (minErrorIndex : ℕ)
    (offered : flavour ∈
      solver.flavoursFor request.requestId input.requestFlavours)
    (first : earliestFor input request ≤ slot)
    (last : slot ≤ solver.deadlineFor input request)
    (feasible : solver.candidateFeasible input key flavour slot = true) :
    BestAtMost
      (solver.incrementalCarbonCost slot flavour.duration
        (solver.baseCounts input) key.incCounts (resolvedTiers input))
      (solver.scanRequest input key request minErrorIndex) := by
  obtain ⟨index, position⟩ := List.getElem?_of_mem offered
  have listed : (flavour, index) ∈
      (solver.flavoursFor request.requestId input.requestFlavours).zipIdx :=
    List.mem_zipIdx_iff_getElem?.mpr position
  obtain ⟨before, after, split⟩ := List.append_of_mem listed
  obtain ⟨earlier, later, slots⟩ :=
    List.append_of_mem (mem_slotRange.mpr ⟨first, last⟩)
  have keepsSlots :
      ∀ (scan : SequentialScan) (isMinError : Bool) (other : Flavour)
        (remaining : List ℤ) (bound : ℚ), BestAtMost bound scan →
        BestAtMost bound (remaining.foldl
          (solver.scanCandidate input key isMinError other) scan) := by
    intro scan isMinError other remaining bound known
    induction remaining generalizing scan with
    | nil => exact known
    | cons slot rest inductionHypothesis =>
        exact inductionHypothesis _ (known.scanCandidate isMinError other slot)
  unfold scanRequest
  rw [split, List.foldl_append, List.foldl_cons]
  refine List.foldlRecOn (motive := BestAtMost _) after _ ?_
    fun scan known candidate _ => keepsSlots scan _ _ _ _ known
  rw [slots, List.foldl_append, List.foldl_cons]
  exact keepsSlots _ _ _ _ _ (bestAtMost_scanCandidate feasible _ _)

/-- What the scan keeps is feasible. -/
theorem scanRequest_best_feasible {minErrorIndex : ℕ} {kept : ℚ × Flavour × ℤ}
    (found : (solver.scanRequest input key request minErrorIndex).best =
      some kept) :
    solver.candidateFeasible input key kept.2.1 kept.2.2 = true := by
  have every : ∀ kept,
      (solver.scanRequest input key request minErrorIndex).best = some kept →
        solver.candidateFeasible input key kept.2.1 kept.2.2 = true := by
    unfold scanRequest
    refine List.foldlRecOn (motive := fun (scan : SequentialScan) =>
      ∀ kept, scan.best = some kept →
        solver.candidateFeasible input key kept.2.1 kept.2.2 = true)
      _ _ nofun fun scan feasible candidate _ => ?_
    refine List.foldlRecOn (motive := fun (scan : SequentialScan) =>
      ∀ kept, scan.best = some kept →
        solver.candidateFeasible input key kept.2.1 kept.2.2 = true)
      _ _ feasible fun scan feasible slot _ kept found => ?_
    simp only [scanCandidate] at found
    split at found
    · rename_i taken
      cases Option.some.inj found
      exact (Bool.and_eq_true_iff.mp taken).1
    · exact feasible kept found
  exact every kept found

/-- With a feasible candidate, the warm start places a feasible one that is no
dearer. -/
theorem sequentialStep_cheapest {other : Choice}
    (legal : solver.LegalChoice input request other)
    (feasible :
      solver.candidateFeasible input key other.flavour other.slot = true)
    {decision : RequestAssignment} {nextKey : DpStateKey}
    (placed : solver.sequentialStep input key request =
      some (decision, nextKey)) :
    ∃ choice,
      solver.LegalChoice input request choice ∧
        solver.candidateFeasible input key choice.flavour choice.slot = true ∧
        decision = (solver.dpSearch input).record key choice ∧
        decision.carbonCost ≤ (solver.dpSearch input).price key other := by
  simp only [sequentialStep, Option.bind_eq_bind, Option.bind_eq_some_iff,
    Option.pure_def, Option.some.injEq, Prod.mk.injEq] at placed
  obtain ⟨minError, smallest, chosen, picked, rfl, rfl⟩ := placed
  obtain ⟨kept, best, within⟩ := bestAtMost_scanRequest minError.2
    legal.flavour_mem legal.earliest_le legal.le_deadline feasible
  rw [best, Option.some_or, Option.some.injEq] at picked
  subst picked
  have scanned :
      Scanned solver input key request minError.1
        (solver.scanRequest input key request minError.2) :=
    scanned_scanRequest (List.argmin_mem smallest)
  obtain ⟨legalKept, priced⟩ := scanned.best kept best
  refine ⟨⟨request, kept.2.1, kept.2.2⟩, legalKept,
    scanRequest_best_feasible best, ?_, within⟩
  rw [priced]
  rfl

end Scan

/-! ## Feasible candidates and acceptable states -/

section Accepts

variable {flavour : Flavour} {slot : ℤ}

/-- The count of the state a placement leads to is the projected one. -/
theorem advanceKey_errorCount (key : DpStateKey) (flavour : Flavour)
    (slot : ℤ) :
    (solver.advanceKey input key flavour slot).errorCount =
      (solver.accountPlacement input key flavour slot).2.1 := by
  unfold advanceKey accountPlacement
  dsimp only
  split
  · split
    · simp only [DpStateKey.new, DpStateKey.errorCount] at *
      have clamped := roundHalfAway_errorCount_clamped key
      simp only [DpStateKey.errorCount] at clamped
      rw [clamped, add_sub_cancel_right, Int.cast_max, Int.cast_zero,
        ← max_div_div_right (by norm_num), zero_div]
    · have grown := roundHalfAway_errorCount_succ key
      simp only [DpStateKey.new, DpStateKey.errorCount] at *
      rw [grown]
      push_cast
      ring
  · simp only [DpStateKey.new, DpStateKey.errorCount]
    have same := roundHalfAway_errorCount key
    simp only [DpStateKey.errorCount] at same
    rw [same]

theorem accountPlacement_count_nonneg (nonneg : 0 ≤ key.errorCount) :
    0 ≤ (solver.accountPlacement input key flavour slot).2.1 := by
  unfold accountPlacement
  dsimp only
  split
  · split
    · exact le_max_right _ _
    · exact add_nonneg nonneg zero_le_one
  · exact nonneg

/-- In the window, a feasible candidate is one that leads to an acceptable
state. -/
theorem candidateFeasible_iff (nonneg : 0 ≤ key.errorCount)
    (inside : solver.inWindow input slot = true) :
    solver.candidateFeasible input key flavour slot = true ↔
      meetsThreshold input (solver.advanceKey input key flavour slot) =
        true := by
  have count :
      (solver.advanceKey input key flavour slot).errorCount =
        (solver.accountPlacement input key flavour slot).2.1 :=
    advanceKey_errorCount key flavour slot
  have projected_nonneg : 0 ≤
      (solver.accountPlacement input key flavour slot).2.1 :=
    accountPlacement_count_nonneg nonneg
  unfold candidateFeasible meetsThreshold
  cases input.maxErrorThreshold with
  | none => simp
  | some threshold =>
      have sum : (solver.advanceKey input key flavour slot).errorSumBp =
          (solver.accountPlacement input key flavour slot).1 := rfl
      simp only [inside, if_true, count, sum, Bool.not_eq_true',
        Bool.and_eq_false_iff, decide_eq_false_iff_not, not_lt,
        decide_eq_true_eq]
      constructor
      · rintro (none | average)
        · exact Or.inl (le_antisymm none projected_nonneg)
        · exact Or.inr average
      · rintro (none | average)
        · exact Or.inl none.le
        · exact Or.inr average

end Accepts

/-! ## The answer -/

section Answer

variable {oracle : SearchOracle}

/-- The state after a choice for the only request. -/
def Acceptable (solver : DpSolver) (input : SolveBatchInput)
    (choice : Choice) : Prop :=
  meetsThreshold input
    (solver.advanceKey input (solver.initialKey input) choice.flavour
      choice.slot) = true

private theorem forall₂_singleton {α β : Type*} {relation : α → β → Prop}
    {item : α} {others : List β}
    (related : List.Forall₂ relation [item] others) :
    ∃ other, others = [other] ∧ relation item other := by
  cases related with
  | cons first rest =>
      cases rest with
      | nil => exact ⟨_, rfl, first⟩

theorem within_singleton_iff (choice : Choice) :
    solver.WithinThreshold input
        ((solver.dpSearch input).trace (solver.initialKey input) [choice]) ↔
      solver.Acceptable input choice :=
  (meetsThreshold_target_iff [choice]).symm

/-- An answer for one request costs what the cheapest acceptable choice costs,
under every pruning and timeout. -/
theorem solveBatch_single (single : input.requests = [request])
    (nonneg : 0 ≤ (solver.initialKey input).errorCount)
    (insideWindow : ∀ slot, earliestFor input request ≤ slot →
      slot ≤ solver.deadlineFor input request →
        solver.inWindow input slot = true)
    (answered : solver.solveBatch input oracle ≠ []) :
    ∃ decision,
      solver.solveBatch input oracle = [decision] ∧
        IsLeast ((solver.dpSearch input).price (solver.initialKey input) ''
            {choice | solver.LegalChoice input request choice ∧
              solver.Acceptable input choice})
          decision.carbonCost := by
  rcases solveBatch_cases solver input oracle with
    empty | ⟨choices, answers⟩
  · exact absurd empty answered
  have legal := answers.legal
  unfold LegalChoices at legal
  rw [single] at legal
  obtain ⟨choice, rfl, legalChoice⟩ := forall₂_singleton legal
  have answer_eq := answers.answer_eq
  have within := answers.within
  rw [answer_eq, within_singleton_iff] at within
  refine ⟨_, answer_eq, ⟨choice, ⟨legalChoice, within⟩, rfl⟩, ?_⟩
  rintro _ ⟨other, ⟨legalOther, acceptable⟩, rfl⟩
  -- The warm start finds a feasible candidate, and the answer undercuts it.
  have placeable : ∀ served ∈ input.requests,
      solver.Placeable input served := by
    rw [single]
    exact List.forall_mem_singleton.mpr
      ⟨List.ne_nil_of_mem legalOther.flavour_mem,
        legalOther.earliest_le.trans legalOther.le_deadline⟩
  have feasible := (candidateFeasible_iff nonneg
    (insideWindow other.slot legalOther.earliest_le
      legalOther.le_deadline)).mpr acceptable
  obtain ⟨⟨decision, nextKey⟩, stepped⟩ :=
    sequentialStep_isSome (placeable request (by rw [single]; simp))
      (solver.initialKey input)
  obtain ⟨warm, legalWarm, feasibleWarm, decision_eq, cheap⟩ :=
    sequentialStep_cheapest legalOther feasible stepped
  have started : (solver.computeSequentialSolution input).1 = [decision] := by
    simp [computeSequentialSolution, single, sequentialFrom, stepped]
  have warmWithin : solver.WithinThreshold input
      (solver.computeSequentialSolution input).1 := by
    rw [started, decision_eq]
    exact (within_singleton_iff warm).mpr ((candidateFeasible_iff nonneg
      (insideWindow warm.slot legalWarm.earliest_le
        legalWarm.le_deadline)).mp feasibleWarm)
  obtain ⟨_, _, _, bounded⟩ := solveBatch_le_warmStart solver input oracle
    (by rw [single]; simp) placeable warmWithin
  rw [answer_eq, started] at bounded
  have total : (solver.dpSearch input).price (solver.initialKey input) choice ≤
      decision.carbonCost := by
    simpa [totalCarbonCost, LayeredSearch.trace] using bounded
  exact total.trans cheap

end Answer

end DpSolver

end Carbonshift
