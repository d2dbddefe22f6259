import Carbonshift.Engine.Solve
import Carbonshift.Nshift.OutputRows
import Carbonshift.Nshift.Swarm

/-!
# Offline greedy strategy

The strategy places the requests of a whole scenario in the order of their
arrival, each in the cheapest slot and flavour that its error rules allow.  Its
batch timings and its summary are left out.
-/

namespace Carbonshift

namespace Nshift

/-- By arrival and identifier. -/
def arrivalOrder (left right : ScenarioRequest) : Prop :=
  left.arrivalSlot < right.arrivalSlot ∨
    (left.arrivalSlot = right.arrivalSlot ∧ left.requestId ≤ right.requestId)

instance : DecidableRel arrivalOrder := fun _ _ =>
  inferInstanceAs (Decidable (_ ∨ _))

/-- The variables of the pass over all requests. -/
structure GreedyPass where
  tally : SwarmTally
  seq : ℕ
  perReq : List PerRequest

/-- Before the first request. -/
def GreedyPass.start : GreedyPass where
  tally :=
    { slotCount := ∅
      slotErrors := ∅
      globalErrorSum := 0
      globalCount := 0 }
  seq := 0
  perReq := []

section GreedyCheapest

variable (policy : AssignmentPolicy) (carbonForecast : List ℚ)

/-- The average error before the request is above the threshold. -/
def globalConstraintActive (tally : SwarmTally) : Bool :=
  let globalAvg :=
    if 0 < tally.globalCount then tally.globalErrorSum / tally.globalCount
    else 0
  policy.globalErrorConstraintEnabled && decide (0 < tally.globalCount) &&
    decide (policy.maxErrorThreshold < globalAvg)

/-- The flavours to try, shortest first.  A hard constraint never removes all
of them. -/
def allowedFlavours (tally : SwarmTally) : List Flavour :=
  if globalConstraintActive policy tally &&
      policy.globalErrorConstraintHard then
    withinThresholdOrAll policy.maxErrorThreshold
      (sortedFlavours policy.flavours)
  else
    sortedFlavours policy.flavours

/-- The window rule for a flavour; the window is anchored at the request's
arrival. -/
def windowFeasible (tally : SwarmTally) (arrival : ℤ) (flavour : Flavour) :
    Bool :=
  let window := (slotRange (arrival - policy.errorWindowPast)
    (arrival + policy.errorWindowFuture)).map fun slot =>
      tally.slotErrors.getD slot []
  let winSum := flavour.error + (window.map List.sum).sum
  let winCnt : ℕ := 1 + (window.map List.length).sum
  !decide (policy.maxErrorThreshold < winSum / winCnt)

/-- The last slot of a request. -/
def greedyDeadline (request : ScenarioRequest) : ℤ :=
  min
    (min request.deadlineSlot
      (request.arrivalSlot + policy.assignmentMaxFutureSlots))
    (policy.totalSlots - 1)

/-- The pairs of a slot and a flavour that may be chosen. -/
def feasiblePairs (tally : SwarmTally) (request : ScenarioRequest) :
    List (ℤ × Flavour) :=
  ((slotRange request.arrivalSlot (greedyDeadline policy request)).flatMap
      fun slot =>
        (allowedFlavours policy tally).map fun flavour =>
          (slot, flavour)).filter fun pair =>
    windowFeasible policy tally request.arrivalSlot pair.2

/-- The cheapest feasible pair, or the fallback in the arrival slot. -/
def cheapestPair (fallback : Flavour) (tally : SwarmTally)
    (request : ScenarioRequest) : ℤ × Flavour :=
  ((feasiblePairs policy tally request).argmin fun pair =>
    Nshift.slotCost policy carbonForecast tally pair.1 pair.2).getD
      (request.arrivalSlot, fallback)

/-- Place one request. -/
def greedyStep (slotDur : ℚ) (fallback : Flavour) (pass : GreedyPass)
    (request : ScenarioRequest) : GreedyPass :=
  let chosen :=
    cheapestPair policy carbonForecast fallback pass.tally request
  let queueWaitSlots := max (chosen.1 - request.arrivalSlot) 0
  { tally := pass.tally.place chosen.1 chosen.2
    seq := pass.seq + 1
    perReq := pass.perReq ++
      [{ requestId := request.requestId
         arrivalTime := request.arrivalSlot * slotDur
         arrivalSlot := request.arrivalSlot
         deadlineSlot := request.deadlineSlot
         includedInBatchSlot := request.arrivalSlot
         batchSequence := pass.seq + 1
         scheduledSlot := chosen.1
         queueWaitSlots := queueWaitSlots
         queueWaitSeconds := queueWaitSlots * slotDur
         finalWaitSlots := queueWaitSlots
         finalWaitSeconds := queueWaitSlots * slotDur
         flavourName := chosen.2.name
         error := chosen.2.error
         carbonCost :=
           Nshift.slotCost policy carbonForecast pass.tally chosen.1 chosen.2
         assignmentSolverMode := "greedy_cheapest"
         assignmentSolverStatus := "ok"
         assignedWithGreedyFallback := false
         assignedWithRelaxedRetry := false
         assignedWithRollback := false
         latenessSlots := max (chosen.1 - request.deadlineSlot) 0 }] }

/-- Run the strategy over all requests; `none` is a panic for want of a
flavour. -/
def runGreedyCheapest (slotDur : ℚ) (requests : List ScenarioRequest) :
    Option (List PerRequest) :=
  (policy.flavours.argmin Flavour.error).map fun fallback =>
    ((requests.insertionSort arrivalOrder).foldl
      (greedyStep policy carbonForecast slotDur fallback) .start).perReq

end GreedyCheapest

end Nshift

end Carbonshift
