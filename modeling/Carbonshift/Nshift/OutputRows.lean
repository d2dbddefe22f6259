import Carbonshift.Engine.Config
import Carbonshift.Engine.Requests
import Mathlib.Data.List.MinMax
import Mathlib.Data.List.Sort

/-!
# Output rows of a simulation

After a run, the rows of the committed requests are read back from the log of
the solver, the requests that are still in the queue are scheduled late, and
the committed rows are priced again from the final assignments.
-/

namespace Carbonshift

namespace Nshift

/-! ## The log -/

/-- A solver run; the columns that only the batch timings read are left out. -/
structure SolverRunRow where
  runId : String
  runSequence : ℕ
  solverStatus : String
  solverMode : String

structure AssignmentRow where
  runId : String
  requestId : ℕ
  currentSlot : ℤ
  isNewAssignmentInRun : Bool
  scheduledSlot : ℤ
  flavourName : String
  error : ℚ
  carbonCost : ℚ
  arrivalSlot : ℤ
  deadlineSlot : ℤ

/-- An output row. -/
structure PerRequest where
  requestId : ℕ
  arrivalTime : ℚ
  arrivalSlot : ℤ
  deadlineSlot : ℤ
  includedInBatchSlot : ℤ
  batchSequence : ℕ
  scheduledSlot : ℤ
  queueWaitSlots : ℤ
  queueWaitSeconds : ℚ
  finalWaitSlots : ℤ
  finalWaitSeconds : ℚ
  flavourName : String
  error : ℚ
  carbonCost : ℚ
  assignmentSolverMode : String
  assignmentSolverStatus : String
  assignedWithGreedyFallback : Bool
  assignedWithRelaxedRetry : Bool
  assignedWithRollback : Bool
  /-- Slots past the deadline at scheduling time. -/
  latenessSlots : ℤ

/-- An output row and the position of its slot that its price is for, if it
has been priced here.  The source keeps the price only. -/
structure PricedRequest extends PerRequest where
  position : Option ℤ

/-- What is left of a run when its output is made. -/
structure RunRecord where
  assignmentRows : List AssignmentRow
  runs : List SolverRunRow
  rolledBackIds : List ℕ
  /-- Requests that never made it into a batch. -/
  remaining : List Request
  finalAssignments : Dictionary ℕ Assignment

/-- The part occurs somewhere in the text. -/
def containsText (text part : String) : Bool :=
  text.toList.tails.any fun rest => part.toList.isPrefixOf rest

/-- Later runs replace earlier ones of the same identifier. -/
def runsById (runs : List SolverRunRow) : Dictionary String SolverRunRow :=
  runs.foldl (fun table run => table.insert run.runId run) ∅

section CommittedRows

variable (runs : Dictionary String SolverRunRow) (slotDur : ℚ)
variable (rolledBackIds : List ℕ)

def AssignmentRow.perRequest (row : AssignmentRow) : PerRequest :=
  let run := runs.lookup row.runId
  let solverMode := (run.map SolverRunRow.solverMode).getD ""
  let queueWaitSlots := max (row.currentSlot - row.arrivalSlot) 0
  let finalWaitSlots := max (row.scheduledSlot - row.arrivalSlot) 0
  { requestId := row.requestId
    arrivalTime := row.arrivalSlot * slotDur
    arrivalSlot := row.arrivalSlot
    deadlineSlot := row.deadlineSlot
    includedInBatchSlot := row.currentSlot
    batchSequence := (run.map SolverRunRow.runSequence).getD 0
    scheduledSlot := row.scheduledSlot
    queueWaitSlots := queueWaitSlots
    queueWaitSeconds := queueWaitSlots * slotDur
    finalWaitSlots := finalWaitSlots
    finalWaitSeconds := finalWaitSlots * slotDur
    flavourName := row.flavourName
    error := row.error
    carbonCost := row.carbonCost
    assignmentSolverMode := solverMode
    assignmentSolverStatus := (run.map SolverRunRow.solverStatus).getD ""
    assignedWithGreedyFallback :=
      containsText solverMode "greedy_after_infeasible"
    assignedWithRelaxedRetry := containsText solverMode "relaxed"
    assignedWithRollback := rolledBackIds.contains row.requestId
    latenessSlots := max (row.scheduledSlot - row.deadlineSlot) 0 }

/-- The first new row of a request counts. -/
def seenRows (rows : List AssignmentRow) : Dictionary ℕ PerRequest :=
  (rows.filter AssignmentRow.isNewAssignmentInRun).foldl
    (fun seen row =>
      if row.requestId ∈ seen then
        seen
      else
        seen.insert row.requestId (row.perRequest runs slotDur rolledBackIds))
    ∅

/-- The committed rows, in the order of the identifiers. -/
def computePerRequest (rows : List AssignmentRow) : List PerRequest :=
  (seenRows runs slotDur rolledBackIds rows).values.insertionSort
    fun left right => left.requestId ≤ right.requestId

end CommittedRows

/-! ## Late requests -/

section Late

variable (policy : AssignmentPolicy) (carbonForecast : List ℚ) (slotDur : ℚ)

/-- By deadline, arrival and identifier. -/
def lateOrder (left right : Request) : Prop :=
  left.deadlineSlot < right.deadlineSlot ∨
    (left.deadlineSlot = right.deadlineSlot ∧
      (left.arrivalSlot < right.arrivalSlot ∨
        (left.arrivalSlot = right.arrivalSlot ∧ left.id ≤ right.id)))

instance : DecidableRel lateOrder := fun _ _ =>
  inferInstanceAs (Decidable (_ ∨ _))

/-- The slot that a late request should have taken. -/
def lateSlot (totalSlots : ℤ) (request : Request) : ℤ :=
  min (max request.deadlineSlot request.arrivalSlot) (totalSlots - 1)

def lateRow (fallback : Flavour) (request : Request) (position : ℤ) :
    PricedRequest :=
  let schedSlot := lateSlot policy.totalSlots request
  let carbon := (slotEntry carbonForecast schedSlot).getD 1
  let mult := getCapacityMultiplier policy.capacityTiers position
  let queueWait := max (schedSlot - request.arrivalSlot) 0
  { requestId := request.id
    arrivalTime := request.arrivalSlot * slotDur
    arrivalSlot := request.arrivalSlot
    deadlineSlot := request.deadlineSlot
    includedInBatchSlot := schedSlot
    batchSequence := 0
    scheduledSlot := schedSlot
    queueWaitSlots := queueWait
    queueWaitSeconds := queueWait * slotDur
    finalWaitSlots := queueWait
    finalWaitSeconds := queueWait * slotDur
    flavourName := fallback.name
    error := fallback.error
    carbonCost :=
      carbon * mult * fallback.duration * policy.carbonCostDurationScale
    assignmentSolverMode := "late_fallback"
    assignmentSolverStatus := "late"
    assignedWithGreedyFallback := false
    assignedWithRelaxedRetry := false
    assignedWithRollback := false
    latenessSlots := max (policy.totalSlots - 1 - request.deadlineSlot) 0
    position := some position }

/-- Late requests one after another, with the late requests of each slot so
far. -/
def lateRows (fallback : Flavour) (slotCount : Dictionary ℤ ℤ) :
    List Request → List PricedRequest
  | [] => []
  | request :: rest =>
      let schedSlot := lateSlot policy.totalSlots request
      lateRow policy carbonForecast slotDur fallback request
          (slotCount.getD schedSlot 0 + 1) ::
        lateRows fallback (slotCount.upsert schedSlot 0 (· + 1)) rest

/-- Schedule the drained requests; `none` is a panic for want of a flavour. -/
def scheduleLateRequests (remaining : List Request) :
    Option (List PricedRequest) :=
  if remaining = [] then
    some []
  else
    (policy.flavours.argmin Flavour.error).map fun fallback =>
      lateRows policy carbonForecast slotDur fallback ∅
        (remaining.insertionSort lateOrder)

end Late

/-! ## Costs of the committed requests -/

section Recompute

variable (policy : AssignmentPolicy) (carbonForecast : List ℚ)

/-- Identifier and duration of the requests of every slot. -/
def slotRequests (finalAssignments : Dictionary ℕ Assignment) :
    Dictionary ℤ (List (ℕ × ℚ)) :=
  finalAssignments.values.foldl
    (fun groups assignment =>
      groups.upsert assignment.scheduledSlot [] fun requests =>
        requests ++ [(assignment.requestId, assignment.flavourDuration)])
    ∅

/-- A price and the position it is for. -/
structure PositionPrice where
  position : ℤ
  cost : ℚ

/-- The prices of a slot, by the rank of the identifiers. -/
def slotPrices (slot : ℤ) (requests : List (ℕ × ℚ)) :
    List (ℕ × PositionPrice) :=
  let carbon := (slotEntry carbonForecast slot).getD 0
  let sorted := requests.insertionSort fun left right => left.1 ≤ right.1
  sorted.zipIdx.map fun entry =>
    let position : ℤ := entry.2 + 1
    let mult := getCapacityMultiplier policy.capacityTiers position
    (entry.1.1,
      { position := position
        cost :=
          carbon * mult * entry.1.2 * policy.carbonCostDurationScale })

/-- The price of every committed request. -/
def reqCost (finalAssignments : Dictionary ℕ Assignment) :
    Dictionary ℕ PositionPrice :=
  ((slotRequests finalAssignments).toPairs.flatMap fun group =>
      slotPrices policy carbonForecast group.1 group.2).foldl
    (fun costs entry => costs.insert entry.1 entry.2) ∅

/-- The new price of a row, if there is one. -/
def PricedRequest.reprice (costs : Dictionary ℕ PositionPrice)
    (row : PricedRequest) : PricedRequest :=
  match costs.lookup row.requestId with
  | none => row
  | some price =>
      { row with
        carbonCost := price.cost
        position := some price.position }

/-- Price the rows of the committed requests again. -/
def recomputeCarbonCosts (finalAssignments : Dictionary ℕ Assignment)
    (rows : List PricedRequest) : List PricedRequest :=
  rows.map (PricedRequest.reprice
    (reqCost policy carbonForecast finalAssignments))

end Recompute

/-- The output rows of a run. -/
def outputRows (policy : AssignmentPolicy) (carbonForecast : List ℚ)
    (slotDur : ℚ) (record : RunRecord) : Option (List PricedRequest) :=
  let committed := computePerRequest (runsById record.runs) slotDur
    record.rolledBackIds record.assignmentRows
  (scheduleLateRequests policy carbonForecast slotDur record.remaining).map
    fun late =>
      recomputeCarbonCosts policy carbonForecast record.finalAssignments
        ((committed.map fun row => { row with position := none }) ++ late)

end Nshift

end Carbonshift
