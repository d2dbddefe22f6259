import Carbonshift.Engine.Types
import Carbonshift.Library.Iteration
import Carbonshift.Library.LayeredSearch
import Carbonshift.Library.Rounding
import Mathlib.Data.Int.Range
import Mathlib.Data.List.MinMax
import Mathlib.Data.List.Sort

/-!
# Rolling-window DP solver

One DP layer is processed per request of a batch.  Each layer expands every
kept state by every `(flavour, slot)` pair, merges states with the same key
and is then pruned.  A sequential warm start survives pruning and answers on
timeout.

Window errors are integers in basis points and the weighted request count is
kept in thousandths, as in the solver's state keys.
-/

namespace Carbonshift

/-- A carbon forecast that covers the planning horizon, which
`with_carbon_forecast` asserts before a solver is used. -/
abbrev CarbonForecast (windowSize : ℤ) :=
  { values : List ℚ // values.length = windowSize.toNat }

/-- Per-state key: quantised window error, quantised request count, unused
mock requests and the slot occupancy added by the batch. -/
structure DpStateKey where
  errorSumBp : ℤ
  errorCountMilli : ℤ
  mockRemaining : ℤ
  incCounts : List ℤ
  deriving DecidableEq, Repr

namespace DpStateKey

def new (errorSumBp : ℤ) (errorCount : ℚ) (mockRemaining : ℤ)
    (incCounts : List ℤ) : DpStateKey where
  errorSumBp := errorSumBp
  errorCountMilli := roundHalfAway (errorCount * 1000)
  mockRemaining := mockRemaining
  incCounts := incCounts

def errorCount (key : DpStateKey) : ℚ :=
  (key.errorCountMilli : ℚ) / 1000

end DpStateKey

/-- One request's slot bounds for a batch solve. -/
structure SolveRequest where
  requestId : ℕ
  earliestSlot : ℤ
  deadlineSlot : ℤ
  deriving DecidableEq, Repr

structure ErrorWindowBaseline where
  errorSum : ℚ
  requestCount : ℚ
  deriving DecidableEq, Repr

/-- Synthetic requests used during infeasibility recovery. -/
structure MockPool where
  initialCount : ℤ
  errorPerRequest : ℚ
  deriving DecidableEq, Repr

/-- The pool of a solve without recovery. -/
def MockPool.default : MockPool where
  initialCount := 0
  errorPerRequest := 0

/-- Input of a single batch solve. -/
structure SolveBatchInput where
  requests : List SolveRequest
  currentSlot : ℤ
  capacityMultiplier : ℚ
  capacityTiers : List CapacityTier
  baselineSlotCounts : Dictionary ℤ ℤ
  errorWindowBaseline : ErrorWindowBaseline
  maxErrorThreshold : Option ℚ
  errorWindowPast : ℤ
  errorWindowFuture : ℤ
  assignmentMaxSlot : Option ℤ
  dynamicMockPool : MockPool
  requestFlavours : Dictionary ℕ (List Flavour)

structure DpSolver where
  flavours : List Flavour
  windowSize : ℤ
  carbonForecast : CarbonForecast windowSize
  /-- `"beam"`, `"kbest"` or anything else for no pruning. -/
  pruning : String
  pruningK : ℕ
  timeout : ℚ
  carbonCostScale : ℚ

/-- A kept state: its key, its cost and the assignments leading to it. -/
abbrev DpEntry := DpStateKey × ℚ × List RequestAssignment

abbrev DpLayer := SearchLayer DpStateKey RequestAssignment ℚ

/-- What a batch solve observes beyond its input: the iteration orders of its
hash maps and the elapsed seconds read after each layer. -/
structure SearchOracle where
  visit : ℕ → IterationOrder DpEntry
  drain : ℕ → IterationOrder DpEntry
  finish : IterationOrder DpEntry
  elapsed : ℕ → ℚ

/-- Entry order everywhere and the same elapsed time at every reading. -/
def SearchOracle.steady (elapsed : ℚ) : SearchOracle where
  visit _ := IterationOrder.entryOrder
  drain _ := IterationOrder.entryOrder
  finish := IterationOrder.entryOrder
  elapsed _ := elapsed

/-- The inclusive slot range `first..=last`. -/
def slotRange (first last : ℤ) : List ℤ :=
  Int.range first (last + 1)

@[simp]
theorem mem_slotRange {first last slot : ℤ} :
    slot ∈ slotRange first last ↔ first ≤ slot ∧ slot ≤ last := by
  rw [slotRange, Int.mem_range_iff]
  omega

namespace DpSolver

/-- The request's own flavours, or the solver's default list. -/
def flavoursFor (solver : DpSolver) (requestId : ℕ)
    (overrides : Dictionary ℕ (List Flavour)) : List Flavour :=
  (overrides.lookup requestId).getD solver.flavours

/-- Marginal carbon cost of placing one request in `slot`: the request pays
the multiplier of the position it takes there. -/
def incrementalCarbonCost (solver : DpSolver) (slot : ℤ) (addDuration : ℚ)
    (baseCounts incCounts : List ℤ) (tiers : List CapacityTier) : ℚ :=
  let s := slot.toNat
  let position := baseCounts.getD s 0 + incCounts.getD s 0 + 1
  let mult := getCapacityMultiplier tiers position
  let carbon := solver.carbonForecast.val.getD s 0
  carbon * mult * addDuration * solver.carbonCostScale

/-! ## Values derived once per solve -/

section Derived

variable (solver : DpSolver) (input : SolveBatchInput)

/-- The ladder of the batch, or a flat one when none is given. -/
def resolvedTiers : List CapacityTier :=
  if input.capacityTiers.isEmpty then
    [{ maxRequests := none, multiplier := input.capacityMultiplier }]
  else
    input.capacityTiers

def windowStart : ℤ :=
  max (input.currentSlot - input.errorWindowPast) 0

def windowEnd : ℤ :=
  min (input.currentSlot + input.errorWindowFuture) (solver.windowSize - 1)

def assignmentCap : ℤ :=
  max
    (min (input.assignmentMaxSlot.getD (solver.windowSize - 1))
      (solver.windowSize - 1))
    input.currentSlot

def earliestFor (request : SolveRequest) : ℤ :=
  max request.earliestSlot input.currentSlot

/-- The request's deadline after all clamps of the solve. -/
def deadlineFor (request : SolveRequest) : ℤ :=
  min
    (min (max request.deadlineSlot input.currentSlot)
      (solver.assignmentCap input))
    (solver.windowSize - 1)

/-- Occupancy of fixed assignments by slot; entries outside the horizon are
dropped. -/
def baseCounts : List ℤ :=
  (List.range solver.windowSize.toNat).map fun (slot : ℕ) =>
    input.baselineSlotCounts.getD (slot : ℤ) 0

def mockErrorBp : ℤ :=
  roundHalfAway (input.dynamicMockPool.errorPerRequest * 100)

/-- The accounting state before any request of the batch is placed. -/
def initialKey : DpStateKey :=
  DpStateKey.new
    (roundHalfAway (input.errorWindowBaseline.errorSum * 100))
    input.errorWindowBaseline.requestCount
    (max input.dynamicMockPool.initialCount 0)
    (List.replicate solver.windowSize.toNat 0)

def inWindow (slot : ℤ) : Bool :=
  decide (windowStart input ≤ slot) && decide (slot ≤ solver.windowEnd input)

/-- Window accounting of one placement: sum, count and remaining mocks.  An
in-window placement consumes one mock request while any is left. -/
def accountPlacement (key : DpStateKey) (flavour : Flavour) (slot : ℤ) :
    ℤ × ℚ × ℤ :=
  let errorBp := roundHalfAway (flavour.error * 100)
  if solver.inWindow input slot then
    if 0 < key.mockRemaining ∧ 0 < mockErrorBp input then
      (key.errorSumBp + errorBp - mockErrorBp input,
        max (key.errorCount + 1 - 1) 0,
        key.mockRemaining - 1)
    else
      (key.errorSumBp + errorBp, key.errorCount + 1, key.mockRemaining)
  else
    (key.errorSumBp, key.errorCount, key.mockRemaining)

/-- The key reached by placing one request; both the warm start and the DP
layers perform this update. -/
def advanceKey (key : DpStateKey) (flavour : Flavour) (slot : ℤ) :
    DpStateKey :=
  let accounted := solver.accountPlacement input key flavour slot
  DpStateKey.new accounted.1 accounted.2.1 accounted.2.2
    (key.incCounts.modify slot.toNat (· + 1))

/-- The window-average test applied to complete paths. -/
def meetsThreshold (key : DpStateKey) : Bool :=
  match input.maxErrorThreshold with
  | none => true
  | some threshold =>
      decide (key.errorCount = 0 ∨
        (key.errorSumBp : ℚ) / 100 / key.errorCount ≤ threshold)

end Derived

/-! ## Warm start -/

section WarmStart

variable (solver : DpSolver) (input : SolveBatchInput)

/-- Cheapest acceptable candidate so far, and the cheapest slot of the most
accurate flavour. -/
structure SequentialScan where
  best : Option (ℚ × Flavour × ℤ)
  fallback : Option (ℚ × ℤ)

/-- Would the candidate keep the running window average within the
threshold? -/
def candidateFeasible (key : DpStateKey) (flavour : Flavour) (slot : ℤ) :
    Bool :=
  match input.maxErrorThreshold with
  | none => true
  | some threshold =>
      if solver.inWindow input slot then
        let projected := solver.accountPlacement input key flavour slot
        !(decide (0 < projected.2.1) &&
          decide (threshold < (projected.1 : ℚ) / 100 / projected.2.1))
      else
        true

/-- Weigh one `(flavour, slot)` candidate of the warm start. -/
def scanCandidate (key : DpStateKey) (isMinError : Bool) (flavour : Flavour)
    (scan : SequentialScan) (slot : ℤ) : SequentialScan :=
  let cost := solver.incrementalCarbonCost slot flavour.duration
    (solver.baseCounts input) key.incCounts (resolvedTiers input)
  { best :=
      if solver.candidateFeasible input key flavour slot &&
          scan.best.all (fun kept => decide (cost < kept.1)) then
        some (cost, flavour, slot)
      else
        scan.best
    fallback :=
      if isMinError &&
          scan.fallback.all (fun kept => decide (cost < kept.1)) then
        some (cost, slot)
      else
        scan.fallback }

/-- Scan every candidate of one request.  The most accurate flavour is
recognised by its position, as the source does by its address. -/
def scanRequest (key : DpStateKey) (request : SolveRequest)
    (minErrorIndex : ℕ) : SequentialScan :=
  (solver.flavoursFor request.requestId input.requestFlavours).zipIdx.foldl
    (fun scan candidate =>
      (slotRange (earliestFor input request)
        (solver.deadlineFor input request)).foldl
        (solver.scanCandidate input key (candidate.2 == minErrorIndex)
          candidate.1)
        scan)
    { best := none, fallback := none }

/-- Place one request of the warm start; `none` when it has no slot. -/
def sequentialStep (key : DpStateKey) (request : SolveRequest) :
    Option (RequestAssignment × DpStateKey) := do
  let candidates :=
    solver.flavoursFor request.requestId input.requestFlavours
  let minError ← candidates.zipIdx.argmin fun candidate => candidate.1.error
  let scan := solver.scanRequest input key request minError.2
  let chosen ← scan.best.or
    (scan.fallback.map fun kept => (kept.1, minError.1, kept.2))
  return (
    { requestId := request.requestId
      flavourName := chosen.2.1.name
      slot := chosen.2.2
      carbonCost := chosen.1
      error := chosen.2.1.error },
    solver.advanceKey input key chosen.2.1 chosen.2.2)

/-- The assignments and the key after each placed request; no assignments at
all once a request cannot be placed. -/
def sequentialFrom (key : DpStateKey) :
    List SolveRequest → Option (List RequestAssignment) × List DpStateKey
  | [] => (some [], [])
  | request :: rest =>
      match solver.sequentialStep input key request with
      | none => (none, [])
      | some (assignment, nextKey) =>
          let later := sequentialFrom nextKey rest
          (later.1.map (assignment :: ·), nextKey :: later.2)

/-- Sequential warm start: the assignments, and the keys before the first
request and after each placed one. -/
def computeSequentialSolution : List RequestAssignment × List DpStateKey :=
  let later := solver.sequentialFrom input (solver.initialKey input)
    input.requests
  (later.1.getD [], solver.initialKey input :: later.2)

/-- Does the warm start satisfy the threshold? -/
def warmIsFeasible : Bool :=
  (solver.computeSequentialSolution input).2.getLast?.all
    (meetsThreshold input)

/-- What a dead end, a timeout or an empty selection answers: the warm start,
unless it violates the threshold. -/
def incumbent : List RequestAssignment :=
  if solver.warmIsFeasible input then
    (solver.computeSequentialSolution input).1
  else
    []

end WarmStart

/-! ## DP layers -/

section Layers

variable (solver : DpSolver) (input : SolveBatchInput)

/-- Expand every kept state by every `(flavour, slot)` pair of the request,
keeping the cheaper path at each key. -/
def expandLayer (request : SolveRequest) (entries : List DpEntry) : DpLayer :=
  entries.foldl
    (fun current entry =>
      (solver.flavoursFor request.requestId input.requestFlavours).foldl
        (fun current flavour =>
          (slotRange (earliestFor input request)
            (solver.deadlineFor input request)).foldl
            (fun current slot =>
              let deltaCost := solver.incrementalCarbonCost slot
                flavour.duration (solver.baseCounts input) entry.1.incCounts
                (resolvedTiers input)
              let assignment : RequestAssignment :=
                { requestId := request.requestId
                  flavourName := flavour.name
                  slot := slot
                  carbonCost := deltaCost
                  error := flavour.error }
              LayeredSearch.relax current
                (solver.advanceKey input entry.1 flavour slot)
                (entry.2.1 + deltaCost)
                (entry.2.2 ++ [assignment]))
            current)
        current)
    ∅

/-- Average error of a state in basis points, used as the `kbest` tie break. -/
def averageErrorBp (key : DpStateKey) : ℚ :=
  if 0 < key.errorCount then (key.errorSumBp : ℚ) / key.errorCount else 0

/-- The order in which `beam` and `kbest` rank the states of a layer. -/
def ranksBefore (left right : DpEntry) : Prop :=
  if solver.pruning = "beam" then
    left.2.1 ≤ right.2.1
  else
    left.2.1 < right.2.1 ∨
      (left.2.1 = right.2.1 ∧
        averageErrorBp left.1 ≤ averageErrorBp right.1)

instance : DecidableRel solver.ranksBefore := fun left right => by
  unfold ranksBefore
  infer_instance

/-- Keep the first `pruningK` ranked states, with one place reserved for the
warm-start state when it ranks later. -/
def keepRanked (warmKey : Option DpStateKey) (items : List DpEntry) :
    List DpEntry :=
  let warmIdx := items.findIdx? fun entry => decide (some entry.1 = warmKey)
  let takeN :=
    if warmIdx.any (fun index => decide (solver.pruningK ≤ index)) then
      solver.pruningK - 1
    else
      solver.pruningK
  let trimmed := items.take (min takeN items.length)
  let rest := items.drop (min takeN items.length)
  match warmIdx with
  | none => trimmed
  | some index =>
      if solver.pruningK ≤ index ∧ index < takeN + rest.length then
        trimmed ++ rest[index - takeN]?.toList
      else
        trimmed

/-- Prune one layer. -/
def trimLayer (order : IterationOrder DpEntry) (warmKey : Option DpStateKey)
    (layer : DpLayer) : DpLayer :=
  if (solver.pruning = "beam" ∨ solver.pruning = "kbest") ∧
      solver.pruningK < layer.entries.length then
    Dictionary.ofPairs
      (solver.keepRanked warmKey
        ((order.arrange layer.toPairs).insertionSort solver.ranksBefore))
  else
    layer

/-- Process the requests from index `index` on; an early return carries its
answer. -/
def searchLayers (oracle : SearchOracle)
    (incumbent : List RequestAssignment) (warmKeys : List DpStateKey) :
    ℕ → List SolveRequest → DpLayer → Except (List RequestAssignment) DpLayer
  | _, [], layer => .ok layer
  | index, request :: rest, layer =>
      let expanded := solver.expandLayer input request
        ((oracle.visit index).arrange layer.toPairs)
      if expanded.entries.isEmpty then
        .error incumbent
      else
        let kept := solver.trimLayer (oracle.drain index)
          warmKeys[index + 1]? expanded
        if solver.timeout < oracle.elapsed index then
          .error incumbent
        else
          searchLayers oracle incumbent warmKeys (index + 1) rest kept

/-- Cheapest complete path that meets the threshold. -/
def selectAnswer (oracle : SearchOracle)
    (incumbent : List RequestAssignment) (layer : DpLayer) :
    List RequestAssignment :=
  let survivors := (oracle.finish.arrange layer.toPairs).filter fun entry =>
    meetsThreshold input entry.1
  if input.maxErrorThreshold.isSome && survivors.isEmpty then
    []
  else
    match survivors.argmin fun entry => entry.2.1 with
    | some entry => entry.2.2
    | none => incumbent

/-- Find a minimum-carbon feasible placement for a batch of requests.  At a
request without flavours the source panics in the warm start; here nothing is
placed then, and the pipeline panics in its fallback. -/
def solveBatch (oracle : SearchOracle) : List RequestAssignment :=
  if input.requests.isEmpty then
    []
  else if solver.windowSize ≤ input.currentSlot then
    []
  else if input.requests.any (fun request =>
      decide (solver.deadlineFor input request < earliestFor input request)) then
    []
  else
    match solver.searchLayers input oracle (solver.incumbent input)
        (solver.computeSequentialSolution input).2 0 input.requests
        (AList.singleton (solver.initialKey input) (0, [])) with
    | .error answer => answer
    | .ok layer =>
        selectAnswer input oracle (solver.incumbent input) layer

end Layers

/-! ## Greedy fallback -/

section GreedyFallback

variable (solver : DpSolver)

/-- The request's longest flavour; among equally long ones the last. -/
def fallbackFlavour (requestFlavours : Dictionary ℕ (List Flavour))
    (request : SolveRequest) : Option Flavour :=
  (solver.flavoursFor request.requestId requestFlavours).reverse.argmax
    Flavour.duration

/-- Last-resort placement of one request given the occupancy so far.  A
request without a legal slot is left out, one without a flavour is a panic of
the source. -/
def greedyStep (currentSlot : ℤ) (tiers : List CapacityTier)
    (requestFlavours : Dictionary ℕ (List Flavour))
    (placed : List ℤ × List RequestAssignment) (request : SolveRequest) :
    Option (List ℤ × List RequestAssignment) :=
  let earliest := max request.earliestSlot currentSlot
  let deadline := min (max request.deadlineSlot currentSlot)
    (solver.windowSize - 1)
  (solver.fallbackFlavour requestFlavours request).map fun flavour =>
    let price := fun slot => solver.incrementalCarbonCost slot
      flavour.duration (List.replicate solver.windowSize.toNat 0) placed.1
      tiers
    match (slotRange earliest deadline).argmin price with
    | none => placed
    | some slot =>
        (placed.1.modify slot.toNat (· + 1),
          placed.2 ++
            [{ requestId := request.requestId
               flavourName := flavour.name
               slot := slot
               carbonCost := price slot
               error := flavour.error }])

/-- Place every request that has a legal slot, cheapest slot first. -/
def greedyFallback (requests : List SolveRequest) (currentSlot : ℤ)
    (tiers : List CapacityTier) (baseCounts : List ℤ)
    (requestFlavours : Dictionary ℕ (List Flavour)) :
    Option (List RequestAssignment) :=
  (requests.foldlM
    (solver.greedyStep currentSlot tiers requestFlavours)
    (baseCounts, [])).map Prod.snd

end GreedyFallback

end DpSolver

end Carbonshift
