import Carbonshift.Engine.DpSolver
import Carbonshift.Engine.Runtime
import Carbonshift.Engine.SharedState

/-!
# Online swarm strategies, serialized variant

Bandit and ant-colony solvers whose learned state persists across batches and
is mutated in place under the scheduler mutex.  Both place every request in
one of its valid slots and price it on top of the committed state and the
earlier requests of the batch.  A solve without flavours panics, which is
`none`.
-/

namespace Carbonshift

/-! ## Shared helpers -/

def capacityMult (tiers : List CapacityTier) (count : ℤ) : ℚ :=
  getCapacityMultiplier tiers count

/-- The target slots of a request, in order.  The scheduler's current slot
plays no part in them. -/
def validSlots (arrivalSlot deadlineSlot maxFuture totalSlots : ℤ) : List ℤ :=
  slotRange arrivalSlot
    (max (min (min deadlineSlot (arrivalSlot + maxFuture)) (totalSlots - 1))
      arrivalSlot)

/-- The slots of one request under a policy. -/
def candidateSlots (policy : AssignmentPolicy) (request : Request) : List ℤ :=
  validSlots request.arrivalSlot request.deadlineSlot
    policy.assignmentMaxFutureSlots policy.totalSlots

/-- Running occupancy and error history of one batch. -/
structure SwarmTally where
  slotCount : Dictionary ℤ ℤ
  slotErrors : Dictionary ℤ (List ℚ)
  globalErrorSum : ℚ
  globalCount : ℕ

/-- The tally a batch starts from. -/
def SwarmContext.tally (ctx : SwarmContext) : SwarmTally where
  slotCount := ctx.slotCount
  slotErrors := ctx.slotErrors
  globalErrorSum := ctx.globalErrorSum
  globalCount := ctx.globalCount

/-- The tally after one more placement. -/
def SwarmTally.place (tally : SwarmTally) (slot : ℤ) (flavour : Flavour) :
    SwarmTally where
  slotCount := tally.slotCount.upsert slot 0 (· + 1)
  slotErrors := tally.slotErrors.upsert slot [] (· ++ [flavour.error])
  globalErrorSum := tally.globalErrorSum + flavour.error
  globalCount := tally.globalCount + 1

section Pricing

variable (policy : AssignmentPolicy) (carbonForecast : List ℚ)

/-- Price of a flavour at the next position of a slot. -/
def slotCost (tally : SwarmTally) (slot : ℤ) (flavour : Flavour) : ℚ :=
  let intensity := (slotEntry carbonForecast slot).getD 1
  let position := tally.slotCount.getD slot 0 + 1
  let mult := capacityMult policy.capacityTiers position
  intensity * mult * flavour.duration * policy.carbonCostDurationScale

/-- The cumulative and the window rule for one flavour. -/
def swarmFeasible (tally : SwarmTally) (slot : ℤ) (flavour : Flavour) : Bool :=
  let newAvg := (tally.globalErrorSum + flavour.error) /
    ((tally.globalCount : ℚ) + 1)
  let window := (slotRange (slot - policy.errorWindowPast)
    (slot + policy.errorWindowFuture)).map fun other =>
      tally.slotErrors.getD other []
  let winSum := flavour.error + (window.map List.sum).sum
  let winCnt : ℕ := 1 + (window.map List.length).sum
  !(policy.globalErrorConstraintEnabled &&
      decide (policy.maxErrorThreshold < newAvg)) &&
    !decide (policy.maxErrorThreshold < winSum / winCnt)

/-- The flavours, shortest first. -/
def sortedFlavours (flavours : List Flavour) : List Flavour :=
  flavours.insertionSort fun left right => left.duration ≤ right.duration

/-- Cheapest feasible flavour of a slot and its cost. -/
def pickFeasibleFlavour (tally : SwarmTally) (slot : ℤ) :
    Option (Flavour × ℚ) :=
  ((sortedFlavours policy.flavours).find?
    (swarmFeasible policy tally slot)).map fun flavour =>
      (flavour, slotCost policy carbonForecast tally slot flavour)

/-- Cheapest feasible flavour, or the most accurate one. -/
def pickFlavour (tally : SwarmTally) (slot : ℤ) (fallback : Flavour) :
    Flavour × ℚ :=
  (pickFeasibleFlavour policy carbonForecast tally slot).getD
    (fallback, slotCost policy carbonForecast tally slot fallback)

def makeAssignment (request : Request) (slot : ℤ) (flavour : Flavour)
    (cost : ℚ) : Assignment :=
  .new request.id slot flavour.name cost flavour.error flavour.duration
    (some request.arrivalSlot) (some request.deadlineSlot)

end Pricing

/-! ## Bandit -/

/-- Epsilon-greedy bandit: estimates, sample counts and generator state. -/
structure OnlineBanditState (σ : Type) where
  q : List ℚ
  n : List ℕ
  rng : σ
  epsilon : ℚ

section Bandit

variable {σ : Type} (runtime : NumericRuntime σ)
variable (policy : AssignmentPolicy) (carbonForecast : List ℚ)

def OnlineBanditState.new (totalSlots : ℕ) (initialQ epsilon : ℚ)
    (seed : ℕ) : OnlineBanditState σ where
  q := List.replicate totalSlots initialQ
  n := List.replicate totalSlots 0
  rng := runtime.seedFromU64 seed
  epsilon := epsilon

/-- Choose a slot: at random with probability epsilon, else a first one of
least estimate, where a slot without an estimate comes last. -/
def banditChoose (state : OnlineBanditState σ) (candidates : List ℤ) :
    Option ℤ × σ :=
  let drawn := runtime.gen state.rng
  if drawn.1 < state.epsilon then
    let index := runtime.genRange candidates.length drawn.2
    (candidates[index.1]?, index.2)
  else
    let estimate : ℤ → WithTop ℚ := fun slot =>
      (slotEntry state.q slot).elim ⊤ (fun q => (q : WithTop ℚ))
    (candidates.argmin estimate, drawn.2)

/-- Running-mean update of one estimate. -/
def banditLearn (state : OnlineBanditState σ) (slot : ℤ) (cost : ℚ) :
    OnlineBanditState σ :=
  match slotEntry state.n slot with
  | none => state
  | some samples =>
      { state with
        n := modifySlot state.n slot (· + 1)
        q := modifySlot state.q slot fun estimate =>
          estimate + (cost - estimate) / ((samples : ℚ) + 1) }

/-- Place one request. -/
def banditStep (fallback : Flavour)
    (solving : (OnlineBanditState σ × SwarmTally) × List Assignment)
    (request : Request) :
    (OnlineBanditState σ × SwarmTally) × List Assignment :=
  match banditChoose runtime solving.1.1 (candidateSlots policy request) with
  | (none, _) => solving
  | (some slot, rng) =>
      let picked := pickFlavour policy carbonForecast solving.1.2 slot fallback
      ((banditLearn { solving.1.1 with rng := rng } slot picked.2,
          solving.1.2.place slot picked.1),
        solving.2 ++ [makeAssignment request slot picked.1 picked.2])

/-- Assign the batch with the current estimates, updating them in place. -/
def OnlineBanditState.solveBatch (state : OnlineBanditState σ)
    (pending : List Request) (ctx : SwarmContext) :
    Option (List Assignment × OnlineBanditState σ) :=
  (policy.flavours.argmin Flavour.error).map fun fallback =>
    let solved := pending.foldl
      (banditStep runtime policy carbonForecast fallback)
      ((state, ctx.tally), [])
    (solved.2, solved.1.1)

end Bandit

/-! ## Ant colony -/

/-- Pheromone, static heuristic and parameters of the colony. -/
structure OnlineAcoState (σ : Type) where
  tau : List ℚ
  eta : List ℚ
  rng : σ
  nAnts : ℕ
  nIterations : ℕ
  alpha : ℚ
  beta : ℚ
  rho : ℚ
  qDeposit : ℚ

section AntColony

variable {σ : Type} (runtime : NumericRuntime σ)
variable (policy : AssignmentPolicy) (carbonForecast : List ℚ)

/-- The least pheromone of a slot. -/
def tauFloor : ℚ := 1 / 10 ^ 12

/-- The heuristic of each slot: the inverse of its base cost. -/
def initialEta (totalSlots : ℕ) (forecast : List ℚ) (cheapest : Flavour)
    (scale : ℚ) : List ℚ :=
  (List.range totalSlots).map fun slot =>
    let base := forecast.getD slot 1 * cheapest.duration * scale
    if 0 < base then 1 / base else 10 ^ 9

def OnlineAcoState.new (swarm : SwarmConfig) : Option (OnlineAcoState σ) :=
  (policy.flavours.argmin Flavour.duration).map fun cheapest =>
    { tau := List.replicate policy.totalSlots.toNat swarm.acoTau0
      eta := initialEta policy.totalSlots.toNat carbonForecast cheapest
        policy.carbonCostDurationScale
      rng := runtime.seedFromU64 swarm.acoSeed
      nAnts := swarm.acoNAnts
      nIterations := swarm.acoNIterations
      alpha := swarm.acoAlpha
      beta := swarm.acoBeta
      rho := swarm.acoRho
      qDeposit := swarm.acoQ }

/-- Weight of a slot in the roulette. -/
def acoWeight (state : OnlineAcoState σ) (slot : ℤ) : ℚ :=
  runtime.powf (max ((slotEntry state.tau slot).getD tauFloor) tauFloor)
      state.alpha *
    runtime.powf ((slotEntry state.eta slot).getD tauFloor) state.beta

/-- Spin the wheel: the first slot at which the remaining mass is used up. -/
def spinWheel (weight : ℤ → ℚ) : ℚ → List ℤ → Option ℤ
  | _, [] => none
  | mass, slot :: rest =>
      if mass - weight slot ≤ 0 then
        some slot
      else
        spinWheel weight (mass - weight slot) rest

/-- Choose a slot by roulette, or uniformly when no slot has weight. -/
def acoChoose (state : OnlineAcoState σ) (rng : σ) (candidates : List ℤ) :
    Option ℤ × σ :=
  let totalWeight := (candidates.map (acoWeight runtime state)).sum
  if totalWeight ≤ 0 then
    let index := runtime.genRange candidates.length rng
    (candidates[index.1]?, index.2)
  else
    let drawn := runtime.gen rng
    ((spinWheel (acoWeight runtime state) (drawn.1 * totalWeight)
        candidates).or candidates.getLast?,
      drawn.2)

/-- One ant so far: generator, tally, cost and placements. -/
structure AntWalk (σ : Type) where
  rng : σ
  tally : SwarmTally
  cost : ℚ
  solution : List Assignment

/-- The ant places one request. -/
def antStep (state : OnlineAcoState σ) (fallback : Flavour)
    (walk : AntWalk σ) (request : Request) : AntWalk σ :=
  match acoChoose runtime state walk.rng (candidateSlots policy request) with
  | (none, _) => walk
  | (some slot, rng) =>
      let picked := pickFlavour policy carbonForecast walk.tally slot fallback
      { rng := rng
        tally := walk.tally.place slot picked.1
        cost := walk.cost + picked.2
        solution := walk.solution ++
          [makeAssignment request slot picked.1 picked.2] }

/-- One ant's walk over the batch. -/
def antWalk (state : OnlineAcoState σ) (fallback : Flavour)
    (ctx : SwarmContext) (pending : List Request) (rng : σ) : AntWalk σ :=
  pending.foldl (antStep runtime policy carbonForecast state fallback)
    { rng := rng, tally := ctx.tally, cost := 0, solution := [] }

/-- A cost and a solution; none stands for the infinite initial cost. -/
abbrev BestSolution := Option (ℚ × List Assignment)

/-- Keep the strictly cheaper solution. -/
def BestSolution.improve (best : BestSolution) (cost : ℚ)
    (solution : List Assignment) : BestSolution :=
  if best.all fun kept => decide (cost < kept.1) then
    some (cost, solution)
  else
    best

/-- The best of `ants` walks, and the generator after them. -/
def antColony (state : OnlineAcoState σ) (fallback : Flavour)
    (ctx : SwarmContext) (pending : List Request) :
    ℕ → BestSolution × σ → BestSolution × σ
  | 0, colony => colony
  | ants + 1, colony =>
      let walk := antWalk runtime policy carbonForecast state fallback ctx
        pending colony.2
      antColony state fallback ctx pending ants
        (BestSolution.improve colony.1 walk.cost walk.solution, walk.rng)

/-- What the best ant of an iteration leaves on each of its slots. -/
def depositAmount (qDeposit : ℚ) (best : BestSolution) : Option ℚ :=
  match best with
  | none => none
  | some kept => if 0 < kept.1 then some (qDeposit / kept.1) else none

/-- Add the deposit of the best ant to a per-slot vector. -/
def addDeposits (qDeposit : ℚ) (best : BestSolution) (levels : List ℚ) :
    List ℚ :=
  match best, depositAmount qDeposit best with
  | some kept, some deposit =>
      kept.2.foldl
        (fun levels assignment =>
          modifySlot levels assignment.scheduledSlot (· + deposit))
        levels
  | _, _ => levels

/-- Keep the cheaper of the overall and the iteration best. -/
def BestSolution.merge (best iteration : BestSolution) : BestSolution :=
  match iteration with
  | none => best
  | some kept => best.improve kept.1 kept.2

/-- One iteration: ants, evaporation, deposit. -/
def acoIterate (fallback : Flavour) (ctx : SwarmContext)
    (pending : List Request)
    (solving : OnlineAcoState σ × BestSolution) :
    OnlineAcoState σ × BestSolution :=
  let colony := antColony runtime policy carbonForecast solving.1 fallback ctx
    pending solving.1.nAnts (none, solving.1.rng)
  let evaporated := solving.1.tau.map fun level =>
    max (level * (1 - solving.1.rho)) tauFloor
  ({ solving.1 with
      rng := colony.2
      tau := addDeposits solving.1.qDeposit colony.1 evaporated },
    BestSolution.merge solving.2 colony.1)

/-- Assign the batch with the best ant, updating the pheromone in place. -/
def OnlineAcoState.solveBatch (state : OnlineAcoState σ)
    (pending : List Request) (ctx : SwarmContext) :
    Option (List Assignment × OnlineAcoState σ) :=
  (policy.flavours.argmin Flavour.error).map fun fallback =>
    let solved :=
      (acoIterate runtime policy carbonForecast fallback ctx
        pending)^[state.nIterations] (state, none)
    ((solved.2.map Prod.snd).getD [], solved.1)

end AntColony

/-! ## Strategy state -/

/-- Learned state of the configured strategy. -/
inductive OnlineSwarmState (σ : Type) where
  | none
  | bandit (state : OnlineBanditState σ)
  | aco (state : OnlineAcoState σ)

namespace OnlineSwarmState

variable {σ : Type} (runtime : NumericRuntime σ)

/-- The state for the configured strategy; `none` is the panic of a colony
without flavours. -/
def fromConfig (solver : SolverConfig) (swarm : SwarmConfig)
    (policy : AssignmentPolicy) (carbonForecast : List ℚ) :
    Option (OnlineSwarmState σ) :=
  if solver.solverStrategy = "bandit" then
    some (.bandit (.new runtime policy.totalSlots.toNat swarm.banditInitialQ
      swarm.banditEpsilon swarm.banditSeed))
  else if solver.solverStrategy = "ant_colony" then
    (OnlineAcoState.new runtime policy carbonForecast swarm).map .aco
  else
    some .none

/-- Solve a batch with the active strategy.  The slot is ignored. -/
def solveBatch (state : OnlineSwarmState σ) (pending : List Request)
    (_slot : ℤ) (carbonForecast : List ℚ) (ctx : SwarmContext)
    (policy : AssignmentPolicy) :
    Option (List Assignment × OnlineSwarmState σ) :=
  match state with
  | .none => some ([], .none)
  | .bandit learned =>
      (learned.solveBatch runtime policy carbonForecast pending ctx).map
        fun solved => (solved.1, .bandit solved.2)
  | .aco learned =>
      (learned.solveBatch runtime policy carbonForecast pending ctx).map
        fun solved => (solved.1, .aco solved.2)

end OnlineSwarmState

end Carbonshift
