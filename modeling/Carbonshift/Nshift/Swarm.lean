import Carbonshift.Engine.OnlineSwarm

/-!
# Offline swarm strategies

The comparison strategies of the simulator run over a whole scenario, without
the engine.  They come with their own copies of the engine's slot and pricing
helpers.
-/

namespace Carbonshift

namespace Nshift

/-- A pre-generated request of a scenario.  Its arrival time is not read. -/
structure ScenarioRequest where
  requestId : ℕ
  arrivalSlot : ℤ
  deadlineSlot : ℤ
  deriving DecidableEq, Repr

/-- The runtime request, created at some time. -/
def ScenarioRequest.toRequest (now : ℚ) (request : ScenarioRequest) :
    Request :=
  .new now request.requestId request.arrivalSlot request.deadlineSlot

/-- A completed assignment. -/
structure SwarmAssignment where
  requestId : ℕ
  arrivalSlot : ℤ
  deadlineSlot : ℤ
  scheduledSlot : ℤ
  flavourName : String
  flavourDuration : ℚ
  error : ℚ
  carbonCost : ℚ
  deriving DecidableEq, Repr

/-! ## Helpers -/

/-- The target slots of a request, in order. -/
def validSlots (request : ScenarioRequest) (maxFuture totalSlots : ℤ) :
    List ℤ :=
  let last := min (min request.deadlineSlot (request.arrivalSlot + maxFuture))
    (totalSlots - 1)
  slotRange request.arrivalSlot (max last request.arrivalSlot)

section Pricing

variable (policy : AssignmentPolicy) (carbonForecast : List ℚ)
variable (tally : SwarmTally) (slot : ℤ)

/-- Price of a flavour at the next position of a slot. -/
def slotCost (flavour : Flavour) : ℚ :=
  Carbonshift.slotCost policy carbonForecast tally slot flavour

/-- Cheapest feasible flavour of a slot and its cost. -/
def pickFeasibleFlavour : Option (Flavour × ℚ) :=
  Carbonshift.pickFeasibleFlavour policy carbonForecast tally slot

end Pricing

/-! ## Bandit -/

structure BanditParams where
  epsilon : ℚ
  initialQ : ℚ
  seed : ℕ

def BanditParams.default : BanditParams where
  epsilon := 3 / 20
  initialQ := 10
  seed := 42

/-- The variables of the pass over all requests. -/
structure BanditPass (σ : Type) where
  q : List ℚ
  n : List ℕ
  tally : SwarmTally
  rng : σ
  assignments : List SwarmAssignment

section Bandit

variable {σ : Type} (runtime : NumericRuntime σ)
variable (policy : AssignmentPolicy) (carbonForecast : List ℚ)
variable (params : BanditParams)

/-- Choose at random with probability epsilon, else a first slot of least
estimate.  An estimate out of range is a panic. -/
def chooseSlot (pass : BanditPass σ) (candidates : List ℤ) :
    Option (ℤ × σ) :=
  let drawn := runtime.gen pass.rng
  if drawn.1 < params.epsilon then
    let index := runtime.genRange candidates.length drawn.2
    candidates[index.1]?.map fun slot => (slot, index.2)
  else if candidates.all fun slot => (slotEntry pass.q slot).isSome then
    (candidates.argmin fun slot => (slotEntry pass.q slot).getD 0).map
      fun slot => (slot, drawn.2)
  else
    none

/-- Place one request; a slot out of range is a panic. -/
def banditStep (fallback : Flavour) (pass : BanditPass σ)
    (request : ScenarioRequest) : Option (BanditPass σ) :=
  let candidates := validSlots request policy.assignmentMaxFutureSlots
    policy.totalSlots
  if candidates.isEmpty then
    some pass
  else
    (chooseSlot runtime params pass candidates).bind fun chosen =>
      let picked :=
        (pickFeasibleFlavour policy carbonForecast pass.tally chosen.1).getD
          (fallback,
            slotCost policy carbonForecast pass.tally chosen.1 fallback)
      (slotEntry pass.n chosen.1).map fun samples : ℕ =>
        { n := modifySlot pass.n chosen.1 (· + 1)
          q := modifySlot pass.q chosen.1 fun estimate =>
            estimate + (picked.2 - estimate) / ((samples : ℚ) + 1)
          tally := pass.tally.place chosen.1 picked.1
          rng := chosen.2
          assignments := pass.assignments ++
            [{ requestId := request.requestId
               arrivalSlot := request.arrivalSlot
               deadlineSlot := request.deadlineSlot
               scheduledSlot := chosen.1
               flavourName := picked.1.name
               flavourDuration := picked.1.duration
               error := picked.1.error
               carbonCost := picked.2 }] }

/-- Before the first request. -/
def BanditPass.start : BanditPass σ where
  q := List.replicate policy.totalSlots.toNat params.initialQ
  n := List.replicate policy.totalSlots.toNat 0
  tally :=
    { slotCount := ∅
      slotErrors := ∅
      globalErrorSum := 0
      globalCount := 0 }
  rng := runtime.seedFromU64 params.seed
  assignments := []

/-- Run the bandit over all requests; `none` is a panic. -/
def runBandit (requests : List ScenarioRequest) :
    Option (List SwarmAssignment) :=
  (policy.flavours.argmin Flavour.error).bind fun fallback =>
    (requests.foldlM
        (banditStep runtime policy carbonForecast params fallback)
        (BanditPass.start runtime policy params)).map BanditPass.assignments

end Bandit

/-! ## Ant colony -/

/-- Parameters of the colony. -/
structure AcoParams where
  nAnts : ℕ
  nIterations : ℕ
  alpha : ℚ
  beta : ℚ
  rho : ℚ
  q : ℚ
  tau0 : ℚ
  seed : ℕ

/-- One ant so far. -/
structure Ant (σ : Type) where
  rng : σ
  tally : SwarmTally
  cost : ℚ
  solution : List SwarmAssignment

/-- A cost and a solution; none stands for the infinite initial cost. -/
abbrev BestAnt := Option (ℚ × List SwarmAssignment)

/-- Keep the strictly cheaper solution. -/
def BestAnt.improve (best : BestAnt) (cost : ℚ)
    (solution : List SwarmAssignment) : BestAnt :=
  if best.all fun kept => decide (cost < kept.1) then
    some (cost, solution)
  else
    best

/-- The variables of the colony between two iterations. -/
structure Colony (σ : Type) where
  tau : List ℚ
  rng : σ
  best : BestAnt

section AntColony

variable {σ : Type} (runtime : NumericRuntime σ)
variable (policy : AssignmentPolicy) (carbonForecast : List ℚ)
variable (params : AcoParams) (tau eta : List ℚ)

/-- Weight of a slot in the roulette; a slot out of range is a panic. -/
def slotWeight (slot : ℤ) : Option ℚ :=
  (slotEntry tau slot).bind fun level =>
    (slotEntry eta slot).map fun heuristic =>
      runtime.powf (max level tauFloor) params.alpha *
        runtime.powf heuristic params.beta

/-- The first slot at which the remaining mass is used up. -/
def spinSlots : ℚ → List (ℤ × ℚ) → Option ℤ
  | _, [] => none
  | mass, (slot, weight) :: rest =>
      if mass - weight ≤ 0 then some slot else spinSlots (mass - weight) rest

/-- Choose a slot by roulette, or uniformly when no slot has weight. -/
def antChoose (rng : σ) (candidates : List ℤ) : Option (ℤ × σ) :=
  (candidates.mapM (slotWeight runtime params tau eta)).bind fun weights =>
    if weights.sum ≤ 0 then
      let index := runtime.genRange candidates.length rng
      candidates[index.1]?.map fun slot => (slot, index.2)
    else
      let drawn := runtime.gen rng
      ((spinSlots (drawn.1 * weights.sum) (candidates.zip weights)).or
        candidates.getLast?).map fun slot => (slot, drawn.2)

/-- The ant places one request. -/
def antStep (fallback : Flavour) (ant : Ant σ) (request : ScenarioRequest) :
    Option (Ant σ) :=
  let candidates := validSlots request policy.assignmentMaxFutureSlots
    policy.totalSlots
  if candidates.isEmpty then
    some ant
  else
    (antChoose runtime params tau eta ant.rng candidates).map fun chosen =>
      let picked :=
        (pickFeasibleFlavour policy carbonForecast ant.tally chosen.1).getD
          (fallback,
            slotCost policy carbonForecast ant.tally chosen.1 fallback)
      { rng := chosen.2
        tally := ant.tally.place chosen.1 picked.1
        cost := ant.cost + picked.2
        solution := ant.solution ++
          [{ requestId := request.requestId
             arrivalSlot := request.arrivalSlot
             deadlineSlot := request.deadlineSlot
             scheduledSlot := chosen.1
             flavourName := picked.1.name
             flavourDuration := picked.1.duration
             error := picked.1.error
             carbonCost := picked.2 }] }

/-- One ant's walk over all requests. -/
def antWalk (fallback : Flavour) (requests : List ScenarioRequest) (rng : σ) :
    Option (Ant σ) :=
  requests.foldlM
    (antStep runtime policy carbonForecast params tau eta fallback)
    { rng := rng
      tally :=
        { slotCount := ∅
          slotErrors := ∅
          globalErrorSum := 0
          globalCount := 0 }
      cost := 0
      solution := [] }

/-- The best of `ants` walks, and the generator after them. -/
def ants (fallback : Flavour) (requests : List ScenarioRequest) :
    ℕ → BestAnt × σ → Option (BestAnt × σ)
  | 0, colony => some colony
  | count + 1, colony =>
      (antWalk runtime policy carbonForecast params tau eta fallback requests
        colony.2).bind fun ant =>
          ants fallback requests count
            (colony.1.improve ant.cost ant.solution, ant.rng)

/-- Leave an amount on the slot of an assignment; a slot out of range is a
panic. -/
def depositOn (amount : ℚ) (tau : List ℚ) (assignment : SwarmAssignment) :
    Option (List ℚ) :=
  (slotEntry tau assignment.scheduledSlot).map fun _ =>
    modifySlot tau assignment.scheduledSlot (· + amount)

/-- Deposit on the slots of the best ant. -/
def reinforce (best : BestAnt) : Option (List ℚ) :=
  match best with
  | none => some tau
  | some kept =>
      if 0 < kept.1 then
        kept.2.foldlM (depositOn (params.q / kept.1)) tau
      else
        some tau

/-- One iteration: ants, evaporation, deposit. -/
def iterate (fallback : Flavour) (requests : List ScenarioRequest)
    (colony : Colony σ) : Option (Colony σ) :=
  (ants runtime policy carbonForecast params colony.tau eta fallback requests
    params.nAnts (none, colony.rng)).bind fun found =>
      let evaporated := colony.tau.map fun level =>
        max (level * (1 - params.rho)) tauFloor
      (reinforce params evaporated found.1).map fun tau =>
        { tau := tau
          rng := found.2
          best :=
            match found.1 with
            | none => colony.best
            | some kept => colony.best.improve kept.1 kept.2 }

def iterations (fallback : Flavour) (requests : List ScenarioRequest) :
    ℕ → Colony σ → Option (Colony σ)
  | 0, colony => some colony
  | count + 1, colony =>
      (iterate runtime policy carbonForecast params eta fallback requests
        colony).bind (iterations fallback requests count)

/-- Run the colony over all requests; `none` is a panic. -/
def runAntColony (requests : List ScenarioRequest) :
    Option (List SwarmAssignment) :=
  (policy.flavours.argmin Flavour.error).bind fun fallback =>
    (sortedFlavours policy.flavours).head?.bind fun cheapest =>
      if policy.totalSlots < 0 then
        none
      else
        let eta := initialEta policy.totalSlots.toNat carbonForecast cheapest
          policy.carbonCostDurationScale
        (iterations runtime policy carbonForecast params eta fallback requests
          params.nIterations
          { tau := List.replicate policy.totalSlots.toNat params.tau0
            rng := runtime.seedFromU64 params.seed
            best := none }).map fun colony =>
              (colony.best.map Prod.snd).getD []

end AntColony

end Nshift

end Carbonshift
