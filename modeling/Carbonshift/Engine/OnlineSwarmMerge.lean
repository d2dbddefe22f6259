import Carbonshift.Engine.OnlineSwarm

/-!
# Online swarm strategies, merge variant

Workers solve against a clone of the learned state and return a delta that is
merged into the live state after the commit.  Pricing is that of the
serialized variant.
-/

namespace Carbonshift

/-- Net effect of one batch on a bandit. -/
structure BanditDelta (σ : Type) where
  nDelta : List ℕ
  costSumDelta : List ℚ
  rngAfter : σ

/-- Net effect of one batch on a colony, as an affine transform. -/
structure AcoDelta (σ : Type) where
  evapFactor : ℚ
  deposit : List ℚ
  rngAfter : σ

inductive SwarmDelta (σ : Type) where
  | none
  | bandit (delta : BanditDelta σ)
  | aco (delta : AcoDelta σ)

section Bandit

variable {σ : Type} (runtime : NumericRuntime σ)
variable (policy : AssignmentPolicy) (carbonForecast : List ℚ)

/-- Working copies of a merge solve. -/
structure BanditClone (σ : Type) where
  q : List ℚ
  n : List ℕ
  rng : σ

def OnlineBanditState.clone (state : OnlineBanditState σ) : BanditClone σ where
  q := state.q
  n := state.n
  rng := state.rng

/-- Choose a slot by the estimates of the copy. -/
def banditChooseMerge (epsilon : ℚ) (work : BanditClone σ)
    (candidates : List ℤ) : Option ℤ × σ :=
  let drawn := runtime.gen work.rng
  if drawn.1 < epsilon then
    let index := runtime.genRange candidates.length drawn.2
    (candidates[index.1]?, index.2)
  else
    let estimate : ℤ → WithTop ℚ := fun slot =>
      (slotEntry work.q slot).elim ⊤ (fun q => (q : WithTop ℚ))
    (candidates.argmin estimate, drawn.2)

/-- Running-mean update of one estimate of the copy. -/
def banditLearnMerge (work : BanditClone σ) (slot : ℤ) (cost : ℚ) :
    BanditClone σ :=
  match slotEntry work.n slot with
  | none => work
  | some samples =>
      { work with
        n := modifySlot work.n slot (· + 1)
        q := modifySlot work.q slot fun estimate =>
          estimate + (cost - estimate) / ((samples : ℚ) + 1) }

/-- Place one request; only the copy learns. -/
def banditStepMerge (epsilon : ℚ) (fallback : Flavour)
    (solving : (BanditClone σ × SwarmTally) × List Assignment)
    (request : Request) :
    (BanditClone σ × SwarmTally) × List Assignment :=
  match banditChooseMerge runtime epsilon solving.1.1
      (candidateSlots policy request) with
  | (none, _) => solving
  | (some slot, rng) =>
      let picked := pickFlavour policy carbonForecast solving.1.2 slot fallback
      ((banditLearnMerge { solving.1.1 with rng := rng } slot picked.2,
          solving.1.2.place slot picked.1),
        solving.2 ++ [makeAssignment request slot picked.1 picked.2])

/-- New samples per slot, and their cost sum. -/
def OnlineBanditState.deltaTo (state : OnlineBanditState σ)
    (work : BanditClone σ) : BanditDelta σ where
  nDelta := List.zipWith (fun old new => new - old) state.n work.n
  costSumDelta :=
    (List.range state.q.length).map fun slot =>
      let old := state.n.getD slot 0
      let new := work.n.getD slot 0
      if 0 < new - old then
        work.q.getD slot 0 * new - state.q.getD slot 0 * old
      else
        0
  rngAfter := work.rng

/-- Assign the batch on a clone of the estimates. -/
def OnlineBanditState.solveBatchMerge (state : OnlineBanditState σ)
    (pending : List Request) (ctx : SwarmContext) :
    Option (List Assignment × BanditDelta σ) :=
  (policy.flavours.argmin Flavour.error).map fun fallback =>
    let solved := pending.foldl
      (banditStepMerge runtime policy carbonForecast state.epsilon fallback)
      ((state.clone, ctx.tally), [])
    (solved.2, state.deltaTo solved.1.1)

/-- Combine the running means with those of a batch. -/
def OnlineBanditState.mergeDelta (state : OnlineBanditState σ)
    (delta : BanditDelta σ) : OnlineBanditState σ :=
  let merged := (List.range state.q.length).map fun slot =>
    let added := delta.nDelta.getD slot 0
    let samples := state.n.getD slot 0
    let estimate := state.q.getD slot 0
    if added = 0 then
      (estimate, samples)
    else
      ((estimate * samples + delta.costSumDelta.getD slot 0) /
          ((samples + added : ℕ) : ℚ),
        samples + added)
  { state with
    q := merged.map Prod.fst
    n := merged.map Prod.snd
    rng := delta.rngAfter }

end Bandit

section AntColony

variable {σ : Type} (runtime : NumericRuntime σ)
variable (policy : AssignmentPolicy) (carbonForecast : List ℚ)

/-- Working state of a merge solve: the colony, the best solution, and the
transform accumulated so far. -/
structure MergeSearch (σ : Type) where
  colony : OnlineAcoState σ
  best : BestSolution
  depositAcc : List ℚ
  evapFactor : ℚ

/-- One iteration on the working state. -/
def acoIterateMerge (fallback : Flavour) (ctx : SwarmContext)
    (pending : List Request) (search : MergeSearch σ) : MergeSearch σ :=
  let state := search.colony
  let colony := antColony runtime policy carbonForecast state fallback ctx
    pending state.nAnts (none, state.rng)
  let evaporated := state.tau.map fun level =>
    max (level * (1 - state.rho)) tauFloor
  { colony :=
      { state with
        rng := colony.2
        tau := addDeposits state.qDeposit colony.1 evaporated }
    best := BestSolution.merge search.best colony.1
    depositAcc :=
      addDeposits state.qDeposit colony.1
        (search.depositAcc.map (· * (1 - state.rho)))
    evapFactor := search.evapFactor * (1 - state.rho) }

/-- Assign the batch with the best ant on a clone of the pheromone. -/
def OnlineAcoState.solveBatchMerge (state : OnlineAcoState σ)
    (pending : List Request) (ctx : SwarmContext) :
    Option (List Assignment × AcoDelta σ) :=
  (policy.flavours.argmin Flavour.error).map fun fallback =>
    let solved :=
      (acoIterateMerge runtime policy carbonForecast fallback ctx
        pending)^[state.nIterations]
        { colony := state
          best := none
          depositAcc := List.replicate state.tau.length 0
          evapFactor := 1 }
    ((solved.best.map Prod.snd).getD [],
      { evapFactor := solved.evapFactor
        deposit := solved.depositAcc
        rngAfter := solved.colony.rng })

/-- Replay a batch's transform on the current pheromone. -/
def OnlineAcoState.mergeDelta (state : OnlineAcoState σ)
    (delta : AcoDelta σ) : OnlineAcoState σ :=
  { state with
    tau :=
      (List.range state.tau.length).map fun slot =>
        max (state.tau.getD slot 0 * delta.evapFactor +
          delta.deposit.getD slot 0) tauFloor
    rng := delta.rngAfter }

end AntColony

namespace OnlineSwarmState

variable {σ : Type} (runtime : NumericRuntime σ)

/-- Solve a batch against this snapshot.  The slot is ignored. -/
def solveBatchMerge (state : OnlineSwarmState σ) (pending : List Request)
    (_slot : ℤ) (carbonForecast : List ℚ) (ctx : SwarmContext)
    (policy : AssignmentPolicy) : Option (List Assignment × SwarmDelta σ) :=
  match state with
  | .none => some ([], .none)
  | .bandit learned =>
      (learned.solveBatchMerge runtime policy carbonForecast pending ctx).map
        fun solved => (solved.1, .bandit solved.2)
  | .aco learned =>
      (learned.solveBatchMerge runtime policy carbonForecast pending ctx).map
        fun solved => (solved.1, .aco solved.2)

/-- Merge a delta into the live state; a mismatched one is dropped. -/
def mergeDelta (state : OnlineSwarmState σ) (delta : SwarmDelta σ) :
    OnlineSwarmState σ :=
  match state, delta with
  | .bandit learned, .bandit change => .bandit (learned.mergeDelta change)
  | .aco learned, .aco change => .aco (learned.mergeDelta change)
  | unchanged, _ => unchanged

end OnlineSwarmState

end Carbonshift
