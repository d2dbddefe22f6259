import Carbonshift.Nshift.BanditRefinement

/-!
# The online colony on one batch

The offline colony has its own loops, indexes its pheromone directly and keeps
its own assignments.  On a scenario within the horizon it is the online colony
on one batch of all requests.
-/

namespace Carbonshift

namespace Nshift

variable {σ : Type}

/-- An ant of the online colony, as the offline colony has it. -/
def Ant.of (walk : AntWalk σ) : Ant σ where
  rng := walk.rng
  tally := walk.tally
  cost := walk.cost
  solution := walk.solution.map .ofAssignment

def BestAnt.of (best : BestSolution) : BestAnt :=
  best.map fun kept => (kept.1, kept.2.map .ofAssignment)

theorem BestAnt.of_improve (best : BestSolution) (cost : ℚ)
    (solution : List Assignment) :
    BestAnt.of (best.improve cost solution) =
      (BestAnt.of best).improve cost (solution.map .ofAssignment) := by
  cases best with
  | none => rfl
  | some kept =>
      by_cases cheaper : cost < kept.1
      · have online : BestSolution.improve (some kept) cost solution =
            some (cost, solution) := if_pos (decide_eq_true cheaper)
        have offline : (BestAnt.of (some kept)).improve cost
              (solution.map .ofAssignment) =
            some (cost, solution.map .ofAssignment) :=
          if_pos (decide_eq_true cheaper)
        rw [online, offline]
        rfl
      · have online : BestSolution.improve (some kept) cost solution =
            some kept := if_neg fun less => cheaper (of_decide_eq_true less)
        have offline : (BestAnt.of (some kept)).improve cost
              (solution.map .ofAssignment) = BestAnt.of (some kept) :=
          if_neg fun less => cheaper (of_decide_eq_true less)
        rw [online, offline]

/-- Requests are within the horizon. -/
def Inside (policy : AssignmentPolicy) (request : ScenarioRequest) : Prop :=
  0 ≤ request.arrivalSlot ∧ request.arrivalSlot < policy.totalSlots

instance (policy : AssignmentPolicy) :
    DecidablePred (Inside policy) :=
  fun _ => inferInstanceAs (Decidable (_ ∧ _))

/-- The online colony has the parameters of the offline one, and a level for
every slot of the horizon. -/
structure Matches (policy : AssignmentPolicy) (params : AcoParams)
    (state : OnlineAcoState σ) : Prop where
  length_tau : state.tau.length = policy.totalSlots.toNat
  length_eta : state.eta.length = policy.totalSlots.toNat
  nAnts : state.nAnts = params.nAnts
  alpha : state.alpha = params.alpha
  beta : state.beta = params.beta
  rho : state.rho = params.rho
  q : state.qDeposit = params.q

/-! ## The roulette -/

section Roulette

variable {runtime : NumericRuntime σ} {policy : AssignmentPolicy}
variable {params : AcoParams} {state : OnlineAcoState σ}

/-- The wheel stops where the online one does. -/
theorem spinSlots_zip (weight : ℤ → ℚ) (mass : ℚ) (candidates : List ℤ) :
    spinSlots mass (candidates.zip (candidates.map weight)) =
      spinWheel weight mass candidates := by
  induction candidates generalizing mass with
  | nil => rfl
  | cons slot rest inductionHypothesis =>
      rw [List.map_cons, List.zip_cons_cons, spinSlots, spinWheel,
        inductionHypothesis]

theorem slotWeight_of (same : Matches policy params state) {slot : ℤ}
    (inside : 0 ≤ slot ∧ slot < policy.totalSlots) :
    slotWeight runtime params state.tau state.eta slot =
      some (acoWeight runtime state slot) := by
  obtain ⟨level, levelEntry⟩ := exists_slotEntry same.length_tau inside
  obtain ⟨heuristic, etaEntry⟩ := exists_slotEntry same.length_eta inside
  rw [slotWeight, acoWeight, levelEntry, etaEntry, same.alpha, same.beta]
  rfl

theorem mapM_slotWeight (same : Matches policy params state)
    {candidates : List ℤ}
    (inside : ∀ slot ∈ candidates, 0 ≤ slot ∧ slot < policy.totalSlots) :
    candidates.mapM (slotWeight runtime params state.tau state.eta) =
      some (candidates.map (acoWeight runtime state)) := by
  induction candidates with
  | nil => rfl
  | cons slot rest inductionHypothesis =>
      rw [List.forall_mem_cons] at inside
      rw [List.mapM_cons, slotWeight_of same inside.1,
        inductionHypothesis inside.2]
      rfl

/-- Within the horizon both colonies choose the same slot. -/
theorem antChoose_of (same : Matches policy params state)
    {candidates : List ℤ} {rng after : σ} {slot : ℤ}
    (inside : ∀ slot ∈ candidates, 0 ≤ slot ∧ slot < policy.totalSlots)
    (chosen : acoChoose runtime state rng candidates = (some slot, after)) :
    antChoose runtime params state.tau state.eta rng candidates =
      some (slot, after) := by
  unfold acoChoose at chosen
  rw [antChoose, mapM_slotWeight same inside, Option.bind_some]
  dsimp only at chosen ⊢
  split at chosen
  · rename_i weightless
    obtain ⟨found, rfl⟩ := Prod.mk.inj chosen
    rw [if_pos weightless, found]
    rfl
  · rename_i weighted
    obtain ⟨found, rfl⟩ := Prod.mk.inj chosen
    rw [if_neg weighted, spinSlots_zip, found]
    rfl

/-- A slot beyond the horizon has no level. -/
theorem slotEntry_eq_none {values : List ℚ} {slot : ℤ}
    (sized : values.length = policy.totalSlots.toNat)
    (outside : slot < 0 ∨ policy.totalSlots ≤ slot) :
    slotEntry values slot = none := by
  rw [slotEntry]
  split
  · rfl
  · rename_i nonneg
    have beyond := outside.resolve_left nonneg
    exact List.getElem?_eq_none (by omega)

end Roulette

/-! ## Ants -/

section Ants

variable {runtime : NumericRuntime σ} {policy : AssignmentPolicy}
variable {carbonForecast : List ℚ} {params : AcoParams}
variable {state : OnlineAcoState σ} {fallback : Flavour}

/-- A step of an offline ant is one of an online ant. -/
theorem antStep_of (same : Matches policy params state)
    {request : ScenarioRequest} (inside : Inside policy request)
    (walk : AntWalk σ) (now : ℚ) :
    antStep runtime policy carbonForecast params state.tau state.eta fallback
        (Ant.of walk) request =
      some (Ant.of (Carbonshift.antStep runtime policy carbonForecast state
        fallback walk (request.toRequest now))) := by
  have candidates : validSlots request policy.assignmentMaxFutureSlots
      policy.totalSlots = candidateSlots policy (request.toRequest now) := rfl
  have someCandidate : (candidateSlots policy
      (request.toRequest now)).isEmpty = false :=
    List.isEmpty_eq_false_iff.mpr (candidateSlots_ne_nil _ _)
  obtain ⟨slot, _, chosen⟩ : ∃ slot ∈ candidateSlots policy
      (request.toRequest now),
      (acoChoose runtime state walk.rng (candidateSlots policy
        (request.toRequest now))).1 = some slot :=
    acoChoose_mem state walk.rng (candidateSlots_ne_nil policy _)
  generalize drawn : acoChoose runtime state walk.rng
    (candidateSlots policy (request.toRequest now)) = choice at chosen
  obtain ⟨slot', rng⟩ := choice
  cases chosen
  have offline : antChoose runtime params state.tau state.eta walk.rng
      (candidateSlots policy (request.toRequest now)) = some (slot, rng) :=
    antChoose_of same (fun _ candidate =>
      candidateSlots_inside inside.1 inside.2 candidate) drawn
  rw [antStep, Carbonshift.antStep, candidates, drawn]
  dsimp only
  have rng_eq : (Ant.of walk).rng = walk.rng := rfl
  rw [if_neg (by simp [someCandidate]), rng_eq, offline, Option.map_some]
  refine congrArg some ?_
  unfold Ant.of
  dsimp only
  rw [List.map_append]
  rfl

/-- A request beyond the horizon is a panic. -/
theorem antStep_eq_none {tau eta : List ℚ}
    (sized : tau.length = policy.totalSlots.toNat)
    {request : ScenarioRequest} (outside : ¬ Inside policy request)
    (ant : Ant σ) :
    antStep runtime policy carbonForecast params tau eta fallback ant
      request = none := by
  have beyond : request.arrivalSlot < 0 ∨
      policy.totalSlots ≤ request.arrivalSlot := by
    unfold Inside at outside
    omega
  have head : (candidateSlots policy (request.toRequest 0))[0]? =
      some request.arrivalSlot := candidateSlots_head policy _
  have candidates : validSlots request policy.assignmentMaxFutureSlots
      policy.totalSlots = candidateSlots policy (request.toRequest 0) := rfl
  rw [antStep, candidates]
  cases listed : candidateSlots policy (request.toRequest 0) with
  | nil => exact absurd listed (candidateSlots_ne_nil _ _)
  | cons first rest =>
      rw [listed] at head
      cases head
      have weightless : slotWeight runtime params tau eta
          request.arrivalSlot = none := by
        rw [slotWeight, slotEntry_eq_none sized beyond]
        rfl
      dsimp only
      rw [if_neg (by simp), antChoose, List.mapM_cons, weightless]
      rfl

theorem antWalk_of (same : Matches policy params state)
    {requests : List ScenarioRequest}
    (inside : ∀ request ∈ requests, Inside policy request)
    (now : ScenarioRequest → ℚ) (ctx : SwarmContext)
    (empty : ctx.tally = ⟨∅, ∅, 0, 0⟩) (rng : σ) :
    antWalk runtime policy carbonForecast params state.tau state.eta fallback
        requests rng =
      some (Ant.of (Carbonshift.antWalk runtime policy carbonForecast state
        fallback ctx
        (requests.map fun request => request.toRequest (now request)) rng)) := by
  have steps : ∀ walk : AntWalk σ,
      requests.foldlM
          (antStep runtime policy carbonForecast params state.tau state.eta
            fallback) (Ant.of walk) =
        some (Ant.of ((requests.map fun request =>
          request.toRequest (now request)).foldl
            (Carbonshift.antStep runtime policy carbonForecast state fallback)
            walk)) := by
    induction requests with
    | nil => exact fun _ => rfl
    | cons request rest inductionHypothesis =>
        intro walk
        rw [List.forall_mem_cons] at inside
        rw [List.foldlM_cons, antStep_of same inside.1 walk (now request)]
        exact inductionHypothesis inside.2 _
  have start := steps ⟨rng, ctx.tally, 0, []⟩
  rw [antWalk, Carbonshift.antWalk, ← start, Ant.of, empty]
  rfl

theorem antWalk_eq_none {tau eta : List ℚ}
    (sized : tau.length = policy.totalSlots.toNat)
    {requests : List ScenarioRequest}
    (outside : ∃ request ∈ requests, ¬ Inside policy request) (rng : σ) :
    antWalk runtime policy carbonForecast params tau eta fallback requests
      rng = none := by
  have steps : ∀ ant : Ant σ,
      requests.foldlM
        (antStep runtime policy carbonForecast params tau eta fallback) ant =
          none := by
    obtain ⟨request, member, beyond⟩ := outside
    induction requests with
    | nil => cases member
    | cons first rest inductionHypothesis =>
        intro ant
        rw [List.foldlM_cons]
        rcases List.mem_cons.mp member with rfl | later
        · rw [antStep_eq_none sized beyond]
          rfl
        · cases antStep runtime policy carbonForecast params tau eta fallback
            ant first with
          | none => rfl
          | some next => exact inductionHypothesis later next
  exact steps _

theorem ants_of (same : Matches policy params state)
    {requests : List ScenarioRequest}
    {count : ℕ}
    (inside : 0 < count → ∀ request ∈ requests, Inside policy request)
    (now : ScenarioRequest → ℚ) (ctx : SwarmContext)
    (empty : ctx.tally = ⟨∅, ∅, 0, 0⟩)
    (best : BestSolution) (rng : σ) :
    ants runtime policy carbonForecast params state.tau state.eta fallback
        requests count (BestAnt.of best, rng) =
      some ((antColony runtime policy carbonForecast state fallback ctx
        (requests.map fun request => request.toRequest (now request)) count
        (best, rng)).map BestAnt.of id) := by
  induction count generalizing best rng with
  | zero => rfl
  | succ count inductionHypothesis =>
      have everywhere := inside (Nat.succ_pos count)
      rw [ants, antWalk_of same everywhere now ctx empty, Option.bind_some,
        antColony, ← inductionHypothesis fun _ => everywhere,
        BestAnt.of_improve]
      rfl

theorem ants_eq_none {tau eta : List ℚ}
    (sized : tau.length = policy.totalSlots.toNat)
    {requests : List ScenarioRequest}
    (outside : ∃ request ∈ requests, ¬ Inside policy request)
    {count : ℕ} (someAnt : 0 < count) (colony : BestAnt × σ) :
    ants runtime policy carbonForecast params tau eta fallback requests count
      colony = none := by
  cases count with
  | zero => exact absurd someAnt (lt_irrefl 0)
  | succ count =>
      rw [ants, antWalk_eq_none sized outside]
      rfl

/-! ## Iterations -/

/-- The assignments are within the horizon. -/
def SolutionInside (policy : AssignmentPolicy)
    (solution : List Assignment) : Prop :=
  ∀ assignment ∈ solution, 0 ≤ assignment.scheduledSlot ∧
    assignment.scheduledSlot < policy.totalSlots

theorem solutionInside_antWalk {requests : List ScenarioRequest}
    (inside : ∀ request ∈ requests, Inside policy request)
    (now : ScenarioRequest → ℚ) (ctx : SwarmContext) (rng : σ) :
    SolutionInside policy
      (Carbonshift.antWalk runtime policy carbonForecast state fallback ctx
        (requests.map fun request => request.toRequest (now request))
        rng).solution := by
  have steps : ∀ walk : AntWalk σ, SolutionInside policy walk.solution →
      SolutionInside policy
        ((requests.map fun request => request.toRequest (now request)).foldl
          (Carbonshift.antStep runtime policy carbonForecast state fallback)
          walk).solution := by
    induction requests with
    | nil => exact fun _ before => before
    | cons request rest inductionHypothesis =>
        intro walk before
        rw [List.forall_mem_cons] at inside
        refine inductionHypothesis inside.2 _ ?_
        obtain ⟨slot, candidate, chosen⟩ : ∃ slot ∈ candidateSlots policy
            (request.toRequest (now request)),
            (acoChoose runtime state walk.rng (candidateSlots policy
              (request.toRequest (now request)))).1 = some slot :=
          acoChoose_mem state walk.rng (candidateSlots_ne_nil policy _)
        have within := candidateSlots_inside inside.1.1 inside.1.2 candidate
        unfold Carbonshift.antStep
        split
        · exact before
        · rename_i found
          rw [found] at chosen
          cases chosen
          intro assignment member
          rcases List.mem_append.mp member with earlier | last
          · exact before assignment earlier
          · cases List.mem_singleton.mp last
            exact within
  exact steps _ fun _ member => nomatch member

/-- Deposits within the horizon are those of the online colony. -/
theorem reinforce_of {tau : List ℚ}
    (sized : tau.length = policy.totalSlots.toNat) {best : BestSolution}
    (inside : best.All (SolutionInside policy)) :
    reinforce params tau (BestAnt.of best) =
      some (addDeposits params.q best tau) := by
  cases best with
  | none => rfl
  | some kept =>
      have deposits : ∀ (amount : ℚ) (solution : List Assignment)
          (levels : List ℚ), levels.length = policy.totalSlots.toNat →
            SolutionInside policy solution →
          (solution.map SwarmAssignment.ofAssignment).foldlM
              (depositOn amount) levels =
            some (solution.foldl (fun levels assignment =>
              modifySlot levels assignment.scheduledSlot (· + amount))
                levels) := by
        intro amount solution
        induction solution with
        | nil => exact fun _ _ _ => rfl
        | cons assignment rest inductionHypothesis =>
            intro levels length_eq within
            obtain ⟨here, later⟩ := List.forall_mem_cons.mp within
            obtain ⟨level, entry⟩ := exists_slotEntry length_eq here
            have scheduled : (SwarmAssignment.ofAssignment
                assignment).scheduledSlot = assignment.scheduledSlot := rfl
            rw [List.map_cons, List.foldlM_cons, depositOn, scheduled, entry,
              List.foldl_cons]
            refine inductionHypothesis _ ?_ later
            rw [length_modifySlot, length_eq]
      have solved := deposits (params.q / kept.1) kept.2 tau sized
        (inside kept rfl)
      simp only [BestAnt.of, Option.map_some, reinforce, addDeposits,
        depositAmount]
      split
      · exact solved
      · rfl

theorem length_addDeposits (q : ℚ) (best : BestSolution) (levels : List ℚ) :
    (addDeposits q best levels).length = levels.length := by
  have deposits : ∀ (amount : ℚ) (solution : List Assignment)
      (levels : List ℚ),
      (solution.foldl (fun levels assignment =>
        modifySlot levels assignment.scheduledSlot (· + amount))
          levels).length = levels.length := by
    intro amount solution
    induction solution with
    | nil => exact fun _ => rfl
    | cons assignment rest inductionHypothesis =>
        intro levels
        rw [List.foldl_cons, inductionHypothesis, length_modifySlot]
  unfold addDeposits
  split
  · exact deposits _ _ _
  · rfl

/-- The colony between two iterations. -/
def Colony.of (solving : OnlineAcoState σ × BestSolution) : Colony σ where
  tau := solving.1.tau
  rng := solving.1.rng
  best := BestAnt.of solving.2

theorem BestAnt.of_merge (best iteration : BestSolution) :
    BestAnt.of (best.merge iteration) =
      match BestAnt.of iteration with
      | none => BestAnt.of best
      | some kept => (BestAnt.of best).improve kept.1 kept.2 := by
  cases iteration with
  | none => rfl
  | some kept => exact BestAnt.of_improve best kept.1 kept.2

/-- An iteration of the offline colony is one of the online colony. -/
theorem iterate_of {solving : OnlineAcoState σ × BestSolution}
    (same : Matches policy params solving.1)
    {requests : List ScenarioRequest}
    (inside : 0 < params.nAnts → ∀ request ∈ requests, Inside policy request)
    (now : ScenarioRequest → ℚ) (ctx : SwarmContext)
    (empty : ctx.tally = ⟨∅, ∅, 0, 0⟩) :
    iterate runtime policy carbonForecast params solving.1.eta fallback
        requests (Colony.of solving) =
      some (Colony.of (acoIterate runtime policy carbonForecast fallback ctx
        (requests.map fun request => request.toRequest (now request))
        solving)) := by
  rw [← same.nAnts] at inside
  have walked : ants runtime policy carbonForecast params solving.1.tau
      solving.1.eta fallback requests solving.1.nAnts
      (BestAnt.of none, solving.1.rng) = _ :=
    ants_of same inside now ctx empty none solving.1.rng
  have within : BestSolution.All (SolutionInside policy)
      (antColony runtime policy carbonForecast solving.1 fallback ctx
        (requests.map fun request => request.toRequest (now request))
        solving.1.nAnts (none, solving.1.rng)).1 := by
    rcases Nat.eq_zero_or_pos solving.1.nAnts with noAnt | someAnt
    · rw [noAnt]
      exact BestSolution.All.none _
    · exact antColony_all solving.1
        (fun rng => solutionInside_antWalk (inside someAnt) now ctx rng)
        solving.1.nAnts (BestSolution.All.none _)
  have sized : (solving.1.tau.map fun level =>
      max (level * (1 - params.rho)) tauFloor).length =
        policy.totalSlots.toNat := by
    rw [List.length_map, same.length_tau]
  have reinforced : reinforce params _ _ = _ := reinforce_of sized within
  have start : ((none : BestAnt), (Colony.of solving).rng) =
      (BestAnt.of none, solving.1.rng) := rfl
  have tau_eq : (Colony.of solving).tau = solving.1.tau := rfl
  rw [iterate, start, tau_eq, ← same.nAnts, walked, Option.bind_some]
  dsimp only [Prod.map_fst, Prod.map_snd]
  rw [reinforced, Option.map_some]
  refine congrArg some ?_
  unfold Colony.of
  rw [Carbonshift.acoIterate]
  dsimp only
  rw [BestAnt.of_merge, same.rho, same.q]
  rfl

theorem Matches.acoIterate {solving : OnlineAcoState σ × BestSolution}
    (same : Matches policy params solving.1) (runtime : NumericRuntime σ)
    (carbonForecast : List ℚ) (fallback : Flavour) (ctx : SwarmContext)
    (pending : List Request) :
    Matches policy params
        (acoIterate runtime policy carbonForecast fallback ctx pending
          solving).1 ∧
      (acoIterate runtime policy carbonForecast fallback ctx pending
        solving).1.eta = solving.1.eta := by
  refine ⟨⟨?_, same.length_eta, same.nAnts, same.alpha, same.beta, same.rho,
    same.q⟩, rfl⟩
  rw [Carbonshift.acoIterate]
  dsimp only
  rw [length_addDeposits, List.length_map, same.length_tau]

theorem iterations_of {requests : List ScenarioRequest} {count : ℕ}
    (inside : 0 < count → 0 < params.nAnts →
      ∀ request ∈ requests, Inside policy request)
    (now : ScenarioRequest → ℚ) (ctx : SwarmContext)
    (empty : ctx.tally = ⟨∅, ∅, 0, 0⟩)
    {solving : OnlineAcoState σ × BestSolution}
    (same : Matches policy params solving.1) :
    iterations runtime policy carbonForecast params solving.1.eta fallback
        requests count (Colony.of solving) =
      some (Colony.of ((acoIterate runtime policy carbonForecast fallback ctx
        (requests.map fun request => request.toRequest (now request)))^[count]
          solving)) := by
  induction count generalizing solving with
  | zero => rfl
  | succ count inductionHypothesis =>
      have everywhere := inside (Nat.succ_pos count)
      have kept := same.acoIterate runtime carbonForecast fallback ctx
        (requests.map fun request => request.toRequest (now request))
      rw [iterations, iterate_of same everywhere now ctx empty,
        Option.bind_some, Function.iterate_succ_apply,
        ← inductionHypothesis (fun _ => everywhere) kept.1, kept.2]

theorem iterations_eq_none {eta : List ℚ} {requests : List ScenarioRequest}
    (outside : ∃ request ∈ requests, ¬ Inside policy request)
    (someAnt : 0 < params.nAnts) {count : ℕ} (someIteration : 0 < count)
    {colony : Colony σ} (sized : colony.tau.length = policy.totalSlots.toNat) :
    iterations runtime policy carbonForecast params eta fallback requests
      count colony = none := by
  cases count with
  | zero => exact absurd someIteration (lt_irrefl 0)
  | succ count =>
      rw [iterations, iterate, ants_eq_none sized outside someAnt]
      rfl

end Ants

/-! ## Online and offline -/

/-- The parameters of the online colony's settings. -/
def AcoParams.ofSwarm (swarm : SwarmConfig) : AcoParams where
  nAnts := swarm.acoNAnts
  nIterations := swarm.acoNIterations
  alpha := swarm.acoAlpha
  beta := swarm.acoBeta
  rho := swarm.acoRho
  q := swarm.acoQ
  tau0 := swarm.acoTau0
  seed := swarm.acoSeed

/-- The first of the sorted flavours is the first shortest one. -/
theorem head?_sortedFlavours (flavours : List Flavour) :
    (sortedFlavours flavours).head? = flavours.argmin Flavour.duration := by
  induction flavours with
  | nil => rfl
  | cons flavour rest inductionHypothesis =>
      rw [List.argmin_cons, ← inductionHypothesis]
      unfold sortedFlavours
      rw [List.insertionSort_cons]
      cases List.insertionSort
          (fun left right : Flavour => left.duration ≤ right.duration) rest with
      | nil => rfl
      | cons shortest others =>
          rw [List.orderedInsert_cons]
          by_cases shorter : flavour.duration ≤ shortest.duration
          · rw [if_pos shorter]
            exact (if_neg (not_lt.mpr shorter)).symm
          · rw [if_neg shorter]
            exact (if_pos (not_le.mp shorter)).symm

theorem solution_of (best : BestSolution) :
    ((BestAnt.of best).map Prod.snd).getD [] =
      ((best.map Prod.snd).getD []).map .ofAssignment := by
  cases best with
  | none => rfl
  | some kept => rfl

/-- The online colony before its first batch. -/
def freshColony (runtime : NumericRuntime σ) (policy : AssignmentPolicy)
    (carbonForecast : List ℚ) (swarm : SwarmConfig) (cheapest : Flavour) :
    OnlineAcoState σ where
  tau := List.replicate policy.totalSlots.toNat swarm.acoTau0
  eta := initialEta policy.totalSlots.toNat carbonForecast cheapest
    policy.carbonCostDurationScale
  rng := runtime.seedFromU64 swarm.acoSeed
  nAnts := swarm.acoNAnts
  nIterations := swarm.acoNIterations
  alpha := swarm.acoAlpha
  beta := swarm.acoBeta
  rho := swarm.acoRho
  qDeposit := swarm.acoQ

theorem matches_freshColony (runtime : NumericRuntime σ)
    (policy : AssignmentPolicy) (carbonForecast : List ℚ)
    (swarm : SwarmConfig) (cheapest : Flavour) :
    Matches policy (.ofSwarm swarm)
      (freshColony runtime policy carbonForecast swarm cheapest) where
  length_tau := List.length_replicate
  length_eta := by
    rw [freshColony, initialEta, List.length_map, List.length_range]
  nAnts := rfl
  alpha := rfl
  beta := rfl
  rho := rfl
  q := rfl

theorem runAntColony_eq {runtime : NumericRuntime σ}
    {policy : AssignmentPolicy} {carbonForecast : List ℚ}
    {swarm : SwarmConfig} {fallback cheapest : Flavour}
    (least : policy.flavours.argmin Flavour.error = some fallback)
    (shortest : policy.flavours.argmin Flavour.duration = some cheapest)
    (horizon : 0 ≤ policy.totalSlots) (requests : List ScenarioRequest) :
    runAntColony runtime policy carbonForecast (.ofSwarm swarm) requests =
      (iterations runtime policy carbonForecast (.ofSwarm swarm)
        (freshColony runtime policy carbonForecast swarm cheapest).eta fallback
        requests swarm.acoNIterations
        (.of (freshColony runtime policy carbonForecast swarm cheapest,
          none))).map fun colony => (colony.best.map Prod.snd).getD [] := by
  rw [runAntColony, least, Option.bind_some, head?_sortedFlavours, shortest,
    Option.bind_some, if_neg (not_lt.mpr horizon)]
  rfl

/-- With the same settings, the offline colony is a fresh online colony on one
batch of all requests.  Only where an ant meets a request beyond the horizon do
they differ: the offline colony panics there.  Without a flavour both do. -/
theorem offline_colony_eq_online
    {σ : Type} (runtime : NumericRuntime σ) (solver : SolverConfig)
    (swarm : SwarmConfig) (policy : AssignmentPolicy)
    (carbonForecast : List ℚ) (profileId : QosProfileId) (slot : ℤ)
    (now : ScenarioRequest → ℚ) (requests : List ScenarioRequest)
    (strategy : solver.solverStrategy = "ant_colony")
    (horizon : 0 ≤ policy.totalSlots) :
    runAntColony runtime policy carbonForecast (.ofSwarm swarm) requests =
      if 0 < swarm.acoNAnts ∧ 0 < swarm.acoNIterations ∧
          ∃ request ∈ requests, ¬ Inside policy request then
        none
      else
        (OnlineSwarmState.fromConfig runtime solver swarm policy
          carbonForecast).bind fun online =>
            (online.solveBatch runtime
              (requests.map fun request => request.toRequest (now request))
              slot carbonForecast
              (SharedState.new.swarmContextSnapshotForProfile
                (some profileId)) policy).map fun solved =>
                  solved.1.map .ofAssignment := by
  have online : OnlineSwarmState.fromConfig runtime solver swarm policy
      carbonForecast =
        (OnlineAcoState.new runtime policy carbonForecast swarm).map .aco := by
    rw [OnlineSwarmState.fromConfig, strategy, if_neg (by decide), if_pos rfl]
  cases least : policy.flavours.argmin Flavour.error with
  | none =>
      have nothing : policy.flavours = [] := List.argmin_eq_none.mp least
      rw [online, runAntColony, OnlineAcoState.new, nothing]
      exact (ite_self none).symm
  | some fallback =>
      have someFlavour : policy.flavours ≠ [] := by
        intro nothing
        rw [nothing, List.argmin_nil] at least
        cases least
      obtain ⟨cheapest, shortest⟩ :=
        List.exists_argmin Flavour.duration someFlavour
      have fresh : OnlineAcoState.new runtime policy carbonForecast swarm =
          some (freshColony runtime policy carbonForecast swarm
            cheapest) := by
        rw [OnlineAcoState.new, shortest]
        rfl
      have same := matches_freshColony runtime policy carbonForecast swarm
        cheapest
      rw [online, fresh, Option.map_some, Option.bind_some,
        OnlineSwarmState.solveBatch, OnlineAcoState.solveBatch, least,
        runAntColony_eq least shortest horizon]
      simp only [Option.map_some]
      split
      · rename_i beyond
        rw [iterations_eq_none beyond.2.2 beyond.1 beyond.2.1
          same.length_tau]
        rfl
      · rename_i within
        have inside : 0 < swarm.acoNIterations →
            0 < (AcoParams.ofSwarm swarm).nAnts →
              ∀ request ∈ requests, Inside policy request := by
          intro someIteration someAnt request member
          by_contra outside
          exact within ⟨someAnt, someIteration, request, member, outside⟩
        let start : OnlineAcoState σ × BestSolution :=
          (freshColony runtime policy carbonForecast swarm cheapest, none)
        let ctx := SharedState.new.swarmContextSnapshotForProfile
          (some profileId)
        have solved : iterations runtime policy carbonForecast
            (.ofSwarm swarm) start.1.eta fallback requests
            swarm.acoNIterations (Colony.of start) =
          some (Colony.of ((acoIterate runtime policy carbonForecast
            fallback ctx (requests.map fun request =>
              request.toRequest (now request)))^[swarm.acoNIterations]
                start)) :=
          iterations_of inside now ctx rfl same
        rw [solved, Option.map_some]
        exact congrArg some (solution_of _)

/-- Two requests of one slot, on a horizon of one day. -/
theorem offline_colony_eq_online_twoRequests :
    runAntColony .least Config.default.assignmentPolicy (List.replicate 24 1)
        (.ofSwarm Config.default.swarm) [⟨1, 0, 3⟩, ⟨2, 0, 3⟩] =
      (OnlineSwarmState.fromConfig .least
        { Config.default.solver with solverStrategy := "ant_colony" }
        Config.default.swarm Config.default.assignmentPolicy
        (List.replicate 24 1)).bind fun online =>
          (online.solveBatch .least [.new 0 1 0 3, .new 0 2 0 3] 0
            (List.replicate 24 1)
            (SharedState.new.swarmContextSnapshotForProfile
              (some .defaultProfile))
            Config.default.assignmentPolicy).map fun solved =>
              solved.1.map .ofAssignment := by
  have same := offline_colony_eq_online .least
    { Config.default.solver with solverStrategy := "ant_colony" }
    Config.default.swarm Config.default.assignmentPolicy
    (List.replicate 24 1) .defaultProfile 0 (fun _ => 0)
    [⟨1, 0, 3⟩, ⟨2, 0, 3⟩] rfl (by decide)
  rw [if_neg (fun beyond => absurd beyond.2.2 (by decide))] at same
  exact same

end Nshift

end Carbonshift
