import Carbonshift.Engine.OnlineSwarmMerge
import Carbonshift.Library.ListFacts
import Mathlib.Algebra.Order.BigOperators.Group.List

/-!
# Where the online swarm strategies place a batch

All four solvers place the requests of a batch one after another, each in a
slot drawn from its candidates and priced at the next position of that slot.
The first half states this as a plan of the batch.  The second half compares
the candidates with the slots a request may still use, which also depend on
the scheduler's current slot.
-/

namespace Carbonshift

/-! ## Plans of a batch -/

section Plans

variable (policy : AssignmentPolicy) (carbonForecast : List ℚ)
variable (picks : Request → ℤ → Prop)

/-- Every request takes a slot of its own and pays for the next position of
that slot. -/
inductive Plans : SwarmTally → List Request → List Assignment → Prop where
  | nil (tally : SwarmTally) : Plans tally [] []
  | cons {tally : SwarmTally} {request : Request} {slot : ℤ}
      {flavour : Flavour} {requests : List Request}
      {assignments : List Assignment}
      (picked : picks request slot)
      (offered : flavour ∈ policy.flavours)
      (rest : Plans (tally.place slot flavour) requests assignments) :
      Plans tally (request :: requests)
        (makeAssignment request slot flavour
          (slotCost policy carbonForecast tally slot flavour) :: assignments)

variable {policy carbonForecast picks}

theorem Plans.forall₂
    {tally : SwarmTally} {requests : List Request}
    {assignments : List Assignment}
    (plan : Plans policy carbonForecast picks tally requests assignments) :
    List.Forall₂
      (fun request assignment =>
        assignment.requestId = request.id ∧
          picks request assignment.scheduledSlot)
      requests assignments := by
  induction plan with
  | nil tally => exact List.Forall₂.nil
  | cons picked _ _ inductionHypothesis =>
      exact List.Forall₂.cons ⟨rfl, picked⟩ inductionHypothesis

/-- A solver that places one request per step plans the whole batch. -/
theorem plans_of_steps {ρ : Type} (step : ρ → Request → ρ)
    (tally : ρ → SwarmTally) (solution : ρ → List Assignment)
    (keeps : ρ → Prop)
    (steps : ∀ solving request, keeps solving →
      ∃ slot flavour,
        picks request slot ∧ flavour ∈ policy.flavours ∧
          keeps (step solving request) ∧
          tally (step solving request) =
            (tally solving).place slot flavour ∧
          solution (step solving request) =
            solution solving ++
              [makeAssignment request slot flavour
                (slotCost policy carbonForecast (tally solving) slot
                  flavour)])
    (requests : List Request) {solving : ρ} (kept : keeps solving) :
    ∃ assignments,
      Plans policy carbonForecast picks (tally solving) requests assignments ∧
        solution (requests.foldl step solving) =
          solution solving ++ assignments := by
  induction requests generalizing solving with
  | nil => exact ⟨[], .nil _, by simp⟩
  | cons request rest inductionHypothesis =>
      obtain ⟨slot, flavour, picked, offered, keptAfter, placed, extended⟩ :=
        steps solving request kept
      obtain ⟨assignments, plan, solved⟩ := inductionHypothesis keptAfter
      rw [placed] at plan
      refine ⟨_, .cons picked offered plan, ?_⟩
      rw [List.foldl_cons, solved, extended, List.append_assoc,
        List.singleton_append]

theorem pickFlavour_spec
    (carbonForecast : List ℚ) {fallback : Flavour}
    (offered : fallback ∈ policy.flavours)
    (tally : SwarmTally) (slot : ℤ) :
    (pickFlavour policy carbonForecast tally slot fallback).1 ∈
        policy.flavours ∧
      (pickFlavour policy carbonForecast tally slot fallback).2 =
        slotCost policy carbonForecast tally slot
          (pickFlavour policy carbonForecast tally slot fallback).1 := by
  unfold pickFlavour pickFeasibleFlavour
  cases found : (sortedFlavours policy.flavours).find?
      (swarmFeasible policy tally slot) with
  | none => exact ⟨offered, rfl⟩
  | some flavour =>
      refine ⟨?_, rfl⟩
      have member := List.mem_of_find?_eq_some found
      exact (List.mem_insertionSort _).mp member

end Plans

/-! ## Choosing a slot -/

section Choosing

variable {σ : Type} {runtime : NumericRuntime σ}
variable {policy : AssignmentPolicy}

private theorem slotRange_head {first last : ℤ} (ordered : first ≤ last) :
    (slotRange first last)[0]? = some first := by
  have inside : 0 < (last + 1 - first).toNat := by omega
  rw [slotRange, Int.range, List.getElem?_map, List.getElem?_range inside]
  simp

/-- The arrival slot is always the first candidate. -/
theorem candidateSlots_head (policy : AssignmentPolicy) (request : Request) :
    (candidateSlots policy request)[0]? = some request.arrivalSlot :=
  slotRange_head (le_max_right _ _)

theorem candidateSlots_ne_nil (policy : AssignmentPolicy) (request : Request) :
    candidateSlots policy request ≠ [] := by
  intro empty
  have head := candidateSlots_head policy request
  simp [empty] at head

private theorem genRange_mem
    {candidates : List ℤ} (someCandidate : candidates ≠ []) (rng : σ) :
    ∃ slot ∈ candidates,
      candidates[(runtime.genRange candidates.length rng).1]? = some slot := by
  have inside := runtime.genRange_lt candidates.length rng
    (List.length_pos_iff.mpr someCandidate)
  exact ⟨_, List.getElem_mem inside, List.getElem?_eq_getElem inside⟩

theorem banditChoose_mem
    (state : OnlineBanditState σ) {candidates : List ℤ}
    (someCandidate : candidates ≠ []) :
    ∃ slot ∈ candidates, (banditChoose runtime state candidates).1 = some slot := by
  unfold banditChoose
  dsimp only
  split
  · exact genRange_mem someCandidate _
  · dsimp only
    obtain ⟨slot, least⟩ := List.exists_argmin
      (fun slot => (slotEntry state.q slot).elim (⊤ : WithTop ℚ)
        fun q => (q : WithTop ℚ)) someCandidate
    rw [least]
    exact ⟨slot, List.argmin_mem least, rfl⟩

private theorem spinWheel_mem
    {weight : ℤ → ℚ} {mass : ℚ} {candidates : List ℤ} {slot : ℤ}
    (stopped : spinWheel weight mass candidates = some slot) :
    slot ∈ candidates := by
  induction candidates generalizing mass with
  | nil => simp [spinWheel] at stopped
  | cons head rest inductionHypothesis =>
      rw [spinWheel] at stopped
      split at stopped
      · cases stopped
        exact List.mem_cons_self
      · exact List.mem_cons_of_mem head (inductionHypothesis stopped)

theorem acoChoose_mem
    (state : OnlineAcoState σ) (rng : σ) {candidates : List ℤ}
    (someCandidate : candidates ≠ []) :
    ∃ slot ∈ candidates,
      (acoChoose runtime state rng candidates).1 = some slot := by
  unfold acoChoose
  dsimp only
  split
  · exact genRange_mem someCandidate _
  · dsimp only
    cases spun : spinWheel (acoWeight runtime state)
        ((runtime.gen rng).1 * (candidates.map (acoWeight runtime state)).sum)
        candidates with
    | some slot => exact ⟨slot, spinWheel_mem spun, by simp⟩
    | none =>
        refine ⟨candidates.getLast someCandidate, List.getLast_mem _, ?_⟩
        simp [List.getLast?_eq_getLast_of_ne_nil someCandidate]

end Choosing

/-! ## The four solvers plan the batch -/

section Solvers

variable {σ : Type} {runtime : NumericRuntime σ}
variable {policy : AssignmentPolicy} {carbonForecast : List ℚ}
variable {picks : Request → ℤ → Prop} {pending : List Request}

/-- The bandit's slot choice always satisfies the rule; learning leaves
epsilon alone. -/
def BanditPicks (runtime : NumericRuntime σ) (policy : AssignmentPolicy)
    (picks : Request → ℤ → Prop) (epsilon : ℚ) : Prop :=
  ∀ (state : OnlineBanditState σ) (request : Request),
    state.epsilon = epsilon →
    ∃ slot,
      picks request slot ∧
        (banditChoose runtime state (candidateSlots policy request)).1 =
          some slot

/-- The roulette always satisfies the rule. -/
def AcoPicks (runtime : NumericRuntime σ) (policy : AssignmentPolicy)
    (picks : Request → ℤ → Prop) : Prop :=
  ∀ (state : OnlineAcoState σ) (rng : σ) (request : Request),
    ∃ slot,
      picks request slot ∧
        (acoChoose runtime state rng (candidateSlots policy request)).1 =
          some slot

theorem banditPicks_candidate (runtime : NumericRuntime σ)
    (policy : AssignmentPolicy) (epsilon : ℚ) :
    BanditPicks runtime policy
      (fun request slot => slot ∈ candidateSlots policy request) epsilon :=
  fun state request _ =>
    banditChoose_mem state (candidateSlots_ne_nil policy request)

theorem acoPicks_candidate (runtime : NumericRuntime σ)
    (policy : AssignmentPolicy) :
    AcoPicks runtime policy
      fun request slot => slot ∈ candidateSlots policy request :=
  fun state rng request =>
    acoChoose_mem state rng (candidateSlots_ne_nil policy request)

@[simp]
theorem banditLearn_epsilon
    (state : OnlineBanditState σ) (slot : ℤ) (cost : ℚ) :
    (banditLearn state slot cost).epsilon = state.epsilon := by
  unfold banditLearn
  split <;> rfl

private theorem banditStep_places {epsilon : ℚ}
    (chooses : BanditPicks runtime policy picks epsilon)
    {fallback : Flavour} (offered : fallback ∈ policy.flavours)
    (solving : (OnlineBanditState σ × SwarmTally) × List Assignment)
    (request : Request) (kept : solving.1.1.epsilon = epsilon) :
    ∃ slot flavour,
      picks request slot ∧ flavour ∈ policy.flavours ∧
        (banditStep runtime policy carbonForecast fallback solving
          request).1.1.epsilon = epsilon ∧
        (banditStep runtime policy carbonForecast fallback solving
          request).1.2 = solving.1.2.place slot flavour ∧
        (banditStep runtime policy carbonForecast fallback solving
          request).2 =
          solving.2 ++
            [makeAssignment request slot flavour
              (slotCost policy carbonForecast solving.1.2 slot flavour)] := by
  obtain ⟨slot, picked, chosen⟩ := chooses solving.1.1 request kept
  obtain ⟨member, priced⟩ :=
    pickFlavour_spec carbonForecast offered solving.1.2 slot
  refine ⟨slot, _, picked, member, ?_⟩
  rw [← priced]
  unfold banditStep
  split
  · rename_i nothing
    simp [nothing] at chosen
  · rename_i found
    simp only [found, Option.some.injEq] at chosen
    subst chosen
    exact ⟨by simpa using kept, rfl, rfl⟩

theorem OnlineBanditState.solveBatch_plans
    {learned : OnlineBanditState σ} {carbonForecast : List ℚ}
    {pending : List Request} {ctx : SwarmContext}
    {solved : List Assignment × OnlineBanditState σ}
    (chooses : BanditPicks runtime policy picks learned.epsilon)
    (answered : learned.solveBatch runtime policy carbonForecast pending ctx =
      some solved) :
    Plans policy carbonForecast picks ctx.tally pending solved.1 := by
  obtain ⟨fallback, least, rfl⟩ := Option.map_eq_some_iff.mp answered
  have offered : fallback ∈ policy.flavours := List.argmin_mem least
  obtain ⟨assignments, plan, placed⟩ :=
    plans_of_steps (banditStep runtime policy carbonForecast fallback)
      (fun solving => solving.1.2) (fun solving => solving.2)
      (fun solving => solving.1.1.epsilon = learned.epsilon)
      (banditStep_places chooses offered) pending
      (show ((learned, ctx.tally), ([] : List Assignment)).1.1.epsilon =
        learned.epsilon from rfl)
  simpa [placed] using plan

private theorem antStep_places
    (chooses : AcoPicks runtime policy picks)
    (state : OnlineAcoState σ) {fallback : Flavour}
    (offered : fallback ∈ policy.flavours) (walk : AntWalk σ)
    (request : Request) :
    ∃ slot flavour,
      picks request slot ∧ flavour ∈ policy.flavours ∧ True ∧
        (antStep runtime policy carbonForecast state fallback walk
          request).tally = walk.tally.place slot flavour ∧
        (antStep runtime policy carbonForecast state fallback walk
          request).solution =
          walk.solution ++
            [makeAssignment request slot flavour
              (slotCost policy carbonForecast walk.tally slot flavour)] := by
  obtain ⟨slot, picked, chosen⟩ := chooses state walk.rng request
  obtain ⟨member, priced⟩ :=
    pickFlavour_spec carbonForecast offered walk.tally slot
  refine ⟨slot, _, picked, member, trivial, ?_⟩
  rw [← priced]
  unfold antStep
  split
  · rename_i nothing
    simp [nothing] at chosen
  · rename_i found
    simp only [found, Option.some.injEq] at chosen
    subst chosen
    exact ⟨rfl, rfl⟩

private theorem antWalk_plans
    (chooses : AcoPicks runtime policy picks)
    (state : OnlineAcoState σ) {fallback : Flavour}
    (offered : fallback ∈ policy.flavours) (ctx : SwarmContext) (rng : σ) :
    Plans policy carbonForecast picks ctx.tally pending
      (antWalk runtime policy carbonForecast state fallback ctx pending
        rng).solution := by
  obtain ⟨assignments, plan, solved⟩ :=
    plans_of_steps (antStep runtime policy carbonForecast state fallback)
      AntWalk.tally AntWalk.solution (fun _ => True)
      (fun walk request _ =>
        antStep_places chooses state offered walk request)
      pending
      (show (fun _ : AntWalk σ => True) ⟨rng, ctx.tally, 0, []⟩ from trivial)
  have walked :
      (antWalk runtime policy carbonForecast state fallback ctx pending
        rng).solution = assignments := solved
  rw [walked]
  exact plan

/-- The kept solution, if there is one, satisfies the rule. -/
def BestSolution.All (holds : List Assignment → Prop) (best : BestSolution) :
    Prop :=
  ∀ kept ∈ best, holds kept.2

theorem BestSolution.All.none (holds : List Assignment → Prop) :
    BestSolution.All holds none := by
  intro kept member
  cases member

theorem BestSolution.All.improve
    {holds : List Assignment → Prop} {best : BestSolution}
    {solution : List Assignment}
    (kept : best.All holds) (new : holds solution) (cost : ℚ) :
    (best.improve cost solution).All holds := by
  unfold BestSolution.improve
  split
  · intro improved member
    cases Option.mem_some_iff.mp member
    exact new
  · exact kept

theorem BestSolution.All.merge
    {holds : List Assignment → Prop} {best iteration : BestSolution}
    (kept : best.All holds) (iterated : iteration.All holds) :
    (best.merge iteration).All holds := by
  cases iteration with
  | none => exact kept
  | some found => exact kept.improve (iterated found rfl) found.1

theorem BestSolution.improve_isSome
    (best : BestSolution) (cost : ℚ) (solution : List Assignment) :
    (best.improve cost solution).isSome = true := by
  unfold BestSolution.improve
  cases best with
  | none => rfl
  | some kept => split <;> rfl

theorem BestSolution.merge_isSome
    {best iteration : BestSolution} (found : iteration.isSome = true) :
    (best.merge iteration).isSome = true := by
  cases iteration with
  | none => cases found
  | some kept => exact BestSolution.improve_isSome best kept.1 kept.2

section Colony

variable {holds : List Assignment → Prop} {fallback : Flavour}
variable {ctx : SwarmContext}

/-- What every ant satisfies, the best of them does. -/
theorem antColony_all
    (state : OnlineAcoState σ)
    (walks : ∀ rng, holds (antWalk runtime policy carbonForecast state
      fallback ctx pending rng).solution)
    (ants : ℕ) {colony : BestSolution × σ} (kept : colony.1.All holds) :
    BestSolution.All holds
      (antColony runtime policy carbonForecast state fallback ctx pending ants
        colony).1 := by
  induction ants generalizing colony with
  | zero => exact kept
  | succ ants inductionHypothesis =>
      rw [antColony]
      exact inductionHypothesis (kept.improve (walks colony.2) _)

private theorem antColony_isSome
    (state : OnlineAcoState σ) (ants : ℕ) {colony : BestSolution × σ}
    (found : colony.1.isSome = true ∨ 0 < ants) :
    (antColony runtime policy carbonForecast state fallback ctx pending ants
      colony).1.isSome = true := by
  induction ants generalizing colony with
  | zero => exact found.resolve_right (lt_irrefl 0)
  | succ ants inductionHypothesis =>
      rw [antColony]
      exact inductionHypothesis (Or.inl (BestSolution.improve_isSome _ _ _))

/-- What every ant satisfies, the best one of all iterations does. -/
theorem acoIterations_all
    (walks : ∀ (state : OnlineAcoState σ) (rng : σ),
      holds (antWalk runtime policy carbonForecast state fallback ctx pending
        rng).solution)
    (iterations : ℕ) {solving : OnlineAcoState σ × BestSolution}
    (kept : solving.2.All holds) :
    BestSolution.All holds
      ((acoIterate runtime policy carbonForecast fallback ctx
        pending)^[iterations] solving).2 := by
  induction iterations generalizing solving with
  | zero => exact kept
  | succ iterations inductionHypothesis =>
      rw [Function.iterate_succ_apply]
      refine inductionHypothesis (kept.merge ?_)
      exact antColony_all solving.1 (walks solving.1) solving.1.nAnts
        (BestSolution.All.none holds)

/-- Iterations keep the number of ants; with an ant, an iteration finds a
solution. -/
private theorem acoIterations_isSome
    (iterations : ℕ) {solving : OnlineAcoState σ × BestSolution}
    (someAnt : 0 < solving.1.nAnts)
    (found : solving.2.isSome = true ∨ 0 < iterations) :
    ((acoIterate runtime policy carbonForecast fallback ctx
      pending)^[iterations] solving).2.isSome = true := by
  induction iterations generalizing solving with
  | zero => exact found.resolve_right (lt_irrefl 0)
  | succ iterations inductionHypothesis =>
      rw [Function.iterate_succ_apply]
      refine inductionHypothesis someAnt (Or.inl ?_)
      exact BestSolution.merge_isSome
        (antColony_isSome solving.1 solving.1.nAnts (Or.inr someAnt))

end Colony

/-- A colony answers with a plan of the batch or, without ants or iterations,
with nothing. -/
theorem OnlineAcoState.solveBatch_plans
    {learned : OnlineAcoState σ} {carbonForecast : List ℚ}
    {pending : List Request} {ctx : SwarmContext}
    {solved : List Assignment × OnlineAcoState σ}
    (chooses : AcoPicks runtime policy picks)
    (answered : learned.solveBatch runtime policy carbonForecast pending ctx =
      some solved) :
    (solved.1 = [] ∧ (learned.nAnts = 0 ∨ learned.nIterations = 0)) ∨
      Plans policy carbonForecast picks ctx.tally pending solved.1 := by
  obtain ⟨fallback, least, rfl⟩ := Option.map_eq_some_iff.mp answered
  have offered : fallback ∈ policy.flavours := List.argmin_mem least
  have walks : ∀ (state : OnlineAcoState σ) (rng : σ),
      Plans policy carbonForecast picks ctx.tally pending
        (antWalk runtime policy carbonForecast state fallback ctx pending
          rng).solution :=
    fun state rng => antWalk_plans chooses state offered ctx rng
  have plans := acoIterations_all walks learned.nIterations
    (show BestSolution.All _
      ((learned, none) : OnlineAcoState σ × BestSolution).2 from
        BestSolution.All.none _)
  dsimp only
  cases best : ((acoIterate runtime policy carbonForecast fallback ctx
      pending)^[learned.nIterations] (learned, none)).2 with
  | some kept =>
      rw [best] at plans
      exact Or.inr (plans kept rfl)
  | none =>
      refine Or.inl ⟨rfl, ?_⟩
      by_contra positive
      have someAnt : 0 < learned.nAnts := by omega
      have someIteration : 0 < learned.nIterations := by omega
      have found :
          ((acoIterate runtime policy carbonForecast fallback ctx
            pending)^[learned.nIterations] (learned, none)).2.isSome =
              true :=
        acoIterations_isSome learned.nIterations someAnt
          (Or.inr someIteration)
      rw [best] at found
      cases found

/-! ## Solves on a copy -/

/-- The copy as a bandit that explores as often. -/
def BanditClone.withEpsilon (epsilon : ℚ) (work : BanditClone σ) :
    OnlineBanditState σ where
  q := work.q
  n := work.n
  rng := work.rng
  epsilon := epsilon

/-- A merge solve in progress as a serialized one. -/
def serializedSolving (epsilon : ℚ)
    (solving : (BanditClone σ × SwarmTally) × List Assignment) :
    (OnlineBanditState σ × SwarmTally) × List Assignment :=
  ((solving.1.1.withEpsilon epsilon, solving.1.2), solving.2)

private theorem banditLearn_withEpsilon
    (epsilon : ℚ) (work : BanditClone σ) (slot : ℤ) (cost : ℚ) :
    banditLearn (work.withEpsilon epsilon) slot cost =
      (banditLearnMerge work slot cost).withEpsilon epsilon := by
  unfold banditLearn banditLearnMerge BanditClone.withEpsilon
  dsimp only
  cases slotEntry work.n slot with
  | none => rfl
  | some samples => rfl

/-- On its copy, a merge solve does what a serialized solve does in place. -/
private theorem banditStep_serializedSolving
    (runtime : NumericRuntime σ) (policy : AssignmentPolicy)
    (carbonForecast : List ℚ) (epsilon : ℚ) (fallback : Flavour)
    (solving : (BanditClone σ × SwarmTally) × List Assignment)
    (request : Request) :
    banditStep runtime policy carbonForecast fallback
        (serializedSolving epsilon solving) request =
      serializedSolving epsilon
        (banditStepMerge runtime policy carbonForecast epsilon fallback solving
          request) := by
  have chosen :
      banditChoose runtime (serializedSolving epsilon solving).1.1
          (candidateSlots policy request) =
        banditChooseMerge runtime epsilon solving.1.1
          (candidateSlots policy request) := rfl
  unfold banditStep banditStepMerge
  rw [chosen]
  cases banditChooseMerge runtime epsilon solving.1.1
      (candidateSlots policy request) with
  | mk slot rng =>
      cases slot with
      | none => rfl
      | some slot =>
          have learned := banditLearn_withEpsilon epsilon
            { solving.1.1 with rng := rng } slot
            (pickFlavour policy carbonForecast solving.1.2 slot fallback).2
          dsimp only [serializedSolving]
          rw [← learned]
          rfl

/-- A merge solve answers as the serialized one, and its delta is what that
one learns. -/
theorem OnlineBanditState.solveBatchMerge_eq
    (learned : OnlineBanditState σ) (ctx : SwarmContext) :
    learned.solveBatchMerge runtime policy carbonForecast pending ctx =
      (learned.solveBatch runtime policy carbonForecast pending ctx).map
        fun solved => (solved.1, learned.deltaTo solved.2.clone) := by
  unfold solveBatchMerge solveBatch
  rw [Option.map_map]
  refine Option.map_congr fun fallback _ => ?_
  have begun :
      serializedSolving learned.epsilon ((learned.clone, ctx.tally), []) =
        ((learned, ctx.tally), []) := rfl
  have simulated :
      pending.foldl (banditStep runtime policy carbonForecast fallback)
          (serializedSolving learned.epsilon
            ((learned.clone, ctx.tally), [])) =
        serializedSolving learned.epsilon
          (pending.foldl
            (banditStepMerge runtime policy carbonForecast learned.epsilon
              fallback)
            ((learned.clone, ctx.tally), [])) :=
    List.foldl_hom (serializedSolving learned.epsilon)
      (banditStep_serializedSolving runtime policy carbonForecast
        learned.epsilon fallback)
  rw [begun] at simulated
  dsimp only [Function.comp_apply]
  rw [simulated]
  rfl

theorem OnlineBanditState.solveBatchMerge_assignments
    (learned : OnlineBanditState σ) (ctx : SwarmContext) :
    (learned.solveBatchMerge runtime policy carbonForecast pending ctx).map
        Prod.fst =
      (learned.solveBatch runtime policy carbonForecast pending ctx).map
        Prod.fst := by
  rw [learned.solveBatchMerge_eq, Option.map_map]
  rfl

/-- On its copy, a merge solve iterates as a serialized solve. -/
theorem acoIterateMerge_iterate
    (runtime : NumericRuntime σ) (policy : AssignmentPolicy)
    (carbonForecast : List ℚ) (pending : List Request) (fallback : Flavour)
    (ctx : SwarmContext) (iterations : ℕ) (search : MergeSearch σ) :
    (acoIterate runtime policy carbonForecast fallback ctx
        pending)^[iterations] (search.colony, search.best) =
      (((acoIterateMerge runtime policy carbonForecast fallback ctx
          pending)^[iterations] search).colony,
        ((acoIterateMerge runtime policy carbonForecast fallback ctx
          pending)^[iterations] search).best) := by
  induction iterations generalizing search with
  | zero => rfl
  | succ iterations inductionHypothesis =>
      rw [Function.iterate_succ_apply, Function.iterate_succ_apply,
        ← inductionHypothesis]
      rfl

theorem OnlineAcoState.solveBatchMerge_assignments
    (learned : OnlineAcoState σ) (ctx : SwarmContext) :
    (learned.solveBatchMerge runtime policy carbonForecast pending ctx).map
        Prod.fst =
      (learned.solveBatch runtime policy carbonForecast pending ctx).map
        Prod.fst := by
  unfold solveBatchMerge solveBatch
  rw [Option.map_map, Option.map_map]
  refine Option.map_congr fun fallback _ => ?_
  have iterated := acoIterateMerge_iterate runtime policy carbonForecast
    pending fallback ctx learned.nIterations
    (.mk learned none (List.replicate learned.tau.length 0) 1)
  dsimp only [Function.comp_apply] at iterated ⊢
  rw [iterated]

/-- With a flavour, a solve answers. -/
theorem OnlineBanditState.exists_solveBatch
    (learned : OnlineBanditState σ) (runtime : NumericRuntime σ)
    (carbonForecast : List ℚ) (pending : List Request)
    (someFlavour : policy.flavours ≠ []) (ctx : SwarmContext) :
    ∃ solved, learned.solveBatch runtime policy carbonForecast pending ctx =
      some solved := by
  obtain ⟨fallback, least⟩ := List.exists_argmin Flavour.error someFlavour
  rw [solveBatch, least]
  exact ⟨_, rfl⟩

theorem OnlineAcoState.exists_solveBatch
    (learned : OnlineAcoState σ) (runtime : NumericRuntime σ)
    (carbonForecast : List ℚ) (pending : List Request)
    (someFlavour : policy.flavours ≠ []) (ctx : SwarmContext) :
    ∃ solved, learned.solveBatch runtime policy carbonForecast pending ctx =
      some solved := by
  obtain ⟨fallback, least⟩ := List.exists_argmin Flavour.error someFlavour
  rw [solveBatch, least]
  exact ⟨_, rfl⟩

theorem OnlineSwarmState.solveBatchMerge_assignments
    (runtime : NumericRuntime σ) (state : OnlineSwarmState σ)
    (pending : List Request) (slot : ℤ) (carbonForecast : List ℚ)
    (ctx : SwarmContext) (policy : AssignmentPolicy) :
    (state.solveBatchMerge runtime pending slot carbonForecast ctx
        policy).map Prod.fst =
      (state.solveBatch runtime pending slot carbonForecast ctx policy).map
        Prod.fst := by
  cases state with
  | none => rfl
  | bandit learned =>
      rw [solveBatchMerge, solveBatch, Option.map_map, Option.map_map]
      exact learned.solveBatchMerge_assignments ctx
  | aco learned =>
      rw [solveBatchMerge, solveBatch, Option.map_map, Option.map_map]
      exact learned.solveBatchMerge_assignments ctx

theorem OnlineSwarmState.exists_fromConfig
    (runtime : NumericRuntime σ) (solver : SolverConfig) (swarm : SwarmConfig)
    (carbonForecast : List ℚ) (someFlavour : policy.flavours ≠ []) :
    ∃ state, fromConfig runtime solver swarm policy carbonForecast =
      some state := by
  unfold fromConfig
  split
  · exact ⟨_, rfl⟩
  · split
    · obtain ⟨cheapest, shortest⟩ :=
        List.exists_argmin Flavour.duration someFlavour
      rw [OnlineAcoState.new, shortest]
      exact ⟨_, rfl⟩
    · exact ⟨_, rfl⟩

theorem OnlineSwarmState.exists_solveBatch
    (state : OnlineSwarmState σ) (runtime : NumericRuntime σ)
    (pending : List Request) (slot : ℤ) (carbonForecast : List ℚ)
    (ctx : SwarmContext) (someFlavour : policy.flavours ≠ []) :
    ∃ solved, state.solveBatch runtime pending slot carbonForecast ctx policy =
      some solved := by
  cases state with
  | none => exact ⟨_, rfl⟩
  | bandit learned =>
      obtain ⟨solved, answered⟩ := learned.exists_solveBatch runtime
        carbonForecast pending someFlavour ctx
      exact ⟨_, Option.map_eq_some_iff.mpr ⟨solved, answered, rfl⟩⟩
  | aco learned =>
      obtain ⟨solved, answered⟩ := learned.exists_solveBatch runtime
        carbonForecast pending someFlavour ctx
      exact ⟨_, Option.map_eq_some_iff.mpr ⟨solved, answered, rfl⟩⟩

theorem OnlineSwarmState.exists_solveBatchMerge
    (state : OnlineSwarmState σ) (runtime : NumericRuntime σ)
    (pending : List Request) (slot : ℤ) (carbonForecast : List ℚ)
    (ctx : SwarmContext) (someFlavour : policy.flavours ≠ []) :
    ∃ solved,
      state.solveBatchMerge runtime pending slot carbonForecast ctx policy =
        some solved := by
  obtain ⟨solved, answered⟩ := state.exists_solveBatch runtime pending slot
    carbonForecast ctx someFlavour
  have same := state.solveBatchMerge_assignments runtime pending slot
    carbonForecast ctx policy
  rw [answered, Option.map_some, Option.map_eq_some_iff] at same
  obtain ⟨merged, answers, _⟩ := same
  exact ⟨merged, answers⟩

/-- What a merge solve answers is what the serialized solve answers. -/
theorem OnlineSwarmState.solveBatch_of_merge
    {runtime : NumericRuntime σ} (state : OnlineSwarmState σ)
    {pending : List Request} {slot : ℤ} {carbonForecast : List ℚ}
    {ctx : SwarmContext} {policy : AssignmentPolicy}
    {merged : List Assignment × SwarmDelta σ}
    (answered : state.solveBatchMerge runtime pending slot carbonForecast ctx
      policy = some merged) :
    ∃ solved, state.solveBatch runtime pending slot carbonForecast ctx policy =
      some solved ∧ solved.1 = merged.1 := by
  have same := state.solveBatchMerge_assignments runtime pending slot
    carbonForecast ctx policy
  rw [answered, Option.map_some, eq_comm, Option.map_eq_some_iff] at same
  exact same

/-- What holds of the assignments of one answer holds of those of the other. -/
theorem exists_answer_congr {α β γ : Type} {left : Option (α × β)}
    {right : Option (α × γ)}
    (same : left.map Prod.fst = right.map Prod.fst) (holds : α → Prop) :
    (∃ answer ∈ left, holds answer.1) ↔ ∃ answer ∈ right, holds answer.1 := by
  cases left with
  | none =>
      cases right with
      | none => simp
      | some answer => simp at same
  | some answer =>
      cases right with
      | none => simp at same
      | some other =>
          have equal : answer.1 = other.1 := Option.some.inj same
          simp [equal]

end Solvers

/-! ## Slots a request may still use -/

section Timeliness

variable {policy : AssignmentPolicy}

/-- Neither before the arrival nor in the past. -/
def firstUsableSlot (currentSlot : ℤ) (request : Request) : ℤ :=
  max request.arrivalSlot currentSlot

/-- The deadline, or the current slot once it has passed, within the
horizon. -/
def lastUsableSlot (totalSlots currentSlot : ℤ) (request : Request) : ℤ :=
  min (max request.deadlineSlot currentSlot) (totalSlots - 1)

/-- The slot is usable, unless the request has no usable slot at all. -/
def UsableSlot (totalSlots currentSlot : ℤ) (request : Request) (slot : ℤ) :
    Prop :=
  firstUsableSlot currentSlot request ≤
      lastUsableSlot totalSlots currentSlot request →
    firstUsableSlot currentSlot request ≤ slot ∧
      slot ≤ lastUsableSlot totalSlots currentSlot request

instance (totalSlots currentSlot : ℤ) (request : Request) (slot : ℤ) :
    Decidable (UsableSlot totalSlots currentSlot request slot) :=
  inferInstanceAs (Decidable (_ → _))

/-- Every request of the batch is assigned exactly once, to a usable slot. -/
def SchedulesInTime (totalSlots currentSlot : ℤ) (pending : List Request)
    (assignments : List Assignment) : Prop :=
  List.Forall₂
    (fun request assignment =>
      assignment.requestId = request.id ∧
        UsableSlot totalSlots currentSlot request assignment.scheduledSlot)
    pending assignments

instance (totalSlots currentSlot : ℤ) (pending : List Request)
    (assignments : List Assignment) :
    Decidable (SchedulesInTime totalSlots currentSlot pending assignments) :=
  inferInstanceAs (Decidable (List.Forall₂ _ _ _))

/-- No request that still has a usable slot arrived before the current
slot. -/
def NoLateRequest (totalSlots currentSlot : ℤ) (pending : List Request) :
    Prop :=
  ∀ request ∈ pending,
    firstUsableSlot currentSlot request ≤
        lastUsableSlot totalSlots currentSlot request →
      currentSlot ≤ request.arrivalSlot

/-- The candidates of a request that is not late are usable. -/
theorem usableSlot_of_mem_candidateSlots
    {currentSlot : ℤ} {request : Request} {slot : ℤ}
    (punctual :
      firstUsableSlot currentSlot request ≤
          lastUsableSlot policy.totalSlots currentSlot request →
        currentSlot ≤ request.arrivalSlot)
    (candidate : slot ∈ candidateSlots policy request) :
    UsableSlot policy.totalSlots currentSlot request slot := by
  intro usable
  have notLate := punctual usable
  have bounds := mem_slotRange.mp candidate
  unfold firstUsableSlot lastUsableSlot at usable ⊢
  omega

theorem Plans.schedulesInTime
    {carbonForecast : List ℚ} {tally : SwarmTally} {currentSlot : ℤ}
    {pending : List Request} {assignments : List Assignment}
    (plan : Plans policy carbonForecast
      (fun request slot => slot ∈ candidateSlots policy request) tally pending
      assignments)
    (punctual : NoLateRequest policy.totalSlots currentSlot pending) :
    SchedulesInTime policy.totalSlots currentSlot pending assignments := by
  have placed := plan.forall₂
  refine List.Forall₂.imp ?_ 
    ((List.forall₂_and_left _ _).mpr ⟨punctual, placed⟩)
  rintro request assignment ⟨notLate, sameId, candidate⟩
  exact ⟨sameId, usableSlot_of_mem_candidateSlots notLate candidate⟩

/-- A solver that always assigns the arrival slot exposes every late
request. -/
theorem Plans.noLateRequest
    {carbonForecast : List ℚ} {tally : SwarmTally} {currentSlot : ℤ}
    {pending : List Request} {assignments : List Assignment}
    (plan : Plans policy carbonForecast
      (fun request slot => slot = request.arrivalSlot) tally pending
      assignments)
    (inTime :
      SchedulesInTime policy.totalSlots currentSlot pending assignments) :
    NoLateRequest policy.totalSlots currentSlot pending := by
  induction plan with
  | nil tally =>
      intro request member
      cases member
  | cons picked _ _ inductionHypothesis =>
      cases inTime with
      | cons first rest =>
          intro request member usable
          rcases List.mem_cons.mp member with rfl | later
          · have bounds := first.2 usable
            have assigned := bounds.1
            simp only [makeAssignment, Assignment.new, picked] at assigned
            exact (le_max_right _ _).trans assigned
          · exact inductionHypothesis rest request later usable

/-- Epsilon one and least draws: the bandit picks the first candidate. -/
private theorem banditPicks_arrival (policy : AssignmentPolicy) :
    BanditPicks NumericRuntime.least policy
      (fun request slot => slot = request.arrivalSlot) 1 := by
  intro state request exploring
  refine ⟨request.arrivalSlot, rfl, ?_⟩
  simpa [banditChoose, NumericRuntime.least, exploring] using
    candidateSlots_head policy request

/-- Equal weights and least draws: the roulette stops at the first
candidate. -/
private theorem acoPicks_arrival (policy : AssignmentPolicy) :
    AcoPicks NumericRuntime.least policy
      (fun request slot => slot = request.arrivalSlot) := by
  intro state rng request
  refine ⟨request.arrivalSlot, rfl, ?_⟩
  have head := candidateSlots_head policy request
  cases candidates : candidateSlots policy request with
  | nil => exact absurd candidates (candidateSlots_ne_nil policy request)
  | cons first rest =>
      have sameHead : first = request.arrivalSlot := by
        simpa [candidates] using head
      have weighty :
          ¬ ((first :: rest).map
            (acoWeight NumericRuntime.least state)).sum ≤ 0 := by
        have positive :
            0 ≤ (rest.map (acoWeight NumericRuntime.least state)).sum := by
          refine List.sum_nonneg ?_
          intro weight member
          obtain ⟨slot, _, rfl⟩ := List.mem_map.mp member
          simp [acoWeight, NumericRuntime.least]
        have one : acoWeight NumericRuntime.least state first = 1 := by
          simp [acoWeight, NumericRuntime.least]
        rw [List.map_cons, List.sum_cons, one]
        linarith
      unfold acoChoose
      simp only [if_neg weighty]
      simp [NumericRuntime.least, spinWheel, acoWeight, sameHead]

/-- A bandit that explores. -/
def exploringBandit : OnlineBanditState Unit where
  q := []
  n := []
  rng := ()
  epsilon := 1

/-- A colony of one ant. -/
def singleAnt : OnlineAcoState Unit where
  tau := []
  eta := []
  rng := ()
  nAnts := 1
  nIterations := 1
  alpha := 1
  beta := 1
  rho := 0
  qDeposit := 1

/-- Each of the four solvers keeps to the usable slots, whatever it has learned
and draws, exactly when no request of the batch is late. -/
theorem solveBatch_schedulesInTime_iff
    (policy : AssignmentPolicy) (someFlavour : policy.flavours ≠ [])
    (carbonForecast : List ℚ) (ctx : SwarmContext) (pending : List Request)
    (currentSlot : ℤ) :
    ((∀ (σ : Type) (runtime : NumericRuntime σ)
          (learned : OnlineBanditState σ),
        ∃ solved ∈ OnlineSwarmState.solveBatch runtime (.bandit learned)
            pending currentSlot carbonForecast ctx policy,
          SchedulesInTime policy.totalSlots currentSlot pending solved.1) ↔
        NoLateRequest policy.totalSlots currentSlot pending) ∧
      ((∀ (σ : Type) (runtime : NumericRuntime σ)
          (learned : OnlineBanditState σ),
        ∃ solved ∈ OnlineSwarmState.solveBatchMerge runtime (.bandit learned)
            pending currentSlot carbonForecast ctx policy,
          SchedulesInTime policy.totalSlots currentSlot pending solved.1) ↔
        NoLateRequest policy.totalSlots currentSlot pending) ∧
      ((∀ (σ : Type) (runtime : NumericRuntime σ)
          (learned : OnlineAcoState σ),
        0 < learned.nAnts → 0 < learned.nIterations →
        ∃ solved ∈ OnlineSwarmState.solveBatch runtime (.aco learned)
            pending currentSlot carbonForecast ctx policy,
          SchedulesInTime policy.totalSlots currentSlot pending solved.1) ↔
        NoLateRequest policy.totalSlots currentSlot pending) ∧
      ((∀ (σ : Type) (runtime : NumericRuntime σ)
          (learned : OnlineAcoState σ),
        0 < learned.nAnts → 0 < learned.nIterations →
        ∃ solved ∈ OnlineSwarmState.solveBatchMerge runtime (.aco learned)
            pending currentSlot carbonForecast ctx policy,
          SchedulesInTime policy.totalSlots currentSlot pending solved.1) ↔
        NoLateRequest policy.totalSlots currentSlot pending) := by
  have bandit :
      (∀ (σ : Type) (runtime : NumericRuntime σ)
          (learned : OnlineBanditState σ),
        ∃ solved ∈ OnlineSwarmState.solveBatch runtime (.bandit learned)
            pending currentSlot carbonForecast ctx policy,
          SchedulesInTime policy.totalSlots currentSlot pending solved.1) ↔
        NoLateRequest policy.totalSlots currentSlot pending := by
    constructor
    · intro inTime
      obtain ⟨_, solved, scheduled⟩ :=
        inTime Unit NumericRuntime.least exploringBandit
      obtain ⟨_, answered, rfl⟩ := Option.map_eq_some_iff.mp solved
      exact (OnlineBanditState.solveBatch_plans (banditPicks_arrival policy)
        answered).noLateRequest scheduled
    · intro punctual σ runtime learned
      obtain ⟨solved, answered⟩ := learned.exists_solveBatch runtime
        carbonForecast pending someFlavour ctx
      refine ⟨_, Option.map_eq_some_iff.mpr ⟨solved, answered, rfl⟩, ?_⟩
      exact (OnlineBanditState.solveBatch_plans
        (banditPicks_candidate runtime policy learned.epsilon)
        answered).schedulesInTime punctual
  have aco :
      (∀ (σ : Type) (runtime : NumericRuntime σ)
          (learned : OnlineAcoState σ),
        0 < learned.nAnts → 0 < learned.nIterations →
        ∃ solved ∈ OnlineSwarmState.solveBatch runtime (.aco learned)
            pending currentSlot carbonForecast ctx policy,
          SchedulesInTime policy.totalSlots currentSlot pending solved.1) ↔
        NoLateRequest policy.totalSlots currentSlot pending := by
    constructor
    · intro inTime
      obtain ⟨_, solved, scheduled⟩ :=
        inTime Unit NumericRuntime.least singleAnt Nat.one_pos Nat.one_pos
      obtain ⟨_, answered, rfl⟩ := Option.map_eq_some_iff.mp solved
      rcases OnlineAcoState.solveBatch_plans (acoPicks_arrival policy) answered
        with ⟨_, noAnt | noIteration⟩ | plan
      · cases noAnt
      · cases noIteration
      · exact plan.noLateRequest scheduled
    · intro punctual σ runtime learned someAnt someIteration
      obtain ⟨solved, answered⟩ := learned.exists_solveBatch runtime
        carbonForecast pending someFlavour ctx
      refine ⟨_, Option.map_eq_some_iff.mpr ⟨solved, answered, rfl⟩, ?_⟩
      rcases OnlineAcoState.solveBatch_plans
        (acoPicks_candidate runtime policy) answered with
        ⟨_, noAnt | noIteration⟩ | plan
      · omega
      · omega
      · exact plan.schedulesInTime punctual
  have merge : ∀ {σ : Type} (runtime : NumericRuntime σ)
      (learned : OnlineSwarmState σ),
      (∃ solved ∈ learned.solveBatchMerge runtime pending currentSlot
          carbonForecast ctx policy,
        SchedulesInTime policy.totalSlots currentSlot pending solved.1) ↔
      ∃ solved ∈ learned.solveBatch runtime pending currentSlot carbonForecast
          ctx policy,
        SchedulesInTime policy.totalSlots currentSlot pending solved.1 := by
    intro σ runtime learned
    exact exists_answer_congr
      (learned.solveBatchMerge_assignments runtime pending currentSlot
        carbonForecast ctx policy)
      (SchedulesInTime policy.totalSlots currentSlot pending)
  refine ⟨bandit, ?_, aco, ?_⟩
  · simpa only [merge] using bandit
  · simpa only [merge] using aco

/-- Two requests that arrive at the current slot or later. -/
theorem solveBatch_schedulesInTime_iff_punctual :
    ∃ solved ∈ OnlineSwarmState.solveBatchMerge .least (.aco singleAnt)
        [.new 0 7 2 1, .new 0 8 3 9] 2 []
        (SharedState.new.swarmContextSnapshotForProfile none)
        Config.default.assignmentPolicy,
      SchedulesInTime 24 2 [.new 0 7 2 1, .new 0 8 3 9] solved.1 :=
  (solveBatch_schedulesInTime_iff Config.default.assignmentPolicy
    (List.cons_ne_nil _ _) []
    (SharedState.new.swarmContextSnapshotForProfile none)
    [.new 0 7 2 1, .new 0 8 3 9] 2).2.2.2.mpr
    (by
      intro request member _
      simp only [List.mem_cons, List.not_mem_nil, or_false] at member
      rcases member with rfl | rfl <;> decide)
    Unit .least singleAnt Nat.one_pos Nat.one_pos

/-- A request whose deadline has passed could still use the current slot; all
four solvers put it in the past. -/
theorem solveBatch_schedules_late_request_in_the_past :
    firstUsableSlot 2 (.new 0 7 0 0) ≤ lastUsableSlot 24 2 (.new 0 7 0 0) ∧
      (∃ solved ∈ OnlineSwarmState.solveBatch .least (.bandit exploringBandit)
          [.new 0 7 0 0] 2 []
          (SharedState.new.swarmContextSnapshotForProfile none)
          Config.default.assignmentPolicy,
        ¬ SchedulesInTime 24 2 [.new 0 7 0 0] solved.1) ∧
      (∃ solved ∈ OnlineSwarmState.solveBatchMerge .least
          (.bandit exploringBandit) [.new 0 7 0 0] 2 []
          (SharedState.new.swarmContextSnapshotForProfile none)
          Config.default.assignmentPolicy,
        ¬ SchedulesInTime 24 2 [.new 0 7 0 0] solved.1) ∧
      (∃ solved ∈ OnlineSwarmState.solveBatch .least (.aco singleAnt)
          [.new 0 7 0 0] 2 []
          (SharedState.new.swarmContextSnapshotForProfile none)
          Config.default.assignmentPolicy,
        ¬ SchedulesInTime 24 2 [.new 0 7 0 0] solved.1) ∧
      ∃ solved ∈ OnlineSwarmState.solveBatchMerge .least (.aco singleAnt)
          [.new 0 7 0 0] 2 []
          (SharedState.new.swarmContextSnapshotForProfile none)
          Config.default.assignmentPolicy,
        ¬ SchedulesInTime 24 2 [.new 0 7 0 0] solved.1 := by
  decide +kernel

end Timeliness

end Carbonshift
