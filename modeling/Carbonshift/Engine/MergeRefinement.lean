import Carbonshift.Engine.BanditMerge
import Carbonshift.Library.AffineDecay

/-!
# A merge solve without concurrency

A worker solves on a copy of the learned state and merges a delta.  If nothing
else is merged in between, this is a serialized solve.  For the colony the
delta is the affine part of what the copy went through, so only the floor of
the pheromone makes a difference.
-/

namespace Carbonshift

variable {σ : Type}

/-! ## Deposits -/

/-- What the best ant of an iteration leaves on a slot. -/
def depositOn (qDeposit : ℚ) (best : BestSolution) (slot : ℕ) : ℚ :=
  match best, depositAmount qDeposit best with
  | some kept, some deposit =>
      (kept.2.countP fun assignment =>
        decide (assignment.scheduledSlot = (slot : ℤ))) * deposit
  | _, _ => 0

theorem depositOn_nonneg {qDeposit : ℚ} (nonneg : 0 ≤ qDeposit)
    (best : BestSolution) (slot : ℕ) : 0 ≤ depositOn qDeposit best slot := by
  cases best with
  | none => exact le_rfl
  | some kept =>
      unfold depositOn depositAmount
      by_cases positive : 0 < kept.1
      · simp only [if_pos positive]
        exact mul_nonneg (Nat.cast_nonneg _) (div_nonneg nonneg positive.le)
      · simp only [if_neg positive]
        exact le_rfl

private theorem deposits_spec (deposit : ℚ) (solution : List Assignment)
    (levels : List ℚ) :
    (solution.foldl
        (fun levels assignment =>
          modifySlot levels assignment.scheduledSlot (· + deposit))
        levels).length = levels.length ∧
      ∀ slot, slot < levels.length →
        (solution.foldl
            (fun levels assignment =>
              modifySlot levels assignment.scheduledSlot (· + deposit))
            levels).getD slot 0 =
          levels.getD slot 0 +
            (solution.countP fun assignment =>
              decide (assignment.scheduledSlot = (slot : ℤ))) * deposit := by
  induction solution generalizing levels with
  | nil =>
      refine ⟨rfl, fun slot _ => ?_⟩
      simp
  | cons assignment rest inductionHypothesis =>
      obtain ⟨kept, deposited⟩ := inductionHypothesis
        (modifySlot levels assignment.scheduledSlot (· + deposit))
      rw [length_modifySlot] at kept deposited
      refine ⟨kept, fun slot inside => ?_⟩
      rw [List.foldl_cons, deposited slot inside,
        getD_modifySlot _ _ _ inside, List.countP_cons]
      by_cases here : assignment.scheduledSlot = slot
      · simp only [here, decide_true, if_true]
        push_cast
        ring
      · simp only [here, decide_false, Bool.false_eq_true, if_false,
          Nat.add_zero]

@[simp]
theorem length_addDeposits (qDeposit : ℚ) (best : BestSolution)
    (levels : List ℚ) :
    (addDeposits qDeposit best levels).length = levels.length := by
  unfold addDeposits
  split
  · exact (deposits_spec _ _ levels).1
  · rfl

theorem getD_addDeposits (qDeposit : ℚ) (best : BestSolution)
    (levels : List ℚ) {slot : ℕ} (inside : slot < levels.length) :
    (addDeposits qDeposit best levels).getD slot 0 =
      levels.getD slot 0 + depositOn qDeposit best slot := by
  unfold addDeposits depositOn
  cases best with
  | none => exact (add_zero _).symm
  | some kept =>
      cases depositAmount qDeposit (some kept) with
      | none => exact (add_zero _).symm
      | some deposit => exact (deposits_spec deposit kept.2 levels).2 slot inside

/-! ## The copy and its transform -/

namespace MergeSearch

/-- The transform of a slot that the search has accumulated. -/
def transform (search : MergeSearch σ) (slot : ℕ) : AffineDecay ℚ where
  factor := search.evapFactor
  offset := search.depositAcc.getD slot 0

/-- The copy is the start up to pheromone and generator, and its pheromone is
that of the transform up to the floor. -/
structure Tracks (start : OnlineAcoState σ) (search : MergeSearch σ) :
    Prop where
  colony_eq : search.colony =
    { start with tau := search.colony.tau, rng := search.colony.rng }
  length_tau : search.colony.tau.length = start.tau.length
  length_depositAcc : search.depositAcc.length = start.tau.length
  level : ∀ slot, slot < start.tau.length →
    WithinFloor tauFloor
      ((search.transform slot).apply (start.tau.getD slot 0))
      (search.colony.tau.getD slot 0)

end MergeSearch

theorem tauFloor_nonneg : 0 ≤ tauFloor := by
  unfold tauFloor
  positivity

namespace OnlineAcoState

/-- Evaporation and deposits keep the pheromone non-negative. -/
structure Sound (state : OnlineAcoState σ) : Prop where
  rho_nonneg : 0 ≤ state.rho
  rho_le_one : state.rho ≤ 1
  qDeposit_nonneg : 0 ≤ state.qDeposit
  tau_nonneg : ∀ level ∈ state.tau, 0 ≤ level

variable {start : OnlineAcoState σ}

theorem Sound.getD_tau_nonneg (sound : start.Sound) (slot : ℕ) :
    0 ≤ start.tau.getD slot 0 := by
  by_cases inside : slot < start.tau.length
  · rw [List.getD_eq_getElem _ _ inside]
    exact sound.tau_nonneg _ (List.getElem_mem inside)
  · rw [List.getD_eq_default _ _ (not_lt.mp inside)]

/-- Before the first iteration, the transform is the identity. -/
theorem Sound.tracks (sound : start.Sound) :
    MergeSearch.Tracks start
      { colony := start
        best := none
        depositAcc := List.replicate start.tau.length 0
        evapFactor := 1 } := by
  refine ⟨rfl, rfl, List.length_replicate, fun slot inside => ?_⟩
  have identity : MergeSearch.transform
      { colony := start
        best := none
        depositAcc := List.replicate start.tau.length 0
        evapFactor := 1 } slot = AffineDecay.identity := by
    rw [MergeSearch.transform, List.getD_replicate _ inside]
    rfl
  rw [identity, AffineDecay.apply_identity]
  exact .refl tauFloor_nonneg (sound.getD_tau_nonneg slot)

end OnlineAcoState

section Search

variable {runtime : NumericRuntime σ} {policy : AssignmentPolicy}
variable {carbonForecast : List ℚ} {fallback : Flavour} {ctx : SwarmContext}
variable {pending : List Request}
variable {start : OnlineAcoState σ} {search : MergeSearch σ}

/-- An iteration decays the copy and its transform alike. -/
theorem MergeSearch.Tracks.iterate (tracks : Tracks start search)
    (sound : start.Sound) :
    Tracks start
      (acoIterateMerge runtime policy carbonForecast fallback ctx pending
        search) := by
  have rho_eq : search.colony.rho = start.rho := by
    rw [tracks.colony_eq]
  have qDeposit_eq : search.colony.qDeposit = start.qDeposit := by
    rw [tracks.colony_eq]
  unfold acoIterateMerge
  dsimp only
  generalize (antColony runtime policy carbonForecast search.colony fallback
    ctx pending search.colony.nAnts (none, search.colony.rng)) = colony
  refine ⟨?_, ?_, ?_, fun slot inside => ?_⟩
  · dsimp only
    rw [tracks.colony_eq]
  · rw [length_addDeposits, List.length_map]
    exact tracks.length_tau
  · rw [length_addDeposits, List.length_map]
    exact tracks.length_depositAcc
  · have insideTau : slot < search.colony.tau.length :=
      tracks.length_tau.symm ▸ inside
    have insideAcc : slot < search.depositAcc.length :=
      tracks.length_depositAcc.symm ▸ inside
    have decayed := (tracks.level slot inside).decay tauFloor_nonneg
      (sub_nonneg.mpr sound.rho_le_one)
      (sub_le_self 1 sound.rho_nonneg)
      (depositOn_nonneg sound.qDeposit_nonneg colony.1 slot)
    rw [← AffineDecay.apply_decay] at decayed
    have transformed :
        (search.transform slot).decay (1 - start.rho)
            (depositOn start.qDeposit colony.1 slot) =
          ⟨search.evapFactor * (1 - search.colony.rho),
            (addDeposits search.colony.qDeposit colony.1
              (search.depositAcc.map (· * (1 - search.colony.rho)))).getD
                slot 0⟩ := by
      rw [getD_addDeposits _ _ _ (by rwa [List.length_map]),
        List.getD_map_of_lt _ insideAcc 0, rho_eq, qDeposit_eq]
      rfl
    have level :
        decayAbove tauFloor (1 - start.rho)
            (depositOn start.qDeposit colony.1 slot)
            (search.colony.tau.getD slot 0) =
          (addDeposits search.colony.qDeposit colony.1
            (search.colony.tau.map fun level =>
              max (level * (1 - search.colony.rho)) tauFloor)).getD
                slot 0 := by
      rw [getD_addDeposits _ _ _ (by rwa [List.length_map]),
        List.getD_map_of_lt _ insideTau 0, rho_eq, qDeposit_eq]
      rfl
    rw [transformed, level] at decayed
    exact decayed

theorem MergeSearch.Tracks.iterations (tracks : Tracks start search)
    (sound : start.Sound) (iterations : ℕ) :
    Tracks start
      ((acoIterateMerge runtime policy carbonForecast fallback ctx
        pending)^[iterations] search) :=
  Function.Iterate.rec (Tracks start) tracks
    (fun _ tracked => tracked.iterate sound) iterations

end Search

/-! ## Merging at once -/

namespace OnlineBanditState

variable {runtime : NumericRuntime σ} {policy : AssignmentPolicy}
variable {carbonForecast : List ℚ} {pending : List Request}
variable {ctx : SwarmContext} {slots : ℕ}

/-- The samples of a batch, absorbed together, are those that were added one
by one. -/
theorem mergeDelta_deltaTo {start : OnlineBanditState σ}
    (sized : start.Sized slots)
    {solved : List Assignment × OnlineBanditState σ}
    (answered : start.solveBatch runtime policy carbonForecast pending ctx =
      some solved) :
    start.mergeDelta (start.deltaTo solved.2.clone) = solved.2 := by
  have learns := solveBatch_learns sized answered
  have carries := deltaTo_carries sized learns
  have means : ∀ slot, slot < slots →
      (start.mergeDelta (start.deltaTo solved.2.clone)).slotMean slot =
        solved.2.slotMean slot := by
    intro slot inside
    rw [slotMean_mergeDelta sized _ inside, carries slot inside,
      RunningMean.absorb_samples, learns.slotMean_eq slot inside]
  obtain ⟨estimates, counts⟩ :=
    tables_eq_of_slotMean (sized.mergeDelta _) learns.sized means
  have epsilons := learns.epsilon_eq
  obtain ⟨assignments, after⟩ := solved
  cases after
  simp only [mergeDelta, deltaTo, clone] at *
  rw [estimates, counts, epsilons]

end OnlineBanditState

namespace OnlineAcoState

variable {runtime : NumericRuntime σ} {policy : AssignmentPolicy}
variable {carbonForecast : List ℚ} {pending : List Request}
variable {ctx : SwarmContext} {start : OnlineAcoState σ}

/-- Same colony, and the same pheromone up to the floor. -/
structure AgreesUpToFloor (merged serialized : OnlineAcoState σ) : Prop where
  same : merged = { serialized with tau := merged.tau }
  length_tau : merged.tau.length = serialized.tau.length
  near : ∀ slot, slot < serialized.tau.length →
    |merged.tau.getD slot 0 - serialized.tau.getD slot 0| ≤ tauFloor

/-- Merging what the search has accumulated gives its copy. -/
theorem mergeDelta_agrees {search : MergeSearch σ}
    (tracks : MergeSearch.Tracks start search) :
    AgreesUpToFloor
      (start.mergeDelta
        { evapFactor := search.evapFactor
          deposit := search.depositAcc
          rngAfter := search.colony.rng })
      search.colony := by
  refine ⟨?_, ?_, fun slot inside => ?_⟩
  · rw [tracks.colony_eq]
    rfl
  · rw [tracks.length_tau, mergeDelta, List.length_map, List.length_range]
  · rw [tracks.length_tau] at inside
    rw [mergeDelta, List.getD_map_range _ inside]
    exact (tracks.level slot inside).abs_sub_le tauFloor_nonneg

/-- Both colonies panic, or they answer alike and leave the pheromone alike. -/
theorem solveBatchMerge_refines (sound : start.Sound) :
    Option.Rel
      (fun merged serialized =>
        merged.1 = serialized.1 ∧
          AgreesUpToFloor (start.mergeDelta merged.2) serialized.2)
      (start.solveBatchMerge runtime policy carbonForecast pending ctx)
      (start.solveBatch runtime policy carbonForecast pending ctx) := by
  unfold solveBatchMerge solveBatch
  cases policy.flavours.argmin Flavour.error with
  | none => exact .none
  | some fallback =>
      have iterated := acoIterateMerge_iterate runtime policy carbonForecast
        pending fallback ctx start.nIterations
        (.mk start none (List.replicate start.tau.length 0) 1)
      refine .some ?_
      dsimp only at iterated ⊢
      rw [iterated]
      exact ⟨rfl, mergeDelta_agrees (sound.tracks.iterations sound _)⟩

end OnlineAcoState

namespace OnlineSwarmState

/-- The tables of a bandit have the same length, and a colony is sound. -/
def Sound : OnlineSwarmState σ → Prop
  | .none => True
  | .bandit learned => learned.n.length = learned.q.length
  | .aco learned => learned.Sound

/-- Equal, up to the floor of the pheromone. -/
def AgreesUpToFloor : OnlineSwarmState σ → OnlineSwarmState σ → Prop
  | .none, .none => True
  | .bandit merged, .bandit serialized => merged = serialized
  | .aco merged, .aco serialized => merged.AgreesUpToFloor serialized
  | _, _ => False

/-- The configured state is sound for sound parameters. -/
theorem sound_fromConfig (runtime : NumericRuntime σ)
    (solver : SolverConfig) (swarm : SwarmConfig) (policy : AssignmentPolicy)
    (carbonForecast : List ℚ) (rho_nonneg : 0 ≤ swarm.acoRho)
    (rho_le_one : swarm.acoRho ≤ 1) (q_nonneg : 0 ≤ swarm.acoQ)
    (tau0_nonneg : 0 ≤ swarm.acoTau0) :
    ∀ state ∈ fromConfig runtime solver swarm policy carbonForecast,
      state.Sound := by
  intro state configured
  unfold fromConfig at configured
  split at configured
  · cases configured
    simp [Sound, OnlineBanditState.new]
  · split at configured
    · obtain ⟨learned, colony, rfl⟩ := Option.map_eq_some_iff.mp configured
      obtain ⟨cheapest, _, rfl⟩ := Option.map_eq_some_iff.mp colony
      refine ⟨rho_nonneg, rho_le_one, q_nonneg, fun level member => ?_⟩
      rw [List.eq_of_mem_replicate member]
      exact tau0_nonneg
    · cases configured
      trivial

variable {runtime : NumericRuntime σ} {state : OnlineSwarmState σ}

/-- Merges keep the state sound. -/
theorem Sound.mergeDelta (sound : state.Sound) (delta : SwarmDelta σ) :
    (state.mergeDelta delta).Sound := by
  cases state with
  | none => cases delta <;> exact sound
  | bandit learned =>
      cases delta with
      | bandit change =>
          simp [OnlineSwarmState.mergeDelta, OnlineBanditState.mergeDelta,
            Sound]
      | none => exact sound
      | aco change => exact sound
  | aco learned =>
      cases delta with
      | aco change =>
          refine ⟨sound.rho_nonneg, sound.rho_le_one, sound.qDeposit_nonneg,
            fun level member => ?_⟩
          obtain ⟨slot, _, rfl⟩ := List.mem_map.mp member
          exact tauFloor_nonneg.trans (le_max_right _ _)
      | none => exact sound
      | bandit change => exact sound

/-- A merge solve whose delta is merged at once proposes what the serialized
solve proposes, and leaves the learned state where that leaves it. -/
theorem merge_refines_serialized (runtime : NumericRuntime σ)
    (state : OnlineSwarmState σ) (sound : state.Sound)
    (pending : List Request) (slot : ℤ) (carbonForecast : List ℚ)
    (ctx : SwarmContext) (policy : AssignmentPolicy) :
    Option.Rel
      (fun merged serialized =>
        merged.1 = serialized.1 ∧
          AgreesUpToFloor (state.mergeDelta merged.2) serialized.2)
      (state.solveBatchMerge runtime pending slot carbonForecast ctx policy)
      (state.solveBatch runtime pending slot carbonForecast ctx policy) := by
  cases state with
  | none => exact .some ⟨rfl, trivial⟩
  | bandit learned =>
      rw [solveBatchMerge, solveBatch, learned.solveBatchMerge_eq]
      cases answered : learned.solveBatch runtime policy carbonForecast pending
          ctx with
      | none => exact .none
      | some solved =>
          exact .some ⟨rfl,
            OnlineBanditState.mergeDelta_deltaTo ⟨rfl, sound⟩ answered⟩
  | aco learned =>
      have refines : Option.Rel _
          (learned.solveBatchMerge runtime policy carbonForecast pending ctx)
          (learned.solveBatch runtime policy carbonForecast pending ctx) :=
        OnlineAcoState.solveBatchMerge_refines sound
      rw [solveBatchMerge, solveBatch]
      generalize learned.solveBatchMerge runtime policy carbonForecast pending
        ctx = merging at refines ⊢
      generalize learned.solveBatch runtime policy carbonForecast pending ctx =
        solving at refines ⊢
      cases refines with
      | none => exact .none
      | some related => exact .some related

/-- Two iterations of one ant on a slot without pheromone. -/
def bareColony : OnlineAcoState Unit :=
  { singleAnt with tau := [0, 2], rho := 1 / 2, nIterations := 2 }

theorem bareColony_merge_refines_serialized :
    (OnlineSwarmState.aco bareColony).Sound ∧
      ∃ merged serialized,
        OnlineSwarmState.solveBatchMerge .least (.aco bareColony)
            [.new 0 1 0 1] 0 [1, 1]
            (SharedState.new.swarmContextSnapshotForProfile Option.none)
            Config.default.assignmentPolicy = some merged ∧
          OnlineSwarmState.solveBatch .least (.aco bareColony) [.new 0 1 0 1]
            0 [1, 1]
            (SharedState.new.swarmContextSnapshotForProfile Option.none)
            Config.default.assignmentPolicy = some serialized ∧
          merged.1 = serialized.1 ∧
          AgreesUpToFloor
            (OnlineSwarmState.mergeDelta (.aco bareColony) merged.2)
            serialized.2 := by
  have sound : (OnlineSwarmState.aco bareColony).Sound :=
    ⟨by decide +kernel, by decide +kernel, by decide +kernel,
      by decide +kernel⟩
  refine ⟨sound, ?_⟩
  have refines := merge_refines_serialized .least (.aco bareColony) sound
    [.new 0 1 0 1] 0 [1, 1]
    (SharedState.new.swarmContextSnapshotForProfile Option.none)
    Config.default.assignmentPolicy
  have answers : (OnlineSwarmState.solveBatch .least (.aco bareColony)
      [.new 0 1 0 1] 0 [1, 1]
      (SharedState.new.swarmContextSnapshotForProfile Option.none)
      Config.default.assignmentPolicy).isSome = true := by
    decide +kernel
  generalize OnlineSwarmState.solveBatchMerge .least (.aco bareColony) _ _ _ _
    _ = merging at refines ⊢
  generalize OnlineSwarmState.solveBatch .least (.aco bareColony) _ _ _ _ _ =
    solving at refines answers ⊢
  cases refines with
  | none => cases answers
  | some related => exact ⟨_, _, rfl, rfl, related⟩

end OnlineSwarmState

end Carbonshift
