import Carbonshift.Engine.SwarmPlacement
import Carbonshift.Library.ListFacts
import Carbonshift.Library.RunningMean
import Carbonshift.Library.Transition
import Mathlib.Data.List.GetD

/-!
# Merging what the bandits learn

The estimate of a slot is a running mean.  A batch learns on its copy of the
estimates, and its delta is the number and the sum of the new samples, so
merging the deltas adds these samples and nothing else.
-/

namespace Carbonshift

variable {σ : Type}

theorem getD_modifySlot {α : Type} (values : List α) (slot : ℤ)
    (update : α → α) {position : ℕ} (inside : position < values.length)
    (default : α) :
    (modifySlot values slot update).getD position default =
      if slot = position then
        update (values.getD position default)
      else
        values.getD position default := by
  unfold modifySlot
  by_cases negative : slot < 0
  · rw [if_pos negative, if_neg (by omega)]
  · rw [if_neg negative, List.getD_eq_getElem?_getD, List.getElem?_modify,
      List.getElem?_eq_getElem inside, List.getD_eq_getElem _ _ inside]
    by_cases here : slot = position
    · rw [if_pos here, here, Int.toNat_natCast]
      simp
    · have elsewhere : slot.toNat ≠ position := by omega
      rw [if_neg here]
      simp [elsewhere]

@[simp]
theorem length_modifySlot {α : Type} (values : List α) (slot : ℤ)
    (update : α → α) :
    (modifySlot values slot update).length = values.length := by
  unfold modifySlot
  split
  · rfl
  · exact List.length_modify _ _ _

/-- The costs that were sampled for a slot. -/
def sampledCosts (slot : ℕ) (assignments : List Assignment) : List ℚ :=
  (assignments.filter fun assignment =>
    decide (assignment.scheduledSlot = (slot : ℤ))).map Assignment.carbonCost

theorem sampledCosts_append (slot : ℕ) (earlier later : List Assignment) :
    sampledCosts slot (earlier ++ later) =
      sampledCosts slot earlier ++ sampledCosts slot later := by
  rw [sampledCosts, List.filter_append, List.map_append]
  rfl

namespace OnlineBanditState

/-- Both tables have an entry for each slot. -/
structure Sized (slots : ℕ) (state : OnlineBanditState σ) : Prop where
  length_q : state.q.length = slots
  length_n : state.n.length = slots

/-- The running mean of a slot. -/
def slotMean (state : OnlineBanditState σ) (slot : ℕ) : RunningMean ℚ where
  count := state.n.getD slot 0
  mean := state.q.getD slot 0

variable {state after : OnlineBanditState σ} {slots position : ℕ}

theorem Sized.banditLearn (sized : state.Sized slots) (slot : ℤ) (cost : ℚ) :
    (Carbonshift.banditLearn state slot cost).Sized slots := by
  unfold Carbonshift.banditLearn
  split
  · exact sized
  · refine ⟨?_, ?_⟩
    · rw [length_modifySlot]
      exact sized.length_q
    · rw [length_modifySlot]
      exact sized.length_n

/-- A sample goes to the mean of its slot. -/
theorem slotMean_banditLearn (sized : state.Sized slots)
    (inside : position < slots) (slot : ℤ) (cost : ℚ) :
    (Carbonshift.banditLearn state slot cost).slotMean position =
      if slot = position then
        (state.slotMean position).add cost
      else
        state.slotMean position := by
  have insideQ : position < state.q.length := by
    rw [sized.length_q]
    exact inside
  have insideN : position < state.n.length := by
    rw [sized.length_n]
    exact inside
  unfold Carbonshift.banditLearn
  by_cases here : slot = position
  · have entry : slotEntry state.n slot = some (state.n.getD position 0) := by
      rw [slotEntry, if_neg (by omega), here, Int.toNat_natCast,
        List.getElem?_eq_getElem insideN, List.getD_eq_getElem _ _ insideN]
    rw [entry, if_pos here]
    dsimp only [slotMean]
    rw [getD_modifySlot _ _ _ insideN, getD_modifySlot _ _ _ insideQ,
      if_pos here, if_pos here]
    rfl
  · rw [if_neg here]
    split
    · rfl
    · dsimp only [slotMean]
      rw [getD_modifySlot _ _ _ insideN, getD_modifySlot _ _ _ insideQ,
        if_neg here, if_neg here]

/-- A solve keeps the size, and adds the costs of its assignments. -/
structure Learns (slots : ℕ) (before : OnlineBanditState σ)
    (solved : List Assignment × OnlineBanditState σ) : Prop where
  sized : solved.2.Sized slots
  slotMean_eq : ∀ position, position < slots →
    solved.2.slotMean position =
      (before.slotMean position).addAll (sampledCosts position solved.1)
  epsilon_eq : solved.2.epsilon = before.epsilon

end OnlineBanditState

section Solve

variable {runtime : NumericRuntime σ} {policy : AssignmentPolicy}
variable {carbonForecast : List ℚ} {fallback : Flavour}
variable {before : OnlineBanditState σ} {slots : ℕ}

open OnlineBanditState

/-- Placing one request adds its cost to the mean of its slot. -/
private theorem learns_banditStep
    {solving : (OnlineBanditState σ × SwarmTally) × List Assignment}
    (learns : Learns slots before (solving.2, solving.1.1))
    (request : Request) :
    Learns slots before
      ((banditStep runtime policy carbonForecast fallback solving request).2,
        (banditStep runtime policy carbonForecast fallback solving
          request).1.1) := by
  unfold banditStep
  split
  · exact learns
  · rename_i slot rng _
    dsimp only
    generalize pickFlavour policy carbonForecast solving.1.2 slot fallback =
      picked
    have moved : ({ solving.1.1 with rng := rng } :
        OnlineBanditState σ).Sized slots :=
      ⟨learns.sized.length_q, learns.sized.length_n⟩
    refine ⟨moved.banditLearn slot picked.2, fun position inside => ?_, ?_⟩
    · dsimp only
      rw [slotMean_banditLearn moved inside, sampledCosts_append,
        RunningMean.addAll_append, ← learns.slotMean_eq position inside]
      by_cases here : slot = position
      · have sampled : sampledCosts position
            [makeAssignment request slot picked.1 picked.2] = [picked.2] := by
          simp [sampledCosts, makeAssignment, Assignment.new, here]
        rw [if_pos here, sampled]
        rfl
      · have unsampled : sampledCosts position
            [makeAssignment request slot picked.1 picked.2] = [] := by
          simp [sampledCosts, makeAssignment, Assignment.new, here]
        rw [if_neg here, unsampled]
        rfl
    · dsimp only
      rw [banditLearn_epsilon]
      exact learns.epsilon_eq

/-- A solve learns the costs of its assignments. -/
theorem OnlineBanditState.solveBatch_learns
    {pending : List Request} {ctx : SwarmContext}
    {solved : List Assignment × OnlineBanditState σ}
    (sized : before.Sized slots)
    (answered : before.solveBatch runtime policy carbonForecast pending ctx =
      some solved) :
    Learns slots before solved := by
  obtain ⟨fallback, _, rfl⟩ := Option.map_eq_some_iff.mp answered
  have nothing : Learns slots before ([], before) :=
    ⟨sized, fun position inside => rfl, rfl⟩
  exact List.foldlRecOn
    (motive := fun solving :
        (OnlineBanditState σ × SwarmTally) × List Assignment =>
      Learns slots before (solving.2, solving.1.1))
    pending (banditStep runtime policy carbonForecast fallback)
    (b := ((before, ctx.tally), [])) nothing
    fun solving learns request _ => learns_banditStep learns request

end Solve

/-! ## Deltas -/

namespace BanditDelta

/-- Number and sum of the new samples of a slot. -/
def samples (delta : BanditDelta σ) (slot : ℕ) : ℕ × ℚ :=
  (delta.nDelta.getD slot 0, delta.costSumDelta.getD slot 0)

/-- The delta is that of these samples. -/
def Carries (delta : BanditDelta σ) (slots : ℕ)
    (assignments : List Assignment) : Prop :=
  ∀ slot, slot < slots →
    delta.samples slot =
      ((sampledCosts slot assignments).length,
        (sampledCosts slot assignments).sum)

end BanditDelta

namespace OnlineBanditState

variable {state before : OnlineBanditState σ} {slots : ℕ}

/-- The delta of a solve carries exactly its samples, whatever the estimates
that it began with. -/
theorem deltaTo_carries (sized : before.Sized slots)
    {solved : List Assignment × OnlineBanditState σ}
    (learns : Learns slots before solved) :
    (before.deltaTo solved.2.clone).Carries slots solved.1 := by
  intro slot inside
  have means := learns.slotMean_eq slot inside
  have counts := congrArg RunningMean.count means
  have totals := congrArg RunningMean.total means
  rw [RunningMean.count_addAll] at counts
  rw [RunningMean.total_addAll, RunningMean.total, RunningMean.total]
    at totals
  dsimp only [slotMean] at counts totals
  have insideBefore : slot < before.n.length := by
    rw [sized.length_n]
    exact inside
  have insideAfter : slot < solved.2.n.length := by
    rw [learns.sized.length_n]
    exact inside
  have number : (before.deltaTo solved.2.clone).nDelta.getD slot 0 =
      (sampledCosts slot solved.1).length := by
    dsimp only [deltaTo, clone]
    rw [List.getD_eq_getElem?_getD, List.getElem?_zipWith,
      List.getElem?_eq_getElem insideBefore,
      List.getElem?_eq_getElem insideAfter]
    rw [List.getD_eq_getElem _ _ insideBefore,
      List.getD_eq_getElem _ _ insideAfter] at counts
    simp only [Option.getD_some]
    omega
  have total : (before.deltaTo solved.2.clone).costSumDelta.getD slot 0 =
      (sampledCosts slot solved.1).sum := by
    dsimp only [deltaTo, clone]
    rw [sized.length_q, List.getD_map_range _ inside]
    by_cases some_ : 0 < solved.2.n.getD slot 0 - before.n.getD slot 0
    · rw [if_pos some_]
      linarith
    · have none_ : sampledCosts slot solved.1 = [] :=
        List.length_eq_zero_iff.mp (by omega)
      rw [if_neg some_, none_, List.sum_nil]
  rw [BanditDelta.samples, number, total]

/-- A merge absorbs the samples of the delta. -/
theorem slotMean_mergeDelta (sized : state.Sized slots)
    (delta : BanditDelta σ) {slot : ℕ} (inside : slot < slots) :
    (state.mergeDelta delta).slotMean slot =
      (state.slotMean slot).absorb (delta.samples slot) := by
  unfold mergeDelta slotMean
  dsimp only
  rw [List.map_map, List.map_map, sized.length_q,
    List.getD_map_range _ inside, List.getD_map_range _ inside]
  simp only [Function.comp_apply]
  by_cases nothing : delta.nDelta.getD slot 0 = 0
  · have unsampled : (delta.samples slot).1 = 0 := nothing
    rw [if_pos nothing, RunningMean.absorb_nothing unsampled]
  · have sampled : (delta.samples slot).1 ≠ 0 := nothing
    rw [if_neg nothing, RunningMean.absorb, if_neg sampled]
    rfl

theorem Sized.mergeDelta (sized : state.Sized slots)
    (delta : BanditDelta σ) : (state.mergeDelta delta).Sized slots := by
  refine ⟨?_, ?_⟩
  · simp [OnlineBanditState.mergeDelta, sized.length_q]
  · simp [OnlineBanditState.mergeDelta, sized.length_q]

/-- The means of all slots are the tables. -/
theorem tables_eq_of_slotMean {other : OnlineBanditState σ}
    (sized : state.Sized slots) (otherSized : other.Sized slots)
    (same : ∀ slot, slot < slots → state.slotMean slot = other.slotMean slot) :
    state.q = other.q ∧ state.n = other.n := by
  refine ⟨List.ext_getElem ?_ fun slot here there => ?_,
    List.ext_getElem ?_ fun slot here there => ?_⟩
  · rw [sized.length_q, otherSized.length_q]
  · have means := congrArg RunningMean.mean
      (same slot (sized.length_q ▸ here))
    dsimp only [slotMean] at means
    rwa [List.getD_eq_getElem _ _ here, List.getD_eq_getElem _ _ there]
      at means
  · rw [sized.length_n, otherSized.length_n]
  · have counts := congrArg RunningMean.count
      (same slot (sized.length_n ▸ here))
    dsimp only [slotMean] at counts
    rwa [List.getD_eq_getElem _ _ here, List.getD_eq_getElem _ _ there]
      at counts

/-- Merge the deltas one after another. -/
def mergeAll (state : OnlineBanditState σ) (deltas : List (BanditDelta σ)) :
    OnlineBanditState σ :=
  deltas.foldl mergeDelta state

theorem Sized.mergeAll (sized : state.Sized slots)
    (deltas : List (BanditDelta σ)) : (state.mergeAll deltas).Sized slots := by
  induction deltas generalizing state with
  | nil => exact sized
  | cons delta rest inductionHypothesis =>
      exact inductionHypothesis (sized.mergeDelta delta)

theorem slotMean_mergeAll (sized : state.Sized slots)
    (deltas : List (BanditDelta σ)) {slot : ℕ} (inside : slot < slots) :
    (state.mergeAll deltas).slotMean slot =
      (deltas.map fun delta => delta.samples slot).foldl RunningMean.absorb
        (state.slotMean slot) := by
  induction deltas generalizing state with
  | nil => rfl
  | cons delta rest inductionHypothesis =>
      rw [List.map_cons, List.foldl_cons, ← slotMean_mergeDelta sized delta
        inside, ← inductionHypothesis (sized.mergeDelta delta)]
      rfl

/-- The order of the merges does not matter. -/
theorem mergeAll_perm (sized : state.Sized slots)
    {deltas order : List (BanditDelta σ)} (same : order.Perm deltas) :
    (state.mergeAll order).q = (state.mergeAll deltas).q ∧
      (state.mergeAll order).n = (state.mergeAll deltas).n := by
  refine tables_eq_of_slotMean (sized.mergeAll order) (sized.mergeAll deltas)
    fun slot inside => ?_
  rw [slotMean_mergeAll sized order inside,
    slotMean_mergeAll sized deltas inside]
  exact RunningMean.absorbAll_perm (same.map _)

end OnlineBanditState

/-! ## Batches on one bandit -/

/-- A bandit, the batches solved on copies of it, and the batches that were
merged, in the order of their merges. -/
structure BanditPool (σ : Type) where
  bandit : OnlineBanditState σ
  solved : List (List Assignment × BanditDelta σ)
  merged : List (List Assignment × BanditDelta σ)

namespace BanditPool

/-- Estimates without samples. -/
def unsampled (estimates : List ℚ) (rng : σ) (epsilon : ℚ) :
    OnlineBanditState σ where
  q := estimates
  n := List.replicate estimates.length 0
  rng := rng
  epsilon := epsilon

def new (estimates : List ℚ) (rng : σ) (epsilon : ℚ) : BanditPool σ where
  bandit := unsampled estimates rng epsilon
  solved := []
  merged := []

inductive Action where
  /-- Solve a batch on a copy of the bandit as it is now. -/
  | solve (policy : AssignmentPolicy) (carbonForecast : List ℚ)
      (pending : List Request) (ctx : SwarmContext)
  /-- Merge one of the solved batches, of any age. -/
  | merge (index : ℕ)

def step (runtime : NumericRuntime σ) (pool : BanditPool σ) :
    Action → Option (BanditPool σ)
  | .solve policy carbonForecast pending ctx =>
      (pool.bandit.solveBatchMerge runtime policy carbonForecast pending
        ctx).map fun batch => { pool with solved := pool.solved ++ [batch] }
  | .merge index =>
      pool.solved[index]?.map fun batch =>
        { bandit := pool.bandit.mergeDelta batch.2
          solved := pool.solved.eraseIdx index
          merged := pool.merged ++ [batch] }

/-- The costs that the merged batches have sampled for a slot. -/
def samples (pool : BanditPool σ) (slot : ℕ) : List ℚ :=
  pool.merged.flatMap fun batch => sampledCosts slot batch.1

def deltas (pool : BanditPool σ) : List (BanditDelta σ) :=
  pool.merged.map Prod.snd

/-- The bandit has merged deltas that carry the samples of their batches. -/
structure Consistent (initial : OnlineBanditState σ) (slots : ℕ)
    (pool : BanditPool σ) : Prop where
  sized : initial.Sized slots
  carries : ∀ batch ∈ pool.solved ++ pool.merged,
    batch.2.Carries slots batch.1
  bandit_eq : pool.bandit = initial.mergeAll pool.deltas

namespace Consistent

variable {initial : OnlineBanditState σ} {slots : ℕ}
variable {pool next : BanditPool σ} {runtime : NumericRuntime σ}

/-- A solve adds a batch, and a merge moves one. -/
theorem step {action : Action} (consistent : Consistent initial slots pool)
    (taken : BanditPool.step runtime pool action = some next) :
    Consistent initial slots next := by
  have sized : pool.bandit.Sized slots := by
    rw [consistent.bandit_eq]
    exact consistent.sized.mergeAll _
  cases action with
  | solve policy carbonForecast pending ctx =>
      obtain ⟨answer, merged, rfl⟩ := Option.map_eq_some_iff.mp taken
      rw [OnlineBanditState.solveBatchMerge_eq] at merged
      obtain ⟨solved, answered, rfl⟩ := Option.map_eq_some_iff.mp merged
      refine ⟨consistent.sized, fun batch member => ?_, consistent.bandit_eq⟩
      rw [List.append_assoc, List.mem_append, List.mem_append,
        List.mem_singleton] at member
      rcases member with old | rfl | merged
      · exact consistent.carries batch (List.mem_append_left _ old)
      · exact OnlineBanditState.deltaTo_carries sized
          (OnlineBanditState.solveBatch_learns sized answered)
      · exact consistent.carries batch (List.mem_append_right _ merged)
  | merge index =>
      obtain ⟨batch, found, rfl⟩ := Option.map_eq_some_iff.mp taken
      have present : batch ∈ pool.solved := List.mem_of_getElem? found
      refine ⟨consistent.sized, fun other member => ?_, ?_⟩
      · dsimp only at member
        rw [List.mem_append, List.mem_append, List.mem_singleton] at member
        refine consistent.carries other (List.mem_append.mpr ?_)
        rcases member with left | merged | rfl
        · exact Or.inl (List.mem_of_mem_eraseIdx left)
        · exact Or.inr merged
        · exact Or.inl present
      · dsimp only [deltas]
        rw [List.map_append, OnlineBanditState.mergeAll, List.foldl_append,
          consistent.bandit_eq]
        rfl

theorem of_run {actions : List Action} (sized : initial.Sized slots)
    (reached : Transition.run (BanditPool.step runtime) ⟨initial, [], []⟩
      actions = some pool) :
    Consistent initial slots pool := by
  refine Transition.run_induction
    (fun _ state => Consistent initial slots state)
    ⟨sized, fun _ member => absurd member List.not_mem_nil, rfl⟩ ?_ reached
  intro history state action next consistent taken
  exact consistent.step taken

/-- The mean of a slot has absorbed all samples. -/
theorem slotMean_eq (consistent : Consistent initial slots pool) {slot : ℕ}
    (inside : slot < slots) :
    pool.bandit.slotMean slot =
      (initial.slotMean slot).addAll (pool.samples slot) := by
  rw [consistent.bandit_eq,
    OnlineBanditState.slotMean_mergeAll consistent.sized _ inside]
  have carried : ∀ (batches : List (List Assignment × BanditDelta σ))
      (running : RunningMean ℚ),
      (∀ batch ∈ batches, batch.2.Carries slots batch.1) →
      ((batches.map Prod.snd).map fun delta =>
          delta.samples slot).foldl RunningMean.absorb running =
        running.addAll
          (batches.flatMap fun batch => sampledCosts slot batch.1) := by
    intro batches
    induction batches with
    | nil =>
        intro running _
        rfl
    | cons batch rest inductionHypothesis =>
        intro running carries
        have first := carries batch List.mem_cons_self slot inside
        rw [List.flatMap_cons, RunningMean.addAll_append,
          ← RunningMean.absorb_samples (sampledCosts slot batch.1), ← first]
        exact inductionHypothesis _ fun other member =>
          carries other (List.mem_cons_of_mem _ member)
  exact carried pool.merged _ fun batch member =>
    consistent.carries batch (List.mem_append_right _ member)

end Consistent

/-- Counts and estimates are those of all merged samples, in whatever order
they were merged. -/
structure Lossless (estimates : List ℚ) (rng : σ) (epsilon : ℚ)
    (pool : BanditPool σ) : Prop where
  count_eq : ∀ slot, slot < estimates.length →
    pool.bandit.n.getD slot 0 = (pool.samples slot).length
  estimate_eq : ∀ slot, slot < estimates.length →
    pool.bandit.q.getD slot 0 =
      if pool.samples slot = [] then
        estimates.getD slot 0
      else
        (pool.samples slot).sum / (pool.samples slot).length
  anyOrder : ∀ order, order.Perm pool.deltas →
    ((unsampled estimates rng epsilon).mergeAll order).q = pool.bandit.q ∧
      ((unsampled estimates rng epsilon).mergeAll order).n = pool.bandit.n

/-- However stale the estimates are that the batches are solved on, and
however their deltas are merged, no sample is lost or counted twice. -/
theorem bandit_merge_is_lossless
    (runtime : NumericRuntime σ) (estimates : List ℚ) (rng : σ)
    (epsilon : ℚ) (actions : List Action) (pool : BanditPool σ)
    (reached : Transition.run (BanditPool.step runtime)
      (new estimates rng epsilon) actions = some pool) :
    Lossless estimates rng epsilon pool := by
  have sized : (unsampled estimates rng epsilon).Sized estimates.length :=
    ⟨rfl, List.length_replicate⟩
  have consistent := Consistent.of_run sized reached
  have guess : ∀ slot, slot < estimates.length →
      (unsampled estimates rng epsilon).slotMean slot =
        ⟨0, estimates.getD slot 0⟩ := by
    intro slot inside
    refine RunningMean.ext ?_ rfl
    dsimp only [OnlineBanditState.slotMean, unsampled]
    rw [List.getD_replicate _ inside]
  refine ⟨fun slot inside => ?_, fun slot inside => ?_,
    fun order same => ?_⟩
  · have counts := congrArg RunningMean.count (consistent.slotMean_eq inside)
    rw [guess slot inside, RunningMean.count_addAll, Nat.zero_add] at counts
    exact counts
  · have means := congrArg RunningMean.mean (consistent.slotMean_eq inside)
    rw [guess slot inside, RunningMean.mean_addAll] at means
    exact means
  · rw [consistent.bandit_eq]
    exact OnlineBanditState.mergeAll_perm sized same

/-- Two batches are solved on the same estimates, and the later one is merged
first. -/
def overtakingRun : List Action :=
  let solve := Action.solve Config.default.assignmentPolicy
    (List.replicate 24 1)
  [solve [.new 0 1 0 3, .new 0 2 0 3]
      (SharedState.new.swarmContextSnapshotForProfile none),
    solve [.new 0 3 0 3] (SharedState.new.swarmContextSnapshotForProfile none),
    .merge 1, .merge 0]

/-- All three samples arrive. -/
theorem overtakingRun_lossless :
    ∃ pool : BanditPool Unit,
      Transition.run (BanditPool.step .least) (new [7, 7, 7, 7] () 0)
          overtakingRun = some pool ∧
        pool.merged.length = 2 ∧ (pool.samples 0).length = 3 ∧
        Lossless [7, 7, 7, 7] () 0 pool := by
  have computed :
      (Transition.run (BanditPool.step .least)
        (new [7, 7, 7, 7] () 0 : BanditPool Unit) overtakingRun).map
          (fun pool => (pool.merged.length, (pool.samples 0).length)) =
        some (2, 3) := by
    decide +kernel
  obtain ⟨pool, reached, sizes⟩ := Option.map_eq_some_iff.mp computed
  obtain ⟨merged, sampled⟩ := Prod.mk.inj sizes
  exact ⟨pool, reached, merged, sampled,
    bandit_merge_is_lossless .least [7, 7, 7, 7] () 0 overtakingRun pool
      reached⟩

end BanditPool

end Carbonshift
