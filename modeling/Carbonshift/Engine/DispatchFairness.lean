import Carbonshift.Engine.MainLoop
import Carbonshift.Library.RoundRobin
import Mathlib.Data.String.Basic

/-!
# Fairness of the dispatch

The dispatch loop is a round-robin arbiter over the profiles: the decision is
taken under the scheduler mutex, the claim that follows serves the profile or
drops it, and only a claim that spawns a worker moves the cursor.
-/

namespace Carbonshift

namespace Engine

variable {σ : Type} {cfg : Config} {runtime : NumericRuntime σ}
variable {engine next : Engine σ}

/-! ## What the dispatch shows -/

/-- The profiles a dispatch decision chooses from: enough pending work, no
active solve and not just retried. -/
def eligibleProfiles (cfg : Config) (elapsedSlots : ℕ) (flush : Bool)
    (engine : Engine σ) : List QosProfileId :=
  (engine.shared.pendingProfileCounts.filter
    (dispatchable engine.scheduler (dispatchSlot cfg elapsedSlots)
      (if flush then 1 else cfg.solver.batchSize))).map Prod.fst

/-- Does the claim of the picked profile spawn a worker? -/
def claimSpawns (cfg : Config) (engine : Engine σ)
    (selection : ProfileSelection) : Bool :=
  let claimed := (engine.shared.claimPendingRequestsForProfile
    selection.profileId
    (min selection.profilePendingCount cfg.solver.batchSize)).1
  !claimed.isEmpty && decide (selection.minPending ≤ claimed.length)

/-- The decisions and the dispatches of an action. -/
def dispatchEvents (cfg : Config) (engine : Engine σ) :
    Action → List (RoundRobin.Event QosProfileId)
  | .selectProfile elapsedSlots flush _ =>
      [.offered (eligibleProfiles cfg elapsedSlots flush engine)]
  | .claimBatch =>
      match engine.selecting with
      | some selection =>
          if claimSpawns cfg engine selection then
            [.served selection.profileId]
          else
            []
      | none => []
  | _ => []

/-- A step of the scheduler, with a log of its decisions and dispatches. -/
def dispatchStep (cfg : Config) (runtime : NumericRuntime σ) :
    Engine σ × List (RoundRobin.Event QosProfileId) → Action →
      Option (Engine σ × List (RoundRobin.Event QosProfileId)) :=
  Transition.observed (step cfg runtime) fun engine action log =>
    log ++ dispatchEvents cfg engine action

/-- The arbiter the scheduler implements. -/
def arbiter (engine : Engine σ) : RoundRobin.Arbiter QosProfileId where
  cursor := engine.scheduler.lastDispatchedProfile
  picked := engine.selecting.map ProfileSelection.profileId

/-! ## A decision -/

theorem QosProfileId.value_injective :
    Function.Injective QosProfileId.value := by
  rintro ⟨left⟩ ⟨right⟩ same
  exact congrArg QosProfileId.mk same

/-- The profiles in the order of a decision. -/
private theorem eligible_sorted (entries : List (QosProfileId × ℕ)) :
    (entries.insertionSort fun left right => left.1 ≤ right.1).Pairwise
      fun left right => left.1.value ≤ right.1.value := by
  have total : Std.Total
      fun left right : QosProfileId × ℕ => left.1 ≤ right.1 :=
    ⟨fun left right => le_total left.1.value right.1.value⟩
  have transitive : IsTrans (QosProfileId × ℕ)
      fun left right => left.1 ≤ right.1 :=
    ⟨fun left middle right => le_trans (a := left.1.value)⟩
  exact List.pairwise_insertionSort _ entries

/-- What is picked is the next profile in turn. -/
theorem nextProfileToDispatch_inTurn
    {pendingByProfile : List (QosProfileId × ℕ)}
    {scheduler : SchedulerMutableState σ} {slot : ℤ} {minPending : ℕ}
    {chosen : QosProfileId × ℕ}
    (picked : nextProfileToDispatch pendingByProfile scheduler slot minPending =
      some chosen) :
    RoundRobin.InTurn QosProfileId.value
      ((pendingByProfile.filter
        (dispatchable scheduler slot minPending)).map Prod.fst)
      scheduler.lastDispatchedProfile chosen.1 := by
  unfold nextProfileToDispatch at picked
  dsimp only at picked
  have ordered := eligible_sorted
    (pendingByProfile.filter (dispatchable scheduler slot minPending))
  have members : ∀ profileId,
      profileId ∈ (pendingByProfile.filter
        (dispatchable scheduler slot minPending)).map Prod.fst ↔
        ∃ entry ∈ (pendingByProfile.filter
          (dispatchable scheduler slot minPending)).insertionSort
            (fun left right => left.1 ≤ right.1), entry.1 = profileId := by
    intro profileId
    simp only [List.mem_map, List.mem_insertionSort]
  generalize (pendingByProfile.filter
    (dispatchable scheduler slot minPending)).insertionSort
      (fun left right => left.1 ≤ right.1) = eligible at picked ordered members
  have member := (members chosen.1).mpr
    ⟨chosen, List.mem_of_getElem? picked, rfl⟩
  have among : ∀ {index : ℕ}, eligible[index]? = some chosen →
      ∀ {position : ℕ} (bound : position < eligible.length),
        index ≤ position → chosen.1.value ≤ eligible[position].1.value := by
    intro index found position bound before
    obtain ⟨within, same⟩ := List.getElem?_eq_some_iff.mp found
    rcases Nat.eq_or_lt_of_le before with rfl | earlier
    · rw [same]
    · rw [← same]
      exact List.pairwise_iff_getElem.mp ordered index position within bound
        earlier
  cases found : scheduler.lastDispatchedProfile.bind fun cursor =>
      eligible.findIdx? fun entry => !decide (entry.1 ≤ cursor) with
  | some index =>
      rw [found, Option.getD_some] at picked
      obtain ⟨cursor, cursor_eq, position⟩ := Option.bind_eq_some_iff.mp found
      obtain ⟨bound, behind, before⟩ :=
        List.findIdx?_eq_some_iff_getElem.mp position
      obtain ⟨_, same⟩ := List.getElem?_eq_some_iff.mp picked
      refine .behind member cursor_eq ?_ ?_
      · have past : ¬ eligible[index].1 ≤ cursor := by simpa using behind
        rw [← same]
        exact not_le.mp past
      · intro other waiting later
        obtain ⟨entry, listed, rfl⟩ := (members other).mp waiting
        obtain ⟨place, inside, rfl⟩ := List.getElem_of_mem listed
        refine among picked inside (Nat.not_lt.mp fun early => ?_)
        have passed : eligible[place].1 ≤ cursor := by
          simpa using before place early
        exact absurd later (not_lt.mpr passed)
  | none =>
      rw [found, Option.getD_none] at picked
      refine .around member ?_ ?_
      · intro last last_eq other waiting
        obtain ⟨entry, listed, rfl⟩ := (members other).mp waiting
        rw [last_eq, Option.bind_some, List.findIdx?_eq_none_iff] at found
        have passed : entry.1 ≤ last := by simpa using found entry listed
        exact passed
      · intro other waiting
        obtain ⟨entry, listed, rfl⟩ := (members other).mp waiting
        obtain ⟨place, inside, rfl⟩ := List.getElem_of_mem listed
        exact among picked inside (Nat.zero_le place)

/-! ## The scheduler is an arbiter -/

private theorem selectProfile_arbiter
    {elapsedSlots : ℕ} {flush : Bool} {carbonForecast : List ℚ}
    (taken : selectProfile cfg elapsedSlots flush carbonForecast engine =
      some next) :
    RoundRobin.Step QosProfileId.value (arbiter engine)
      [.offered (eligibleProfiles cfg elapsedSlots flush engine)]
      (arbiter next) := by
  have free : engine.selecting = none := by
    cases busy : engine.selecting with
    | none => rfl
    | some selection =>
        rw [selectProfile, if_pos (by simp [busy])] at taken
        cases taken
  obtain ⟨chosen, picked, rfl⟩ := selectProfile_cases taken
  rw [arbiter, free]
  exact .offer (nextProfileToDispatch_inTurn picked)

private theorem claimBatch_arbiter
    (taken : claimBatch cfg engine = some next) :
    RoundRobin.Step QosProfileId.value (arbiter engine)
      (dispatchEvents cfg engine .claimBatch) (arbiter next) := by
  obtain ⟨selection, picked, claimed⟩ := Option.map_eq_some_iff.mp taken
  have events : dispatchEvents cfg engine .claimBatch =
      if claimSpawns cfg engine selection then
        [.served selection.profileId]
      else
        [] := by
    rw [dispatchEvents, picked]
  dsimp only at claimed
  split at claimed
  · rename_i empty
    subst claimed
    have spawns : claimSpawns cfg engine selection = false := by
      simp [claimSpawns, empty]
    rw [events, spawns, arbiter, picked]
    exact .drop _ _
  · rename_i nonempty
    split at claimed
    · rename_i short
      subst claimed
      have spawns : claimSpawns cfg engine selection = false := by
        simp [claimSpawns, short]
      rw [events, spawns, arbiter, picked]
      exact .drop _ _
    · rename_i enough
      subst claimed
      have spawns : claimSpawns cfg engine selection = true := by
        simp only [claimSpawns, nonempty, Bool.not_false, Bool.true_and]
        exact decide_eq_true (Nat.not_lt.mp enough)
      rw [events, spawns, arbiter, picked]
      exact .serve _ _

/-- A worker's step is none of the arbiter. -/
private theorem work_arbiter {workerId : ℕ} {move : WorkerMove}
    (taken : step cfg runtime engine (.work workerId move) = some next) :
    arbiter next = arbiter engine := by
  obtain ⟨worker, found, moves⟩ := Option.bind_eq_some_iff.mp taken
  obtain ⟨moved, performed, rfl⟩ := Option.map_eq_some_iff.mp moves
  obtain ⟨_, _, _, reservations⟩ := workerMove_moved performed
  dsimp only [arbiter]
  rw [(sameDispatch_of_move performed).2, reservations.selecting_eq]

private theorem release_arbiter {workerId : ℕ}
    (taken : step cfg runtime engine (.release workerId) = some next) :
    arbiter next = arbiter engine := by
  obtain ⟨worker, _, released⟩ := Option.bind_eq_some_iff.mp taken
  unfold release at released
  split at released
  · cases released
    rfl
  · cases released

/-- The scheduler refines the arbiter, step by step. -/
theorem step_arbiter {action : Action}
    (taken : step cfg runtime engine action = some next) :
    RoundRobin.Step QosProfileId.value (arbiter engine)
      (dispatchEvents cfg engine action) (arbiter next) := by
  cases action with
  | selectProfile elapsedSlots flush carbonForecast =>
      exact selectProfile_arbiter taken
  | claimBatch => exact claimBatch_arbiter taken
  | work workerId move =>
      rw [work_arbiter taken]
      exact .idle _
  | release workerId =>
      rw [release_arbiter taken]
      exact .idle _
  | initializeCapacityTiers tiers =>
      rw [step] at taken
      split at taken <;> cases taken
      exact .idle _
  | replaceCapacityTiers tiers =>
      rw [step] at taken
      split at taken <;> cases taken
      exact .idle _
  | addRequest request =>
      cases taken
      exact .idle _
  | addRequests requests =>
      cases taken
      exact .idle _
  | setCurrentSlot slot =>
      cases taken
      exact .idle _
  | correctAssignmentError requestId actualError =>
      cases taken
      exact .idle _
  | correctAssignmentCarbonCost requestId actualCarbonCost =>
      cases taken
      exact .idle _

/-- In every run, between two consecutive dispatches of a profile everyone
who was eligible at all decisions in between has been dispatched. -/
theorem dispatch_never_starves {actions : List Action}
    {log : List (RoundRobin.Event QosProfileId)}
    (reached : Transition.run (dispatchStep cfg runtime)
      (Engine.new cfg, []) actions = some (engine, log)) :
    RoundRobin.NoStarvation log := by
  have fair := Transition.run_induction
    (fun _ (state : Engine σ × List (RoundRobin.Event QosProfileId)) =>
      RoundRobin.Fair QosProfileId.value state.2 (arbiter state.1))
    (RoundRobin.Fair.nil _ _) ?_ reached
  · exact fair.fair
  rintro history ⟨state, seen⟩ action ⟨after, recorded⟩ before taken
  obtain ⟨stepped, logged⟩ := Transition.observed_eq_some_iff.mp taken
  dsimp only at stepped logged before ⊢
  rw [logged]
  exact before.step QosProfileId.value_injective (step_arbiter stepped)

/-- A profile is busy while another one gets its turn, and then has its
second. -/
def alternatingRun : List Action :=
  [.addRequests [.new 0 1 0 3, .new 0 2 0 3],
    .addRequest { Request.new 0 5 0 3 with qosProfileId := ⟨"interactive"⟩ },
    .selectProfile 0 true (List.replicate 24 1), .claimBatch,
    .selectProfile 0 true (List.replicate 24 1), .claimBatch,
    .work 0 .enter, .work 0 .observe, .work 0 (.solve .steady),
    .work 0 .commit, .release 0, .addRequest (.new 0 3 0 3),
    .selectProfile 0 true (List.replicate 24 1), .claimBatch]

theorem alternatingRun_never_starves :
    ∃ engine,
      Transition.run (dispatchStep pairConfig .least) (new pairConfig, [])
          alternatingRun =
        some (engine,
          [.offered [.defaultProfile, ⟨"interactive"⟩],
            .served .defaultProfile, .offered [⟨"interactive"⟩],
            .served ⟨"interactive"⟩, .offered [.defaultProfile],
            .served .defaultProfile]) ∧
        RoundRobin.NoStarvation
          [.offered [QosProfileId.defaultProfile, ⟨"interactive"⟩],
            .served .defaultProfile, .offered [⟨"interactive"⟩],
            .served ⟨"interactive"⟩, .offered [.defaultProfile],
            .served .defaultProfile] := by
  have computed :
      (Transition.run (dispatchStep pairConfig .least) (new pairConfig, [])
        alternatingRun).map Prod.snd =
        some [.offered [.defaultProfile, ⟨"interactive"⟩],
          .served .defaultProfile, .offered [⟨"interactive"⟩],
          .served ⟨"interactive"⟩, .offered [.defaultProfile],
          .served .defaultProfile] := by
    decide +kernel
  obtain ⟨⟨engine, log⟩, reached, logged⟩ := Option.map_eq_some_iff.mp computed
  cases logged
  exact ⟨engine, reached, dispatch_never_starves reached⟩

end Engine

end Carbonshift
