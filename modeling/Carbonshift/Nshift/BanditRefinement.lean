import Carbonshift.Engine.BanditMerge
import Carbonshift.Engine.SerializedSwarm
import Carbonshift.Engine.SwarmTallies
import Carbonshift.Nshift.Swarm

/-!
# The online bandit on batches

The offline bandit threads its tally through one pass.  The online bandit
rebuilds it from the committed state before each batch.  Both are compared
with one serialized solve of all requests.
-/

namespace Carbonshift

namespace Nshift

open OnlineBanditState

variable {σ : Type}

/-! ## Batches -/

/-- The online bandit, the committed state, and what was committed. -/
structure OnlineRun (σ : Type) where
  bandit : OnlineBanditState σ
  shared : SharedState
  assignments : List Assignment

namespace OnlineRun

section Definitions

variable (runtime : NumericRuntime σ) (policy : AssignmentPolicy)
variable (carbonForecast : List ℚ) (params : BanditParams)
variable (profileId : QosProfileId)

def start : OnlineRun σ where
  bandit := .new runtime policy.totalSlots.toNat params.initialQ
    params.epsilon params.seed
  shared := .new
  assignments := []

/-- Solve a batch against the committed state, and commit it. -/
def batch (run : OnlineRun σ) (pending : List Request) :
    Option (OnlineRun σ) :=
  let ctx := run.shared.swarmContextSnapshotForProfile (some profileId)
  (run.bandit.solveBatch runtime policy carbonForecast pending ctx).map
    fun solved =>
      let proposed := Engine.ownedBy profileId solved.1
      match run.shared.tryAddAssignmentsChecked proposed
          (Engine.expectedPerSlot ctx.slotCount proposed) policy.capacityTiers
          false 0 with
      | (.committed, shared) =>
          { bandit := solved.2
            shared := shared
            assignments := run.assignments ++ proposed }
      | (.rolledBack, shared) =>
          { bandit := solved.2
            shared := shared
            assignments := run.assignments }

/-- One batch after another. -/
def batches (pending : List (List Request)) : Option (OnlineRun σ) :=
  pending.foldlM (batch runtime policy carbonForecast profileId)
    (start runtime policy params)

end Definitions

end OnlineRun

/-! ## One solve of everything -/

/-- A solve in progress: bandit, tally and assignments. -/
abbrev Solving (σ : Type) :=
  (OnlineBanditState σ × SwarmTally) × List Assignment

/-- Before the first request. -/
def Solving.start (runtime : NumericRuntime σ) (policy : AssignmentPolicy)
    (params : BanditParams) : Solving σ :=
  ((.new runtime policy.totalSlots.toNat params.initialQ params.epsilon
      params.seed,
    (BanditPass.start runtime policy params).tally), [])

section Steps

variable (runtime : NumericRuntime σ) (policy : AssignmentPolicy)
variable (carbonForecast : List ℚ) (fallback : Flavour)

/-- Each request is placed, in the slot that the bandit chooses. -/
theorem banditStep_eq (solving : Solving σ) (request : Request) :
    ∃ slot rng, slot ∈ candidateSlots policy request ∧
      banditChoose runtime solving.1.1 (candidateSlots policy request) =
          (some slot, rng) ∧
        Carbonshift.banditStep runtime policy carbonForecast fallback solving
            request =
          let picked :=
            pickFlavour policy carbonForecast solving.1.2 slot fallback
          ((banditLearn { solving.1.1 with rng := rng } slot picked.2,
              solving.1.2.place slot picked.1),
            solving.2 ++ [makeAssignment request slot picked.1 picked.2]) := by
  have placed : ∃ slot ∈ candidateSlots policy request,
      (banditChoose runtime solving.1.1
        (candidateSlots policy request)).1 = some slot :=
    banditChoose_mem _ (candidateSlots_ne_nil policy request)
  obtain ⟨slot, candidate, chosen⟩ := placed
  generalize drawn : banditChoose runtime solving.1.1
    (candidateSlots policy request) = choice at chosen
  obtain ⟨slot', rng⟩ := choice
  cases chosen
  refine ⟨slot, rng, candidate, rfl, ?_⟩
  rw [Carbonshift.banditStep, drawn]

theorem assignmentIds_banditSteps (requests : List Request)
    (solving : Solving σ) :
    assignmentIds
        (requests.foldl
          (Carbonshift.banditStep runtime policy carbonForecast fallback)
          solving).2 =
      assignmentIds solving.2 ++ requestIds requests := by
  induction requests generalizing solving with
  | nil => simp
  | cons request rest inductionHypothesis =>
      obtain ⟨slot, rng, _, _, stepped⟩ :=
        banditStep_eq runtime policy carbonForecast fallback solving request
      rw [List.foldl_cons, inductionHypothesis, stepped]
      simp [makeAssignment, Assignment.new]

/-- A batch and the solve of everything: same bandit, and tallies of the same
placements. -/
structure Agrees (committed : List Assignment) (part whole : Solving σ) :
    Prop where
  bandit_eq : part.1.1 = whole.1.1
  assignments_eq : whole.2 = committed ++ part.2
  counts : part.1.2.Counts whole.2
  wholeCounts : whole.1.2.Counts whole.2

theorem Agrees.step {committed : List Assignment} {part whole : Solving σ}
    (agrees : Agrees committed part whole) (request : Request) :
    Agrees committed
      (Carbonshift.banditStep runtime policy carbonForecast fallback part
        request)
      (Carbonshift.banditStep runtime policy carbonForecast fallback whole
        request) := by
  obtain ⟨slot, rng, _, chosen, stepped⟩ :=
    banditStep_eq runtime policy carbonForecast fallback part request
  obtain ⟨slot', rng', _, chosen', stepped'⟩ :=
    banditStep_eq runtime policy carbonForecast fallback whole request
  rw [agrees.bandit_eq, chosen'] at chosen
  cases chosen
  have picked := agrees.counts.pickFlavour_eq agrees.wholeCounts policy
    carbonForecast slot fallback
  rw [stepped, stepped', picked, agrees.bandit_eq]
  refine ⟨rfl, ?_, ?_, ?_⟩
  · dsimp only
    rw [agrees.assignments_eq, List.append_assoc]
  · exact agrees.counts.place request slot _ _
  · exact agrees.wholeCounts.place request slot _ _

theorem Agrees.steps {committed : List Assignment} {part whole : Solving σ}
    (agrees : Agrees committed part whole) (requests : List Request) :
    Agrees committed
      (requests.foldl
        (Carbonshift.banditStep runtime policy carbonForecast fallback) part)
      (requests.foldl
        (Carbonshift.banditStep runtime policy carbonForecast fallback)
        whole) := by
  induction requests generalizing part whole with
  | nil => exact agrees
  | cons request rest inductionHypothesis =>
      exact inductionHypothesis
        (agrees.step runtime policy carbonForecast fallback request)

end Steps

/-! ## Batches against the committed state -/

section Batches

variable {runtime : NumericRuntime σ} {policy : AssignmentPolicy}
variable {carbonForecast : List ℚ} {params : BanditParams}
variable {fallback : Flavour} {profileId : QosProfileId}

/-- Nobody commits between the snapshot and the commit, so a batch is always
committed. -/
theorem OnlineRun.batch_eq (run : OnlineRun σ) (pending : List Request) :
    run.batch runtime policy carbonForecast profileId pending =
      (run.bandit.solveBatch runtime policy carbonForecast pending
        (run.shared.swarmContextSnapshotForProfile (some profileId))).map
          fun solved =>
            { bandit := solved.2
              shared :=
                run.shared.addAssignments (Engine.ownedBy profileId solved.1)
              assignments :=
                run.assignments ++ Engine.ownedBy profileId solved.1 } := by
  have current : Engine.CurrentCounts run.shared.assignments
      (run.shared.swarmContextSnapshotForProfile
        (some profileId)).slotCount := fun slot => getD_countSlots _ slot
  have attempt := fun proposed =>
    SharedState.tryAddAssignmentsChecked_of_committed
      (current.accepted proposed policy.capacityTiers false 0)
  unfold OnlineRun.batch
  refine Option.map_congr fun solved _ => ?_
  dsimp only
  rw [attempt]

/-- At a batch boundary: the committed state holds what was placed so far. -/
structure OnlineRun.Holds (profileId : QosProfileId) (run : OnlineRun σ)
    (whole : Solving σ) : Prop where
  bandit_eq : run.bandit = whole.1.1
  assignments_eq : run.assignments = Engine.ownedBy profileId whole.2
  counts : whole.1.2.Counts whole.2
  committed : CommittedFor profileId run.shared whole.2

/-- A batch of new requests is solved as a part of everything. -/
theorem OnlineRun.Holds.batch {run : OnlineRun σ} {whole : Solving σ}
    (holds : run.Holds profileId whole)
    (least : policy.flavours.argmin Flavour.error = some fallback)
    (pending : List Request)
    (distinct : (assignmentIds whole.2 ++ requestIds pending).Nodup) :
    ∃ next,
      run.batch runtime policy carbonForecast profileId pending = some next ∧
        next.Holds profileId
          (pending.foldl
            (Carbonshift.banditStep runtime policy carbonForecast fallback)
            whole) := by
  have begins : Agrees whole.2
      ((run.bandit,
        (run.shared.swarmContextSnapshotForProfile (some profileId)).tally),
          []) whole :=
    ⟨holds.bandit_eq, (List.append_nil _).symm, holds.committed.counts,
      holds.counts⟩
  have ends := begins.steps runtime policy carbonForecast fallback pending
  rw [← assignmentIds_banditSteps runtime policy carbonForecast fallback,
    ends.assignments_eq] at distinct
  have added := holds.committed.addAssignments _ distinct
  rw [← ends.assignments_eq] at added
  rw [OnlineRun.batch_eq, OnlineBanditState.solveBatch, least]
  refine ⟨_, rfl, ends.bandit_eq, ?_, ends.wholeCounts, added⟩
  dsimp only
  rw [holds.assignments_eq, ends.assignments_eq]
  exact List.map_append.symm

/-- Batches of new requests are solved as everything at once. -/
theorem OnlineRun.Holds.batches {run : OnlineRun σ} {whole : Solving σ}
    (holds : run.Holds profileId whole)
    (least : policy.flavours.argmin Flavour.error = some fallback)
    (pending : List (List Request))
    (distinct :
      (assignmentIds whole.2 ++ requestIds pending.flatten).Nodup) :
    ∃ final,
      pending.foldlM (OnlineRun.batch runtime policy carbonForecast profileId)
          run = some final ∧
        final.Holds profileId
          (pending.flatten.foldl
            (Carbonshift.banditStep runtime policy carbonForecast fallback)
            whole) := by
  induction pending generalizing run whole with
  | nil => exact ⟨run, rfl, holds⟩
  | cons first rest inductionHypothesis =>
      rw [List.flatten_cons, requestIds, List.map_append, ← List.append_assoc]
        at distinct
      obtain ⟨next, solved, held⟩ :=
        holds.batch least first (List.Nodup.of_append_left distinct)
      rw [List.flatten_cons, List.foldl_append, List.foldlM_cons, solved]
      refine inductionHypothesis held ?_
      rw [assignmentIds_banditSteps]
      exact distinct

/-- The online run commits what one solve of all requests places. -/
theorem OnlineRun.batches_assignments
    (least : policy.flavours.argmin Flavour.error = some fallback)
    (pending : List (List Request))
    (distinct : (requestIds pending.flatten).Nodup) :
    (OnlineRun.batches runtime policy carbonForecast params profileId
        pending).map OnlineRun.assignments =
      some (Engine.ownedBy profileId
        (pending.flatten.foldl
          (Carbonshift.banditStep runtime policy carbonForecast fallback)
          (Solving.start runtime policy params)).2) := by
  have holds : (OnlineRun.start runtime policy params).Holds profileId
      (Solving.start runtime policy params) :=
    ⟨rfl, rfl, ⟨fun _ => rfl, fun _ => List.Perm.refl _, rfl, rfl⟩,
      .new profileId⟩
  obtain ⟨final, solved, held⟩ := holds.batches least pending distinct
  rw [OnlineRun.batches, solved, Option.map_some, held.assignments_eq]

end Batches

/-! ## The offline pass -/

/-- An assignment, as the offline pass reports it. -/
def SwarmAssignment.ofAssignment (assignment : Assignment) :
    SwarmAssignment where
  requestId := assignment.requestId
  arrivalSlot := assignment.arrivalSlot.getD 0
  deadlineSlot := assignment.deadlineSlot.getD 0
  scheduledSlot := assignment.scheduledSlot
  flavourName := assignment.flavourName
  flavourDuration := assignment.flavourDuration
  error := assignment.error
  carbonCost := assignment.carbonCost

/-- The variables of the offline pass during one solve of everything. -/
def BanditPass.of (solving : Solving σ) : BanditPass σ where
  q := solving.1.1.q
  n := solving.1.1.n
  tally := solving.1.2
  rng := solving.1.1.rng
  assignments := solving.2.map .ofAssignment

section Offline

variable {runtime : NumericRuntime σ} {policy : AssignmentPolicy}
variable {carbonForecast : List ℚ} {params : BanditParams}
variable {fallback : Flavour}

/-- The candidates of a request within the horizon are within it. -/
theorem candidateSlots_inside {request : Request} {slot : ℤ}
    (nonneg : 0 ≤ request.arrivalSlot)
    (inside : request.arrivalSlot < policy.totalSlots)
    (candidate : slot ∈ candidateSlots policy request) :
    0 ≤ slot ∧ slot < policy.totalSlots := by
  have bounds := mem_slotRange.mp candidate
  omega

theorem exists_slotEntry {α : Type} {values : List α} {slot : ℤ}
    (sized : values.length = policy.totalSlots.toNat)
    (inside : 0 ≤ slot ∧ slot < policy.totalSlots) :
    ∃ value, slotEntry values slot = some value := by
  have position : slot.toNat < values.length := by omega
  refine ⟨values[slot.toNat], ?_⟩
  rw [slotEntry, if_neg (not_lt.mpr inside.1)]
  exact List.getElem?_eq_getElem position

/-- Where all estimates are there, both passes choose the same slot. -/
theorem chooseSlot_of_banditChoose {state : OnlineBanditState σ}
    {pass : BanditPass σ} {candidates : List ℤ} {slot : ℤ} {rng : σ}
    (q_eq : pass.q = state.q) (rng_eq : pass.rng = state.rng)
    (epsilon_eq : state.epsilon = params.epsilon)
    (estimated : ∀ slot ∈ candidates,
      ∃ estimate, slotEntry state.q slot = some estimate)
    (chosen : banditChoose runtime state candidates = (some slot, rng)) :
    chooseSlot runtime params pass candidates = some (slot, rng) := by
  unfold banditChoose at chosen
  unfold chooseSlot
  rw [q_eq, rng_eq, ← epsilon_eq]
  dsimp only at chosen ⊢
  split at chosen
  · rename_i explores
    obtain ⟨found, rfl⟩ := Prod.mk.inj chosen
    rw [if_pos explores, found]
    rfl
  · rename_i exploits
    obtain ⟨found, rfl⟩ := Prod.mk.inj chosen
    have known : (candidates.all fun slot =>
        (slotEntry state.q slot).isSome) = true := by
      rw [List.all_eq_true]
      intro slot member
      obtain ⟨estimate, entry⟩ := estimated slot member
      rw [entry]
      rfl
    have same : candidates.argmin
          (fun slot => (slotEntry state.q slot).getD 0) =
        candidates.argmin fun slot =>
          (slotEntry state.q slot).elim (⊤ : WithTop ℚ)
            fun q => (q : WithTop ℚ) := by
      refine List.argmin_congr fun left leftMember right rightMember => ?_
      obtain ⟨first, firstEntry⟩ := estimated left leftMember
      obtain ⟨second, secondEntry⟩ := estimated right rightMember
      rw [firstEntry, secondEntry]
      exact WithTop.coe_le_coe.symm
    rw [if_neg exploits, if_pos known, same, found]
    rfl

/-- A step of the offline pass is one of the solve of everything. -/
theorem banditStep_of {solving : Solving σ} {request : ScenarioRequest}
    (sized : solving.1.1.Sized policy.totalSlots.toNat)
    (epsilon_eq : solving.1.1.epsilon = params.epsilon)
    (nonneg : 0 ≤ request.arrivalSlot)
    (inside : request.arrivalSlot < policy.totalSlots) (now : ℚ) :
    banditStep runtime policy carbonForecast params fallback
        (BanditPass.of solving) request =
      some (BanditPass.of
        (Carbonshift.banditStep runtime policy carbonForecast fallback solving
          (request.toRequest now))) := by
  obtain ⟨slot, rng, candidate, chosen, stepped⟩ :=
    banditStep_eq runtime policy carbonForecast fallback solving
      (request.toRequest now)
  have within := fun slot (candidate : slot ∈ candidateSlots policy
      (request.toRequest now)) =>
    candidateSlots_inside nonneg inside candidate
  obtain ⟨samples, sampled⟩ :=
    exists_slotEntry sized.length_n (within slot candidate)
  have offline : chooseSlot runtime params (BanditPass.of solving)
      (candidateSlots policy (request.toRequest now)) = some (slot, rng) :=
    chooseSlot_of_banditChoose rfl rfl epsilon_eq
      (fun slot candidate =>
        exists_slotEntry sized.length_q (within slot candidate)) chosen
  have someCandidate : (candidateSlots policy
      (request.toRequest now)).isEmpty = false :=
    List.isEmpty_eq_false_iff.mpr (candidateSlots_ne_nil _ _)
  have candidates : validSlots request policy.assignmentMaxFutureSlots
      policy.totalSlots = candidateSlots policy (request.toRequest now) := rfl
  rw [stepped, banditStep, candidates]
  dsimp only
  rw [if_neg (by simp [someCandidate]), offline, Option.bind_some]
  have learned : slotEntry
      ({ solving.1.1 with rng := rng } : OnlineBanditState σ).n slot =
        some samples := sampled
  rw [banditLearn, learned]
  have passed : slotEntry (BanditPass.of solving).n slot = some samples :=
    sampled
  rw [passed, Option.map_some]
  refine congrArg some ?_
  unfold BanditPass.of
  dsimp only
  rw [List.map_append]
  rfl

/-- The offline pass is one solve of everything. -/
theorem banditSteps_of {solving : Solving σ}
    (requests : List ScenarioRequest) (now : ScenarioRequest → ℚ)
    (sized : solving.1.1.Sized policy.totalSlots.toNat)
    (epsilon_eq : solving.1.1.epsilon = params.epsilon)
    (arrivals : ∀ request ∈ requests,
      0 ≤ request.arrivalSlot ∧ request.arrivalSlot < policy.totalSlots) :
    requests.foldlM
        (banditStep runtime policy carbonForecast params fallback)
        (BanditPass.of solving) =
      some (BanditPass.of
        ((requests.map fun request => request.toRequest (now request)).foldl
          (Carbonshift.banditStep runtime policy carbonForecast fallback)
          solving)) := by
  induction requests generalizing solving with
  | nil => rfl
  | cons request rest inductionHypothesis =>
      obtain ⟨nonneg, inside⟩ := arrivals request List.mem_cons_self
      obtain ⟨slot, rng, _, _, stepped⟩ :=
        banditStep_eq runtime policy carbonForecast fallback solving
          (request.toRequest (now request))
      rw [List.foldlM_cons, banditStep_of sized epsilon_eq nonneg inside
        (now request), List.map_cons, List.foldl_cons]
      refine inductionHypothesis ?_ ?_ fun other member =>
        arrivals other (List.mem_cons_of_mem _ member)
      · have moved : ({ solving.1.1 with rng := rng } :
            OnlineBanditState σ).Sized policy.totalSlots.toNat :=
          ⟨sized.length_q, sized.length_n⟩
        rw [stepped]
        exact moved.banditLearn slot _
      · rw [stepped]
        dsimp only
        rw [banditLearn_epsilon]
        exact epsilon_eq

end Offline

/-! ## Online and offline -/

/-- Slot, flavour, error and cost of an assignment. -/
def decision (assignment : Assignment) : ℤ × String × ℚ × ℚ :=
  (assignment.scheduledSlot, assignment.flavourName, assignment.error,
    assignment.carbonCost)

def SwarmAssignment.decision (assignment : SwarmAssignment) :
    ℤ × String × ℚ × ℚ :=
  (assignment.scheduledSlot, assignment.flavourName, assignment.error,
    assignment.carbonCost)

/-- However the requests are cut into batches, the online bandit commits what
the offline bandit decides. -/
theorem online_bandit_eq_offline (runtime : NumericRuntime σ)
    (policy : AssignmentPolicy) (someFlavour : policy.flavours ≠ [])
    (carbonForecast : List ℚ) (params : BanditParams)
    (profileId : QosProfileId) (now : ScenarioRequest → ℚ)
    (requests : List ScenarioRequest) (batches : List (List ScenarioRequest))
    (partition : batches.flatten = requests)
    (distinct : (requests.map ScenarioRequest.requestId).Nodup)
    (arrivals : ∀ request ∈ requests,
      0 ≤ request.arrivalSlot ∧ request.arrivalSlot < policy.totalSlots) :
    (runBandit runtime policy carbonForecast params requests).map
        (List.map SwarmAssignment.decision) =
      ((OnlineRun.batches runtime policy carbonForecast params profileId
        (batches.map fun batch =>
          batch.map fun request => request.toRequest (now request))).map
            OnlineRun.assignments).map (List.map decision) := by
  obtain ⟨fallback, least⟩ := List.exists_argmin Flavour.error someFlavour
  have flat : (batches.map fun batch =>
      batch.map fun request => request.toRequest (now request)).flatten =
        requests.map fun request => request.toRequest (now request) := by
    rw [← partition, List.map_flatten]
  have ids : requestIds (batches.map fun batch =>
      batch.map fun request =>
        request.toRequest (now request)).flatten =
        requests.map ScenarioRequest.requestId := by
    rw [flat, requestIds, List.map_map]
    rfl
  have sized : (Solving.start runtime policy
      params).1.1.Sized policy.totalSlots.toNat :=
    ⟨List.length_replicate, List.length_replicate⟩
  have offline : requests.foldlM
      (banditStep runtime policy carbonForecast params fallback)
      (BanditPass.start runtime policy params) = _ :=
    banditSteps_of requests now sized rfl arrivals
  rw [OnlineRun.batches_assignments least _ (ids ▸ distinct), flat,
    runBandit, least, Option.bind_some, offline, Option.map_some,
    Option.map_some, Option.map_some]
  refine congrArg some ?_
  unfold BanditPass.of Engine.ownedBy
  dsimp only
  rw [List.map_map, List.map_map]
  rfl

/-- Two batches of three requests. -/
theorem online_bandit_eq_offline_twoBatches :
    (runBandit .least Config.default.assignmentPolicy (List.replicate 24 1)
        .default [⟨1, 0, 3⟩, ⟨2, 0, 3⟩, ⟨3, 1, 3⟩]).map
        (List.map SwarmAssignment.decision) =
      ((OnlineRun.batches .least Config.default.assignmentPolicy
        (List.replicate 24 1) .default .defaultProfile
        [[.new 0 1 0 3, .new 0 2 0 3], [.new 0 3 1 3]]).map
          OnlineRun.assignments).map (List.map decision) :=
  online_bandit_eq_offline .least Config.default.assignmentPolicy
    (List.cons_ne_nil _ _) (List.replicate 24 1) .default .defaultProfile
    (fun _ => 0) [⟨1, 0, 3⟩, ⟨2, 0, 3⟩, ⟨3, 1, 3⟩]
    [[⟨1, 0, 3⟩, ⟨2, 0, 3⟩], [⟨3, 1, 3⟩]] rfl (by decide) (by decide)

/-- Sorted by arrival slot, then by identifier. -/
def SortedByArrival (requests : List ScenarioRequest) : Prop :=
  requests.Pairwise fun earlier later =>
    earlier.arrivalSlot < later.arrivalSlot ∨
      earlier.arrivalSlot = later.arrivalSlot ∧
        earlier.requestId ≤ later.requestId

instance (requests : List ScenarioRequest) :
    Decidable (SortedByArrival requests) :=
  inferInstanceAs (Decidable (List.Pairwise _ _))

/-- The third position of a slot costs twice as much. -/
def steepPolicy : AssignmentPolicy :=
  { Config.default.assignmentPolicy with
    capacityTiers := [⟨some 2, 1⟩, ⟨none, 2⟩] }

/-- Requests that share an identifier: the committed state keeps one of them,
so the third one takes the second position, which is cheaper. -/
theorem online_bandit_ne_offline_of_shared_id :
    SortedByArrival [⟨1, 0, 0⟩, ⟨1, 0, 0⟩, ⟨1, 0, 0⟩] ∧
      ∃ run ∈ OnlineRun.batches .least steepPolicy (List.replicate 24 1)
          .default .defaultProfile
          [[.new 0 1 0 0], [.new 0 1 0 0], [.new 0 1 0 0]],
        (runBandit .least steepPolicy (List.replicate 24 1) .default
          [⟨1, 0, 0⟩, ⟨1, 0, 0⟩, ⟨1, 0, 0⟩]).map
            (List.map SwarmAssignment.decision) ≠
          some (run.assignments.map decision) := by
  decide +kernel

end Nshift

end Carbonshift
