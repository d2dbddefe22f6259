import Carbonshift.Client.Ticks
import Carbonshift.Library.Transition

/-!
# Which requests of a plan are submitted

When the ticks sweep over all slots of a plan, exactly those requests are
submitted that do not start before the slot of the plan's first request, each
once and in the slot that contains its start.
-/

namespace Carbonshift

namespace Client

open Provider (SlotGrid)

/-! ## The span of a plan -/

theorem le_foldl_max (values : List ℤ) (start : ℤ) :
    start ≤ values.foldl max start ∧
      ∀ value ∈ values, value ≤ values.foldl max start := by
  induction values generalizing start with
  | nil => exact ⟨le_rfl, fun value member => absurd member List.not_mem_nil⟩
  | cons first rest inductionHypothesis =>
      obtain ⟨above, others⟩ := inductionHypothesis (max start first)
      refine ⟨(le_max_left start first).trans above, ?_⟩
      intro value member
      rcases List.mem_cons.mp member with rfl | later
      · exact (le_max_right start value).trans above
      · exact others value later

theorem foldl_max_mem (values : List ℤ) (start : ℤ) :
    values.foldl max start = start ∨ values.foldl max start ∈ values := by
  induction values generalizing start with
  | nil => exact Or.inl rfl
  | cons first rest inductionHypothesis =>
      rcases inductionHypothesis (max start first) with same | member
      · rcases max_choice start first with left | right
        · exact Or.inl (same.trans left)
        · refine Or.inr ?_
          rw [List.foldl_cons, same, right]
          exact List.mem_cons_self
      · exact Or.inr (List.mem_cons_of_mem first member)

/-- The slot that contains the start of a request. -/
def PlanRequest.slotIn (grid : SlotGrid) (request : PlanRequest) : ℤ :=
  slotContaining grid request.startAt

/-- Slot numbers whose differences double precision represents. -/
def ExactSlots (grid : SlotGrid) (requests : List PlanRequest) : Prop :=
  ∀ request ∈ requests, |request.slotIn grid| < 2 ^ 52

instance (grid : SlotGrid) (requests : List PlanRequest) :
    Decidable (ExactSlots grid requests) :=
  inferInstanceAs (Decidable (∀ request ∈ requests, _))

section Span

variable {grid : SlotGrid} {requests : List PlanRequest}

/-- Slot of the first request. -/
def firstSlot (grid : SlotGrid) (requests : List PlanRequest)
    (nonempty : requests ≠ []) : ℤ :=
  (requests.head nonempty).slotIn grid

/-- Slot of the latest request. -/
def latestSlot (grid : SlotGrid) (requests : List PlanRequest)
    (nonempty : requests ≠ []) : ℤ :=
  slotContaining grid (Plan.lastStart requests nonempty)

theorem exists_lastStart (nonempty : requests ≠ []) :
    ∃ request ∈ requests,
      Plan.lastStart requests nonempty = request.startAt := by
  rcases foldl_max_mem (requests.map PlanRequest.startAt)
      (requests.head nonempty).startAt with same | member
  · exact ⟨_, List.head_mem nonempty, same⟩
  · obtain ⟨request, inside, same⟩ := List.mem_map.mp member
    exact ⟨request, inside, same.symm⟩

theorem slotIn_le_latestSlot (nonempty : requests ≠ [])
    {request : PlanRequest} (member : request ∈ requests) :
    request.slotIn grid ≤ latestSlot grid requests nonempty :=
  slotContaining_mono
    ((le_foldl_max _ _).2 request.startAt (List.mem_map_of_mem member))

theorem planStartSlot_new (nonempty : requests ≠ [])
    (exact : ExactSlots grid requests) :
    (Plan.new grid requests nonempty).planStartSlot =
      firstSlot grid requests nonempty :=
  slotOf_floorToSlot
    (lt_trans (exact _ (List.head_mem nonempty)) (by norm_num))

theorem slotCount_new (nonempty : requests ≠ [])
    (exact : ExactSlots grid requests) :
    (Plan.new grid requests nonempty).slotCount =
      latestSlot grid requests nonempty -
        firstSlot grid requests nonempty + 1 := by
  obtain ⟨request, member, latest⟩ := exists_lastStart nonempty
  have small : |slotContaining grid (Plan.lastStart requests nonempty)| <
      2 ^ 53 := by
    rw [latest]
    exact lt_trans (exact request member) (by norm_num)
  have start := planStartSlot_new nonempty exact
  have last := slotOf_floorToSlot small
  change slotOf grid (floorToSlot grid (Plan.lastStart requests nonempty)) -
    (Plan.new grid requests nonempty).planStartSlot + 1 = _
  rw [last, start]
  rfl

/-- The batch of an index are the requests of that slot. -/
theorem batch_new (nonempty : requests ≠ [])
    (exact : ExactSlots grid requests) (slot : ℤ) :
    getBatchFromSlot grid (requests.head nonempty).startAt requests
        (slot - firstSlot grid requests nonempty) =
      requests.filter fun request => request.slotIn grid = slot := by
  rw [getBatchFromSlot_eq]
  refine List.filter_congr fun request member => ?_
  have first := abs_lt.mp (exact _ (List.head_mem nonempty))
  have own := abs_lt.mp (exact request member)
  have apart : |request.slotIn grid -
      (requests.head nonempty).slotIn grid| < 2 ^ 53 := by
    rw [abs_lt]
    constructor <;> omega
  have index : slotIndex grid request.startAt
      (requests.head nonempty).startAt =
        request.slotIn grid - firstSlot grid requests nonempty :=
    slotIndex_eq apart
  rw [index, decide_eq_decide]
  omega

end Span

/-! ## One tick -/

namespace ClientState

variable {settings : Settings} {state next : ClientState}
variable {accepts : Acceptance} {slot boundary : ℤ} {planId : ℕ}
variable {plan : Plan} {progress : TickResponse × ClientState}

/-- Slot and request of what was submitted for a plan. -/
def sentFor (state : ClientState) (planId : ℕ) :
    List (ℤ × PlanRequest) :=
  (state.submissions.filter fun submission =>
    submission.planId = planId).map fun submission =>
      (submission.batch.slot, submission.request)

/-- A plan and its submissions are the same in two states. -/
structure SamePlan (planId : ℕ) (state next : ClientState) : Prop where
  stored : next.store.plans.lookup planId = state.store.plans.lookup planId
  sent : next.sentFor planId = state.sentFor planId

theorem SamePlan.refl (planId : ℕ) (state : ClientState) :
    SamePlan planId state state :=
  ⟨rfl, rfl⟩

theorem SamePlan.trans {middle : ClientState}
    (first : SamePlan planId state middle)
    (second : SamePlan planId middle next) : SamePlan planId state next :=
  ⟨second.stored.trans first.stored, second.sent.trans first.sent⟩

theorem sentFor_sendSlotBatch_of_ne {other : ℕ} (different : other ≠ planId)
    (batch : SlotBatch) (requests : List PlanRequest) :
    (sendSlotBatch accepts other batch requests).filter
      (fun submission => submission.planId = planId) = [] := by
  rw [List.filter_eq_nil_iff]
  intro submission member
  obtain ⟨request, -, rfl⟩ := List.mem_map.mp member
  simpa using different

/-- A tick handles each plan for itself. -/
theorem samePlan_handlePlan {entry : ℕ × ℤ} (different : entry.1 ≠ planId) :
    SamePlan planId progress.2
      (handlePlan settings accepts slot boundary progress entry).2 := by
  unfold handlePlan
  dsimp only
  split
  · exact .refl planId _
  · split
    · exact .refl planId _
    · rename_i plan found
      constructor
      · exact OrderedDictionary.lookup_adjust_of_ne _ _ (Ne.symm different)
      · rw [sentFor, submitSlot, List.filter_append,
          sentFor_sendSlotBatch_of_ne different, List.append_nil, sentFor]

theorem samePlan_foldl (progress : TickResponse × ClientState)
    {entries : List (ℕ × ℤ)} (aside : planId ∉ entries.map Prod.fst) :
    SamePlan planId progress.2
      (entries.foldl (handlePlan settings accepts slot boundary)
        progress).2 := by
  induction entries generalizing progress with
  | nil => exact .refl planId _
  | cons entry rest inductionHypothesis =>
      rw [List.map_cons, List.mem_cons, not_or] at aside
      exact (samePlan_handlePlan (Ne.symm aside.1)).trans
        (inductionHypothesis _ aside.2)

/-- What a tick does to a plan that spans its slot. -/
structure Handled (settings : Settings) (accepts : Acceptance)
    (slot boundary : ℤ) (planId : ℕ) (plan : Plan) (index : ℤ)
    (state next : ClientState) : Prop where
  stored : next.store.plans.lookup planId = some (plan.markProcessed slot)
  sent : next.sentFor planId = state.sentFor planId ++
    ((plan.batch index).filter accepts).map fun request => (slot, request)

theorem handled_handlePlan {index : ℤ}
    (found : progress.2.store.plans.lookup planId = some plan)
    (open_ : plan.alreadyProcessed slot = false) :
    Handled settings accepts slot boundary planId plan index progress.2
      (handlePlan settings accepts slot boundary progress
        (planId, index)).2 := by
  have unprocessed :
      progress.2.store.isSlotAlreadyProcessed planId slot = false := by
    rw [PlanStore.isSlotAlreadyProcessed, found]
    exact open_
  unfold handlePlan
  dsimp only
  rw [if_neg (by simp [unprocessed])]
  split
  · rename_i missing
    rw [found] at missing
    cases missing
  · rename_i stored present
    obtain rfl : plan = stored := Option.some.inj (found.symm.trans present)
    constructor
    · change (progress.2.store.plans.adjust planId _).lookup planId = _
      rw [OrderedDictionary.lookup_adjust_self, found]
      rfl
    · have own : (sendSlotBatch accepts planId
          (slotBatch settings plan slot boundary) (plan.batch index)).filter
            (fun submission => submission.planId = planId) =
              sendSlotBatch accepts planId
                (slotBatch settings plan slot boundary)
                (plan.batch index) := by
        rw [List.filter_eq_self]
        intro submission member
        obtain ⟨request, -, rfl⟩ := List.mem_map.mp member
        exact decide_eq_true rfl
      rw [sentFor, submitSlot, List.filter_append, own, List.map_append,
        sendSlotBatch, List.map_map]
      rfl

theorem samePlan_of_processed {index : ℤ}
    (found : progress.2.store.plans.lookup planId = some plan)
    (closed : plan.alreadyProcessed slot = true) :
    SamePlan planId progress.2
      (handlePlan settings accepts slot boundary progress
        (planId, index)).2 := by
  have processed :
      progress.2.store.isSlotAlreadyProcessed planId slot = true := by
    rw [PlanStore.isSlotAlreadyProcessed, found]
    exact closed
  unfold handlePlan
  dsimp only
  rw [if_pos processed]
  exact .refl planId _

/-- Every plan occurs at most once among those of a slot. -/
theorem nodup_getPlanForSlot (store : PlanStore) (slot : ℤ) :
    ((store.getPlanForSlot slot).map Prod.fst).Nodup := by
  have spanning : (store.getPlanForSlot slot).map Prod.fst =
      (store.plans.pairs.filter fun entry =>
        (entry.2.indexOf slot).isSome).map Prod.fst := by
    unfold PlanStore.getPlanForSlot
    induction store.plans.pairs with
    | nil => rfl
    | cons entry rest inductionHypothesis =>
        cases index : entry.2.indexOf slot with
        | none => simp [index, inductionHypothesis]
        | some index => simp [index, inductionHypothesis]
  rw [spanning]
  exact store.plans.distinct.sublist (List.filter_sublist.map Prod.fst)

theorem mem_getPlanForSlot_iff {store : PlanStore} {index : ℤ}
    (found : store.plans.lookup planId = some plan) :
    (planId, index) ∈ store.getPlanForSlot slot ↔
      plan.indexOf slot = some index := by
  unfold PlanStore.getPlanForSlot
  rw [List.mem_filterMap]
  constructor
  · rintro ⟨⟨other, stored⟩, member, same⟩
    obtain ⟨position, spans, equal⟩ := Option.map_eq_some_iff.mp same
    cases equal
    have known := OrderedDictionary.mem_pairs_iff.mp member
    rw [found] at known
    cases known
    exact spans
  · intro spans
    exact ⟨(planId, plan), OrderedDictionary.mem_pairs_iff.mpr found,
      by rw [spans]; rfl⟩

/-- A tick of a slot outside the plan, or handled before, does nothing. -/
theorem samePlan_processSlotTick
    (found : state.store.plans.lookup planId = some plan)
    (nothing : plan.indexOf slot = none ∨
      plan.alreadyProcessed slot = true) :
    SamePlan planId state
      (state.processSlotTick settings accepts slot boundary).2 := by
  by_cases member : planId ∈
      (state.store.getPlanForSlot slot).map Prod.fst
  · obtain ⟨⟨other, index⟩, inside, rfl⟩ := List.mem_map.mp member
    have spans := (mem_getPlanForSlot_iff found).mp inside
    rcases nothing with outside | processed
    · rw [spans] at outside
      cases outside
    · obtain ⟨before, after, split⟩ := List.append_of_mem inside
      have distinct := nodup_getPlanForSlot state.store slot
      rw [split, List.map_append, List.map_cons,
        List.nodup_middle, List.nodup_cons, List.mem_append, not_or]
        at distinct
      have first : SamePlan other state (before.foldl
          (handlePlan settings accepts slot boundary)
            (⟨slot, [], 0, false⟩, state)).2 :=
        samePlan_foldl (⟨slot, [], 0, false⟩, state) distinct.1.1
      rw [processSlotTick, split, List.foldl_append, List.foldl_cons]
      exact (first.trans (samePlan_of_processed
        (first.stored.trans found) processed)).trans
          (samePlan_foldl _ distinct.1.2)
  · exact samePlan_foldl (⟨slot, [], 0, false⟩, state) member

/-- The first tick of a slot of the plan submits its requests. -/
theorem handled_processSlotTick {index : ℤ}
    (found : state.store.plans.lookup planId = some plan)
    (spans : plan.indexOf slot = some index)
    (open_ : plan.alreadyProcessed slot = false) :
    Handled settings accepts slot boundary planId plan index state
      (state.processSlotTick settings accepts slot boundary).2 := by
  have inside := (mem_getPlanForSlot_iff found).mpr spans
  obtain ⟨before, after, split⟩ := List.append_of_mem inside
  have distinct := nodup_getPlanForSlot state.store slot
  rw [split, List.map_append, List.map_cons, List.nodup_middle,
    List.nodup_cons, List.mem_append, not_or] at distinct
  have first : SamePlan planId state (before.foldl
      (handlePlan settings accepts slot boundary)
        (⟨slot, [], 0, false⟩, state)).2 :=
    samePlan_foldl (⟨slot, [], 0, false⟩, state) distinct.1.1
  have own : Handled settings accepts slot boundary planId plan index _ _ :=
    handled_handlePlan (first.stored.trans found) open_
  rw [processSlotTick, split, List.foldl_append, List.foldl_cons]
  have last : SamePlan planId _ (after.foldl
      (handlePlan settings accepts slot boundary) _).2 :=
    samePlan_foldl (handlePlan settings accepts slot boundary
      (before.foldl (handlePlan settings accepts slot boundary)
        (⟨slot, [], 0, false⟩, state)) (planId, index)) distinct.1.2
  exact ⟨last.stored.trans own.stored,
    last.sent.trans (own.sent.trans (by rw [first.sent]))⟩

end ClientState

end Client

end Carbonshift
