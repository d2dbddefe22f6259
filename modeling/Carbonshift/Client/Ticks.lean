import Carbonshift.Client.PlanStore
import Carbonshift.Service.Clock

/-!
# Ticks of the client

A tick names a global slot.  The client submits the requests of every plan
that spans the slot, unless it did so before.
-/

namespace Carbonshift

namespace Client

open Provider (SlotGrid)

structure Settings where
  grid : SlotGrid
  manualClock : Bool

/-- A request that was submitted for a plan. -/
structure Submission where
  planId : ℕ
  batch : SlotBatch
  request : PlanRequest

/-- Does CarbonShift accept a request? -/
abbrev Acceptance := PlanRequest → Bool

/-- Submit every request of a batch; a refused one is skipped. -/
def sendSlotBatch (accepts : Acceptance) (planId : ℕ) (batch : SlotBatch)
    (requests : List PlanRequest) : List Submission :=
  (requests.filter accepts).map fun request => ⟨planId, batch, request⟩

structure TickResponse where
  slot : ℤ
  planIndex : List (ℕ × ℤ)
  submitted : ℕ
  duplicate : Bool
  deriving DecidableEq, Repr

structure ClientState where
  store : PlanStore
  /-- Requests that CarbonShift has accepted, oldest first. -/
  submissions : List Submission
  known : ∀ submission ∈ submissions, submission.planId < store.nextPlanId

namespace ClientState

def new : ClientState where
  store := .new
  submissions := []
  known _ member := absurd member List.not_mem_nil

variable (settings : Settings) (state : ClientState)

/-- What is sent for a slot of a plan. -/
def slotBatch (plan : Plan) (slot boundary : ℤ) : SlotBatch where
  grid := plan.grid
  slot := slot
  deadlineReference := if settings.manualClock then some boundary else none

/-- Submit the requests of one plan, and remember the slot. -/
def submitSlot (accepts : Acceptance) (slot boundary : ℤ) (planId : ℕ)
    (plan : Plan) (stored : planId ∈ state.store.plans.keys)
    (planIndex : ℤ) : ClientState where
  store := state.store.markSlotProcessed planId slot
  submissions := state.submissions ++
    sendSlotBatch accepts planId (slotBatch settings plan slot boundary)
      (plan.batch planIndex)
  known := by
    intro submission member
    rcases List.mem_append.mp member with earlier | sent
    · exact state.known submission earlier
    · obtain ⟨request, -, rfl⟩ := List.mem_map.mp sent
      exact state.store.counted planId stored

/-- One plan of a tick. -/
def handlePlan (accepts : Acceptance) (slot boundary : ℤ)
    (progress : TickResponse × ClientState) (entry : ℕ × ℤ) :
    TickResponse × ClientState :=
  let response := progress.1
  let state := progress.2
  if state.store.isSlotAlreadyProcessed entry.1 slot then
    ({ response with duplicate := true }, state)
  else
    match found : state.store.plans.lookup entry.1 with
    | none => progress
    | some plan =>
        let sent := (plan.batch entry.2).countP accepts
        ({ response with
            planIndex := response.planIndex ++ [entry]
            submitted := response.submitted + sent },
          state.submitSlot settings accepts slot boundary entry.1 plan
            (OrderedDictionary.mem_keys_of_lookup found) entry.2)

def processSlotTick (accepts : Acceptance) (slot boundary : ℤ) :
    TickResponse × ClientState :=
  (state.store.getPlanForSlot slot).foldl
    (handlePlan settings accepts slot boundary)
    (⟨slot, [], 0, false⟩, state)

/-- Register a plan. -/
def storePlan (grid : SlotGrid) (requests : List PlanRequest) :
    Except String (ℕ × ClientState) :=
  match stored : state.store.storePlan grid requests with
  | .error message => .error message
  | .ok (planId, store) =>
      .ok (planId,
        { store := store
          submissions := state.submissions
          known := by
            intro submission member
            have earlier := state.known submission member
            unfold PlanStore.storePlan at stored
            split at stored
            · cases stored
              exact Nat.lt_succ_of_lt earlier
            · cases stored })

/-- The text of a refused slot length. -/
def slotLengthMismatch (showF64 : ℚ → String) (slotMinutes : ℚ) : String :=
  "plan slot length (" ++ showF64 slotMinutes ++
    " minutes) does not match client/provider slot length (" ++
    showF64 settings.grid.slotMinutes ++ " minutes)"

/-- Register a plan, then submit its current slot when running in real
time. -/
def runSendPlan (showF64 : ℚ → String) (accepts : Acceptance)
    (grid : SlotGrid) (requests : List PlanRequest) (now : ℤ) :
    Except ApiError (ℕ × ClientState) :=
  if 1 / 1000000000 < |grid.slotMinutes - settings.grid.slotMinutes| then
    .error ⟨409, slotLengthMismatch settings showF64 grid.slotMinutes⟩
  else
    match state.storePlan grid requests with
    | .error _ => .error ⟨500, "Internal Server Error"⟩
    | .ok (planId, state) =>
        if settings.manualClock then
          .ok (planId, state)
        else
          let currentSlot := slotOf settings.grid now
          .ok (planId,
            (state.processSlotTick settings accepts currentSlot
              (slotStartUtc settings.grid currentSlot)).2)

/-- A plan is registered, or a slot is ticked. -/
inductive Action where
  | storePlan (grid : SlotGrid) (requests : List PlanRequest)
  | tick (accepts : Acceptance) (slot boundary : ℤ)

def step : Action → ClientState
  | .storePlan grid requests =>
      match state.storePlan grid requests with
      | .error _ => state
      | .ok (_, next) => next
  | .tick accepts slot boundary =>
      (state.processSlotTick settings accepts slot boundary).2

variable {settings state}

/-- Sending a plan registers it, and in real time ticks the current slot. -/
theorem runSendPlan_eq_steps {showF64 : ℚ → String} {accepts : Acceptance}
    {grid : SlotGrid} {requests : List PlanRequest} {now : ℤ} {planId : ℕ}
    {final : ClientState}
    (sent : state.runSendPlan settings showF64 accepts grid requests now =
      .ok (planId, final)) :
    final = ((.storePlan grid requests ::
      if settings.manualClock then
        []
      else
        [.tick accepts (slotOf settings.grid now)
          (slotStartUtc settings.grid (slotOf settings.grid now))]).foldl
            (step settings) state) := by
  unfold runSendPlan at sent
  split at sent
  · cases sent
  · split at sent
    · cases sent
    · rename_i registered stored
      rw [List.foldl_cons, step, stored]
      split at sent
      · rename_i manual
        cases sent
        rw [if_pos manual, List.foldl_nil]
      · rename_i realtime
        cases sent
        rw [if_neg realtime, List.foldl_cons, List.foldl_nil, step]

end ClientState

end Client

end Carbonshift
