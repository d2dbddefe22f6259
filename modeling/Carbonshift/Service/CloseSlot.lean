import Carbonshift.Service.Clock

/-!
# Closing a slot

The provider closes a slot after its clients have submitted their requests.
The handler shuts the admission, asks for a flush, and polls until everything
that belongs to the slot is assigned, dispatched and called back.
-/

namespace Carbonshift

structure CloseSlotBody where
  currentSlot : ℤ
  slotMinutes : ℚ
  deriving DecidableEq, Repr

structure CloseSlotResponse where
  currentSlot : ℤ
  closed : Bool
  /-- Assignments due by the boundary. -/
  assignments : ℕ
  /-- Those whose callback is in. -/
  callbacks : ℕ
  deriving DecidableEq, Repr

/-- How far a close-slot request is. -/
inductive ClosePhase where
  | translated (engineSlot : ℤ)
  | current (engineSlot : ℤ)
  | fenced (engineSlot : ℤ)
  | draining (engineSlot : ℤ)
  | observed (engineSlot : ℤ) (assignments : Dictionary ℕ Assignment)
  | answered (engineSlot : ℤ) (answer : Except ApiError CloseSlotResponse)
  | panicked

namespace TrackedRequest

variable (tracked : TrackedRequest)

/-- The executor's result is in. -/
def isCalledBack : Bool :=
  tracked.executorCallbackReceived && tracked.status.isTerminal

/-- The dispatcher has given up. -/
def dispatchFailed : Bool :=
  tracked.status == .failed && !tracked.executorCallbackReceived

end TrackedRequest

/-! ## The barrier -/

section Barrier

variable (engineSlot : ℤ) (assignments : Dictionary ℕ Assignment)
variable (tracked : Dictionary ℕ TrackedRequest)

/-- Accepted requests of the slot that have no assignment. -/
def unscheduledRequests : List (ℕ × TrackedRequest) :=
  tracked.toPairs.filter fun entry =>
    decide (entry.2.arrivalSlot ≤ engineSlot) &&
      (assignments.lookup entry.1).isNone

/-- Assignments due by the boundary. -/
def dueByBoundary : List (ℕ × Assignment) :=
  assignments.toPairs.filter fun entry =>
    decide (entry.2.scheduledSlot ≤ engineSlot)

/-- Due assignments that are not handed to the executor. -/
def dispatchingAssignments : List (ℕ × Assignment) :=
  (dueByBoundary engineSlot assignments).filter fun entry =>
    (tracked.lookup entry.1).all fun request => request.status.isWaiting

/-- Due assignments whose result is missing. -/
def callbacksPending : List (ℕ × Assignment) :=
  (dueByBoundary engineSlot assignments).filter fun entry =>
    (tracked.lookup entry.1).all fun request => !request.isCalledBack

/-- The response when the slot is drained. -/
def closedResponse (body : CloseSlotBody) : CloseSlotResponse where
  currentSlot := body.currentSlot
  closed := true
  assignments := (dueByBoundary engineSlot assignments).length
  callbacks :=
    (dueByBoundary engineSlot assignments).countP fun entry =>
      (tracked.lookup entry.1).any TrackedRequest.isCalledBack

/-- One look at the slot: the answer, or none to look again. -/
def drainAnswer (settings : ServiceSettings) (body : CloseSlotBody)
    (timedOut : Bool) : Option (Except ApiError CloseSlotResponse) :=
  let unscheduled := (unscheduledRequests engineSlot assignments tracked).length
  let dispatching :=
    (dispatchingAssignments engineSlot assignments tracked).length
  let pending :=
    if settings.service.executorUrl.isSome then
      (callbacksPending engineSlot assignments tracked).length
    else
      0
  if (dueByBoundary engineSlot assignments).any (fun entry =>
      (tracked.lookup entry.1).any TrackedRequest.dispatchFailed) then
    some (.error (.serviceUnavailable
      ("slot " ++ toString engineSlot ++
        " has an assignment that failed to dispatch")))
  else if unscheduled = 0 ∧ dispatching = 0 ∧ pending = 0 then
    some (.ok (closedResponse engineSlot assignments tracked body))
  else if timedOut then
    some (.error (.serviceUnavailable
      ("slot " ++ toString engineSlot ++
        " did not drain before timeout (unscheduled=" ++
        toString unscheduled ++ ", dispatching=" ++ toString dispatching ++
        ", callbacks_pending=" ++ toString pending ++ ")")))
  else
    none

end Barrier

/-! ## The handler -/

/-- The engine slot that is to be closed. -/
def closingSlot (settings : ServiceSettings) (runtime : ServiceRuntime)
    (offset : Option ℤ) (body : CloseSlotBody) : Except ApiError ℤ :=
  if settings.manualClock = false then
    .error (.conflict "MANUAL_CLOCK is not enabled on this instance")
  else if sameSlotLength settings body.slotMinutes = false then
    .error (.conflict ("provider slot length (" ++
      runtime.showF64 body.slotMinutes ++
      " minutes) does not match CarbonShift slot duration (" ++
      runtime.showF64 settings.effectiveSlotDurationSecs ++ " seconds)"))
  else
    match offset with
    | none => .error (.conflict "provider slot offset is not initialized")
    | some offset =>
        let engineSlot := subI64 body.currentSlot offset
        if engineSlot < -2 ^ 31 ∨ 2 ^ 31 ≤ engineSlot then
          .error (.conflict "provider slot is outside the engine range")
        else if engineSlot < 0 ∨ settings.engine.totalSlots ≤ engineSlot then
          .error (.conflict "provider slot is outside the engine horizon")
        else
          .ok engineSlot

namespace AppState

variable {σ : Type}

/-- The next critical section of a close-slot request; `none` while it waits
for the admission lock. -/
def closeStep (settings : ServiceSettings) (admissionHeld timedOut : Bool)
    (body : CloseSlotBody) (state : AppState σ) :
    ClosePhase → Option (ClosePhase × AppState σ)
  | .translated engineSlot =>
      if state.currentSlot = engineSlot then
        some (.current engineSlot, state)
      else
        some
          (.answered engineSlot (.error (.conflict
            ("cannot close engine slot " ++ toString engineSlot ++
              "; CarbonShift is at " ++ toString state.currentSlot))),
            state)
  | .current engineSlot =>
      if admissionHeld then
        none
      else if state.admissionPoisoned then
        some (.panicked, state)
      else if engineSlot < state.closedThroughSlot then
        some
          (.answered engineSlot (.error (.conflict
            ("engine slot " ++ toString engineSlot ++
              " is already behind the close-slot barrier"))),
            state)
      else
        some
          (.fenced engineSlot, { state with closedThroughSlot := engineSlot })
  | .fenced engineSlot =>
      some
        (.draining engineSlot, { state with flushRequestedSlot := engineSlot })
  | .draining engineSlot =>
      some (.observed engineSlot state.engine.shared.assignments, state)
  | .observed engineSlot assignments =>
      match drainAnswer engineSlot assignments state.tracked settings body
          timedOut with
      | some answer => some (.answered engineSlot answer, state)
      | none => some (.draining engineSlot, state)
  | .answered _ _ => none
  | .panicked => none

end AppState

end Carbonshift
