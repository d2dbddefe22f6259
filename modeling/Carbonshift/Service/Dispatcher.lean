import Carbonshift.Library.Iteration
import Carbonshift.Service.State

/-!
# Dispatching due assignments

A background task polls the committed assignments and sends the due ones to
the executor, one after another.  The tracked status is what keeps it from
sending a request again.
-/

namespace Carbonshift

/-- Body sent to the executor. -/
structure ExecutorDispatchPayload where
  requestId : ℕ
  scheduledSlot : ℤ
  /-- Start of the slot. -/
  executeAt : String
  flavour : String
  carbonCost : ℚ
  callbackUrl : String
  payload : Json

/-- What the executor, or the connection to it, answers. -/
inductive DispatchOutcome where
  | accepted
  | failed (error : String)
  deriving DecidableEq, Repr

/-- One event of the exchange with the executor. -/
inductive DispatchEvent where
  | sent (message : ExecutorDispatchPayload)
  | accepted (requestId : ℕ)
  | failed (requestId : ℕ) (error : String)

/-- Backoff in milliseconds: doubled with every attempt, and capped. -/
def backoffDelay (attempt baseMs maxMs : ℕ) : ℕ :=
  let multiplier := if attempt - 1 < 64 then 2 ^ (attempt - 1) else 2 ^ 64 - 1
  min (min (baseMs * multiplier) (2 ^ 64 - 1)) maxMs

namespace TrackedRequest

variable (tracked : TrackedRequest)

/-- The dispatcher may send the request now. -/
def isDue (now : ℕ) : Bool :=
  tracked.status.isWaiting && tracked.nextAttemptAt.all fun at_ => at_ ≤ now

def setStatus (status : RequestStatus) (error : Option String) :
    TrackedRequest :=
  if tracked.executorCallbackReceived then
    tracked
  else
    { tracked with status := status, error := error }

/-- Count a failed attempt; give up after the last one, else wait. -/
def recordFailure (cfg : ServiceConfig) (now : ℕ) (error : String) :
    TrackedRequest :=
  let attempts := tracked.dispatchAttempts + 1
  if tracked.executorCallbackReceived then
    tracked
  else if cfg.executorMaxRetries ≤ attempts then
    { tracked with
      dispatchAttempts := attempts
      status := .failed
      error := some ("dispatch failed after " ++ toString attempts ++
        " attempt(s): " ++ error) }
  else
    { tracked with
      dispatchAttempts := attempts
      nextAttemptAt :=
        some (now + backoffDelay attempts cfg.executorRetryBaseMs
          cfg.executorRetryMaxMs) }

end TrackedRequest

/-- How far the dispatcher is in its tick. -/
inductive DispatcherPhase where
  | idle
  | ticked (currentSlot : ℤ)
  | observed (currentSlot : ℤ) (now : ℕ)
      (assignments : Dictionary ℕ Assignment)
  | sending (due : List (ℕ × Assignment))
  | loaded (requestId : ℕ) (assignment : Assignment) (payload : Json)
      (rest : List (ℕ × Assignment))
  | refused (requestId : ℕ) (error : String) (rest : List (ℕ × Assignment))
  | addressed (message : ExecutorDispatchPayload)
      (rest : List (ℕ × Assignment))
  | awaiting (message : ExecutorDispatchPayload)
      (rest : List (ℕ × Assignment))

/-- What the environment decides at a step of the dispatcher. -/
structure DispatcherChoice where
  /-- Monotonic clock in milliseconds. -/
  now : ℕ
  /-- Order in which the due assignments are listed. -/
  order : IterationOrder (ℕ × Assignment)
  outcome : DispatchOutcome

namespace AppState

variable {σ : Type}

/-- The assignments that are due and not sent yet. -/
def dueAssignments (currentSlot : ℤ) (now : ℕ)
    (assignments : Dictionary ℕ Assignment) (state : AppState σ) :
    List (ℕ × Assignment) :=
  assignments.toPairs.filter fun entry =>
    decide (entry.2.scheduledSlot ≤ currentSlot) &&
      (state.tracked.lookup entry.1).any fun tracked => tracked.isDue now

/-- The message for an assignment. -/
def dispatchPayload (settings : ServiceSettings) (requestId : ℕ)
    (assignment : Assignment) (executeAt : String) (payload : Json) :
    ExecutorDispatchPayload where
  requestId := requestId
  scheduledSlot := assignment.scheduledSlot
  executeAt := executeAt
  flavour := assignment.flavourName
  carbonCost := assignment.carbonCost
  callbackUrl :=
    settings.service.selfBaseUrl ++ "/v1/callback/" ++ toString requestId
  payload := payload

/-- The next critical section of the dispatcher, with what it exchanges. -/
def dispatcherStep (settings : ServiceSettings) (runtime : ServiceRuntime)
    (choice : DispatcherChoice) (state : AppState σ) :
    DispatcherPhase → DispatcherPhase × AppState σ × List DispatchEvent
  | .idle => (.ticked state.currentSlot, state, [])
  | .ticked currentSlot =>
      (.observed currentSlot choice.now state.engine.shared.assignments, state,
        [])
  | .observed currentSlot now assignments =>
      (.sending
        (choice.order.arrange
          (state.dueAssignments currentSlot now assignments)),
        state, [])
  | .sending [] => (.idle, state, [])
  | .sending ((requestId, assignment) :: rest) =>
      (.loaded requestId assignment
        ((state.tracked.lookup requestId).elim .null TrackedRequest.payload)
        rest,
        state, [])
  | .loaded requestId assignment payload rest =>
      match executeAtForSlot settings runtime state
          assignment.scheduledSlot with
      | .error error => (.refused requestId error rest, state, [])
      | .ok executeAt =>
          (.addressed
            (dispatchPayload settings requestId assignment executeAt payload)
            rest,
            state, [])
  | .refused requestId error rest =>
      (.sending rest,
        state.adjustTracked requestId fun tracked =>
          tracked.setStatus .failed (some error),
        [])
  | .addressed message rest =>
      if settings.service.executorUrl.isNone then
        (.sending rest,
          state.adjustTracked message.requestId fun tracked =>
            tracked.setStatus .dispatched none,
          [])
      else
        (.awaiting message rest, state, [.sent message])
  | .awaiting message rest =>
      match choice.outcome with
      | .accepted =>
          (.sending rest,
            state.adjustTracked message.requestId fun tracked =>
              tracked.setStatus .dispatched none,
            [.accepted message.requestId])
      | .failed error =>
          (.sending rest,
            state.adjustTracked message.requestId fun tracked =>
              tracked.recordFailure settings.service choice.now error,
            [.failed message.requestId error])

end AppState

end Carbonshift
