import Carbonshift.Client.PlanRunner
import Carbonshift.Library.DictionarySums
import Carbonshift.Library.Transition

/-!
# Threads on the tracker

Batches, callbacks and sweeps run on threads of their own.  A step of a thread
is one critical section of the tracker, one exchange with CarbonShift, or one
line written to the metrics file; any interleaving is a list of steps.
-/

namespace Carbonshift

namespace Client

/-! ## Threads -/

/-- Where `send_slot_batch` is. -/
inductive SenderPhase where
  | submitting
  /-- CarbonShift has answered, the tracker does not know the request yet. -/
  | adding (request : PlanRequest) (submittedAt : ℤ) (ack : Ack)

structure Sender where
  batch : SlotBatch
  remaining : List PlanRequest
  /-- Requests that are tracked now. -/
  submitted : ℕ
  phase : SenderPhase

/-- Where `on_callback` is. -/
inductive DeliveryPhase where
  | looking
  | refreshing
  | applying
  | persisting (record : MetricsRecord)

structure Delivery where
  body : CallerCallbackPayload
  phase : DeliveryPhase

/-- Where `sweep_timeouts` is. -/
inductive SweepPhase where
  | visiting
  | checking (requestId : ℕ)
  | persisting (record : MetricsRecord)

structure Sweep where
  now : ℤ
  remaining : List ℕ
  phase : SweepPhase

inductive Thread where
  | sender (sending : Sender)
  | delivery (delivering : Delivery)
  | sweep (sweeping : Sweep)

/-- How a submission ended.  A lost answer looks like a refusal. -/
inductive SubmitOutcome where
  | refused
  | lost (requestId : ℕ)
  | answered (ack : Ack)

/-- What a thread meets at its next step. -/
inductive Event where
  | resumed
  | clock (now : ℤ)
  | submitted (submittedAt : ℤ) (outcome : SubmitOutcome)
  /-- CarbonShift's status of a request, if it could be asked. -/
  | status (reply : Option Ack)

/-! ## The client process -/

structure TrackerState where
  tracker : RequestTracker
  /-- Requests that CarbonShift has accepted. -/
  accepted : List ℕ
  threads : Dictionary ℕ Thread
  /-- Callbacks that are handled, and whether their request was found. -/
  handled : List (CallerCallbackPayload × Bool)

inductive TrackerAction where
  | sendSlotBatch (thread : ℕ) (batch : SlotBatch)
      (requests : List PlanRequest)
  /-- CarbonShift calls back about a request that it accepted. -/
  | onCallback (thread : ℕ) (body : CallerCallbackPayload)
  | sweepTimeouts (thread : ℕ) (now : ℤ)
  | proceed (thread : ℕ) (event : Event)

namespace TrackerState

def new (timeoutSeconds : ℚ) (timeoutShown : String) : TrackerState where
  tracker := .new timeoutSeconds timeoutShown
  accepted := []
  threads := ∅
  handled := []

variable (state : TrackerState)

def start (thread : ℕ) (work : Thread) : Option TrackerState :=
  if thread ∈ state.threads then
    none
  else
    some { state with threads := state.threads.insert thread work }

/-- A thread goes on, or is over. -/
def goOn (thread : ℕ) (next : Option Thread) : TrackerState :=
  { state with
    threads :=
      match next with
      | some work => state.threads.insert thread work
      | none => state.threads.erase thread }

/-- CarbonShift hands out every identifier once. -/
def accept (requestId : ℕ) : Option TrackerState :=
  if requestId ∈ state.accepted then
    none
  else
    some { state with accepted := state.accepted ++ [requestId] }

def withTracker (tracker : RequestTracker) : TrackerState :=
  { state with tracker := tracker }

def answer (body : CallerCallbackPayload) (found : Bool) : TrackerState :=
  { state with handled := state.handled ++ [(body, found)] }

/-- The next step of `send_slot_batch`. -/
def senderStep (thread : ℕ) (sending : Sender) (event : Event) :
    Option TrackerState :=
  match sending.phase, sending.remaining, event with
  | .submitting, [], .resumed => some (state.goOn thread none)
  | .submitting, request :: rest, .submitted submittedAt outcome =>
      let later := { sending with remaining := rest }
      match outcome with
      | .refused => some (state.goOn thread (some (.sender later)))
      | .lost requestId =>
          (state.accept requestId).map fun state =>
            state.goOn thread (some (.sender later))
      | .answered ack =>
          (state.accept ack.requestId).map fun state =>
            state.goOn thread (some (.sender
              { later with phase := .adding request submittedAt ack }))
  | .adding request submittedAt ack, _, .clock now =>
      let tracked := sending.batch.track request submittedAt ack now
      some ((state.withTracker (state.tracker.add tracked)).goOn thread
        (some (.sender
          { sending with
            submitted := sending.submitted + 1, phase := .submitting })))
  | _, _, _ => none

/-- The next step of `on_callback`. -/
def deliveryStep (thread : ℕ) (delivering : Delivery) (event : Event) :
    Option TrackerState :=
  let body := delivering.body
  let continueAt (state : TrackerState) (phase : DeliveryPhase) :=
    state.goOn thread (some (.delivery { delivering with phase := phase }))
  match delivering.phase, event with
  | .looking, .resumed =>
      match state.tracker.byId.lookup body.requestId with
      | none => some ((state.answer body false).goOn thread none)
      | some tracked =>
          some (continueAt state
            (if tracked.isStale then .refreshing else .applying))
  | .refreshing, .status none => some (continueAt state .applying)
  | .refreshing, .status (some freshAck) =>
      some (continueAt
        (state.withTracker (state.tracker.update body.requestId
          fun tracked => tracked.refreshAck freshAck)) .applying)
  | .applying, .clock now =>
      (state.tracker.byId.lookup body.requestId).map fun tracked =>
        let applied := tracked.applyCallback body now
        continueAt
          (state.withTracker
            (state.tracker.update body.requestId fun _ => applied))
          (.persisting applied.toDict)
  | .persisting record, .resumed =>
      some (((state.withTracker (state.tracker.persist record)).answer
        body true).goOn thread none)
  | _, _ => none

/-- The next step of `sweep_timeouts`. -/
def sweepStep (thread : ℕ) (sweeping : Sweep) (event : Event) :
    Option TrackerState :=
  let continueAt (state : TrackerState) (remaining : List ℕ)
      (phase : SweepPhase) :=
    state.goOn thread (some (.sweep
      { sweeping with remaining := remaining, phase := phase }))
  match sweeping.phase, sweeping.remaining, event with
  | .visiting, [], .resumed => some (state.goOn thread none)
  | .visiting, requestId :: rest, .resumed =>
      (state.tracker.byId.lookup requestId).map fun tracked =>
        if state.tracker.tooYoung sweeping.now tracked then
          continueAt state rest .visiting
        else
          match tracked.claimStatusCheck sweeping.now with
          | none => continueAt state rest .visiting
          | some claimed =>
              continueAt
                (state.withTracker
                  (state.tracker.update requestId fun _ => claimed))
                rest (.checking requestId)
  | .checking requestId, rest, .status reply =>
      (state.tracker.byId.lookup requestId).map fun tracked =>
        if tracked.status ≠ .submitted then
          continueAt state rest .visiting
        else
          let settled := state.tracker.reconcile sweeping.now reply tracked
          continueAt
            (state.withTracker
              (state.tracker.update requestId fun _ => settled))
            rest
            (if settled.status = .submitted then
              .visiting
            else
              .persisting settled.toDict)
  | .persisting record, rest, .resumed =>
      some (continueAt (state.withTracker (state.tracker.persist record))
        rest .visiting)
  | _, _, _ => none

def step : TrackerAction → Option TrackerState
  | .sendSlotBatch thread batch requests =>
      state.start thread (.sender
        { batch := batch
          remaining := requests
          submitted := 0
          phase := .submitting })
  | .onCallback thread body =>
      if body.requestId ∈ state.accepted then
        state.start thread (.delivery { body := body, phase := .looking })
      else
        none
  | .sweepTimeouts thread now =>
      state.start thread (.sweep
        { now := now
          remaining := state.tracker.pending
          phase := .visiting })
  | .proceed thread event =>
      match state.threads.lookup thread with
      | none => none
      | some (.sender sending) => state.senderStep thread sending event
      | some (.delivery delivering) =>
          state.deliveryStep thread delivering event
      | some (.sweep sweeping) => state.sweepStep thread sweeping event

end TrackerState

end Client

end Carbonshift
