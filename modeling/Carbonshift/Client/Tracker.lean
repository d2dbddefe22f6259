import Carbonshift.Client.Timeslots
import Carbonshift.Library.OrderedDictionary
import Carbonshift.Service.Submission

/-!
# Tracked requests of the client

The client remembers every request it has submitted, from CarbonShift's
answer to the callback or the timeout, and writes what became of it to the
metrics file.  Each definition on the tracker is one of its critical sections.
-/

namespace Carbonshift

namespace Client

/-- CarbonShift's answer about one request. -/
structure Ack extends RequestStatusResponse where
  /-- Seconds after the Unix epoch. -/
  scheduledAt : Option ℚ

/-- The fields of what the executor returned. -/
abbrev ResultFields := OrderedDictionary String Json

/-- A field of the result; `null` counts as absent. -/
def ResultFields.field (fields : ResultFields) (key : String) :
    Option Json :=
  match fields.lookup key with
  | some .null => none
  | found => found

/-- Body of a callback. -/
structure CallerCallbackPayload where
  requestId : ℕ
  success : Bool
  result : Option ResultFields
  error : Option String
  actualCarbonCost : Option ℚ
  actualBaselineCarbonCost : Option ℚ
  executionTimeSec : Option ℚ
  baselineExecutionTimeSec : Option ℚ

namespace CallerCallbackPayload

variable (body : CallerCallbackPayload)

def actualErrorPct : Option Json :=
  body.result.bind fun fields => fields.field "actual_error_pct"

/-- A time that the result lacks. -/
def withTime (key : String) (seconds : Option ℚ) (fields : ResultFields) :
    ResultFields :=
  match seconds, fields.field key with
  | some measured, none => fields.insert key (.number measured)
  | _, _ => fields

/-- The result, completed by the times of the body. -/
def callbackResult : Option ResultFields :=
  if body.executionTimeSec.isSome || body.baselineExecutionTimeSec.isSome then
    some
      (withTime "baseline_execution_time_sec" body.baselineExecutionTimeSec
        (withTime "execution_time_sec" body.executionTimeSec
          (body.result.getD ∅)))
  else
    body.result

end CallerCallbackPayload

/-! ## One request -/

inductive TrackedStatus where
  | submitted
  | completed
  | failed
  | timedOut
  deriving DecidableEq, Repr

/-- A submitted request; instants are microseconds. -/
structure TrackedRequest where
  requestId : ℕ
  task : String
  deadlineSeconds : ℚ
  submittedAt : ℤ
  ack : Ack
  arrivalSlot : Option ℤ
  lastStatusCheckAt : Option ℤ
  qosProfileId : Option String
  ackReceivedAt : ℤ
  callbackReceivedAt : Option ℤ
  status : TrackedStatus
  success : Option Bool
  result : Option ResultFields
  error : Option String
  /-- Corrected by CarbonShift once the real intensity is known. -/
  actualCarbonCost : Option ℚ
  actualBaselineCarbonCost : Option ℚ
  actualErrorPct : Option Json

/-- A line of the metrics file. -/
structure MetricsRecord where
  requestId : ℕ
  task : String
  qosProfileId : Option String
  status : TrackedStatus
  arrivalSlot : Option ℤ
  deadlineSeconds : ℚ
  submittedAt : ℤ
  ackLatencySeconds : ℚ
  carbonshiftStatus : RequestStatus
  scheduledSlot : Option ℤ
  etaSeconds : Option ℚ
  flavour : Option String
  scheduledAt : Option ℚ
  carbonCost : Option ℚ
  baselineCarbonCost : ℚ
  carbonSavingPct : Option ℚ
  actualErrorPct : Option Json
  actualCarbonCost : Option ℚ
  actualBaselineCarbonCost : Option ℚ
  actualCarbonSavingPct : Option ℚ
  executionTimeSec : Option Json
  baselineExecutionTimeSec : Option Json
  callbackReceivedAt : Option ℤ
  endToEndSeconds : Option ℚ
  late : Option Bool
  success : Option Bool
  result : Option ResultFields
  error : Option String

/-- Seconds from one instant to another. -/
def secondsBetween (earlier later : ℤ) : ℚ :=
  ((later - earlier : ℤ) : ℚ) / 1000000

/-- Saving against a baseline, which must not be zero. -/
def savingPct (cost : Option ℚ) (baseline : ℚ) : Option ℚ :=
  cost.bind fun cost =>
    if baseline = 0 then none else some ((baseline - cost) / baseline * 100)

/-- Seconds between two status checks of one request. -/
def schedulerStatusReconciliationIntervalSeconds : ℚ := 30

namespace TrackedRequest

/-- A request that CarbonShift has just acknowledged. -/
def new (requestId : ℕ) (task : String) (deadlineSeconds : ℚ)
    (submittedAt : ℤ) (ack : Ack) (arrivalSlot : Option ℤ)
    (qosProfileId : Option String) (now : ℤ) : TrackedRequest where
  requestId := requestId
  task := task
  deadlineSeconds := deadlineSeconds
  submittedAt := submittedAt
  ack := ack
  arrivalSlot := arrivalSlot
  lastStatusCheckAt := none
  qosProfileId :=
    -- An empty name counts as no name.
    match qosProfileId with
    | some profileId =>
        if profileId = "" then some ack.qosProfileId.value
        else some profileId
    | none => some ack.qosProfileId.value
  ackReceivedAt := now
  callbackReceivedAt := none
  status := .submitted
  success := none
  result := none
  error := none
  actualCarbonCost := none
  actualBaselineCarbonCost := none
  actualErrorPct := none

variable (tracked : TrackedRequest)

def toDict : MetricsRecord :=
  let endToEndSeconds :=
    tracked.callbackReceivedAt.map (secondsBetween tracked.submittedAt)
  let actualBaseline :=
    tracked.actualBaselineCarbonCost.getD tracked.ack.baselineCarbonCost
  { requestId := tracked.requestId
    task := tracked.task
    qosProfileId := tracked.qosProfileId
    status := tracked.status
    arrivalSlot := tracked.arrivalSlot
    deadlineSeconds := tracked.deadlineSeconds
    submittedAt := tracked.submittedAt
    ackLatencySeconds :=
      secondsBetween tracked.submittedAt tracked.ackReceivedAt
    carbonshiftStatus := tracked.ack.status
    scheduledSlot := tracked.ack.scheduledSlot
    etaSeconds := tracked.ack.etaSeconds
    flavour := tracked.ack.flavour
    scheduledAt := tracked.ack.scheduledAt
    carbonCost := tracked.ack.carbonCost
    baselineCarbonCost := tracked.ack.baselineCarbonCost
    carbonSavingPct :=
      savingPct tracked.ack.carbonCost tracked.ack.baselineCarbonCost
    actualErrorPct := tracked.actualErrorPct
    actualCarbonCost := tracked.actualCarbonCost
    actualBaselineCarbonCost := tracked.actualBaselineCarbonCost
    actualCarbonSavingPct :=
      savingPct (tracked.actualCarbonCost.or tracked.ack.carbonCost)
        actualBaseline
    executionTimeSec :=
      tracked.result.bind fun fields => fields.field "execution_time_sec"
    baselineExecutionTimeSec :=
      tracked.result.bind fun fields =>
        fields.field "baseline_execution_time_sec"
    callbackReceivedAt := tracked.callbackReceivedAt
    endToEndSeconds := endToEndSeconds
    late :=
      endToEndSeconds.map fun seconds =>
        decide (tracked.deadlineSeconds < seconds)
    success := tracked.success
    result := tracked.result
    error := tracked.error }

/-- Was the request still unscheduled when CarbonShift answered? -/
def isStale : Bool :=
  tracked.ack.status == .pending

def refreshAck (freshAck : Ack) : TrackedRequest :=
  { tracked with
    ack := freshAck
    qosProfileId := tracked.qosProfileId.or (some freshAck.qosProfileId.value) }

def applyCallback (body : CallerCallbackPayload) (now : ℤ) :
    TrackedRequest :=
  { tracked with
    callbackReceivedAt := some now
    success := some body.success
    result := body.callbackResult
    error := body.error
    actualCarbonCost := body.actualCarbonCost
    actualBaselineCarbonCost := body.actualBaselineCarbonCost
    actualErrorPct := body.actualErrorPct
    status := if body.success then .completed else .failed }

/-- Take the turn to ask for the status, unless it was asked for recently. -/
def claimStatusCheck (now : ℤ) : Option TrackedRequest :=
  if tracked.status ≠ .submitted then
    none
  else if tracked.lastStatusCheckAt.any fun checkedAt =>
      decide (secondsBetween checkedAt now <
        schedulerStatusReconciliationIntervalSeconds) then
    none
  else
    some { tracked with lastStatusCheckAt := some now }

/-- What CarbonShift says about the request, if it could be asked. -/
def mergeStatus (freshStatus : Option Ack) : TrackedRequest :=
  match freshStatus with
  | none => tracked
  | some fresh =>
      let merged := { tracked with ack := fresh }
      if fresh.status = .completed then
        { merged with
          status := .completed, success := some true, error := fresh.error }
      else if fresh.status = .failed then
        { merged with
          status := .failed, success := some false, error := fresh.error }
      else
        merged

end TrackedRequest

/-! ## The tracker -/

structure RequestTracker where
  byId : OrderedDictionary ℕ TrackedRequest
  timeoutSeconds : ℚ
  /-- The timeout as it is printed. -/
  timeoutShown : String
  /-- Lines of the metrics file. -/
  metrics : List MetricsRecord

namespace RequestTracker

def new (timeoutSeconds : ℚ) (timeoutShown : String) : RequestTracker where
  byId := ∅
  timeoutSeconds := timeoutSeconds
  timeoutShown := timeoutShown
  metrics := []

variable (tracker : RequestTracker)

def add (tracked : TrackedRequest) : RequestTracker :=
  { tracker with byId := tracker.byId.insert tracked.requestId tracked }

/-- Change a request in place. -/
def update (requestId : ℕ) (change : TrackedRequest → TrackedRequest) :
    RequestTracker :=
  { tracker with byId := tracker.byId.adjust requestId change }

def persist (record : MetricsRecord) : RequestTracker :=
  { tracker with metrics := tracker.metrics ++ [record] }

/-- The requests that a sweep looks at. -/
def pending : List ℕ :=
  (tracker.byId.pairs.filter fun entry =>
    entry.2.status == .submitted).map Prod.fst

/-- A request is left alone when it is young. -/
def tooYoung (now : ℤ) (tracked : TrackedRequest) : Bool :=
  decide (secondsBetween tracked.submittedAt now ≤
    min schedulerStatusReconciliationIntervalSeconds tracker.timeoutSeconds)

/-- Settle a request that is still open by its status or by its age. -/
def reconcile (now : ℤ) (freshStatus : Option Ack)
    (tracked : TrackedRequest) : TrackedRequest :=
  let merged := tracked.mergeStatus freshStatus
  if merged.status = .submitted ∧
      tracker.timeoutSeconds < secondsBetween tracked.submittedAt now then
    { merged with
      status := .timedOut
      error := some ("no callback within " ++ tracker.timeoutShown ++ "s") }
  else
    merged

end RequestTracker

end Client

end Carbonshift
