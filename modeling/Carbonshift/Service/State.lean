import Carbonshift.Engine.Scheduler
import Carbonshift.Service.Profiles

/-!
# Service state

The REST service keeps its own record of every accepted request next to the
engine: where it stands in the dispatch and callback lifecycle, what it would
have cost without shifting, and how the provider's slots map to the engine's.
-/

namespace Carbonshift

/-! ## Libraries -/

/-- A JSON value; numbers are read as 64-bit floats. -/
inductive Json where
  | null
  | bool (value : Bool)
  | number (value : ℚ)
  | string (value : String)
  | array (items : List Json)
  | object (fields : List (String × Json))

namespace Json

/-- The field of an object. -/
def get (key : String) : Json → Option Json
  | .object fields => fields.lookup key
  | _ => none

def asF64 : Json → Option ℚ
  | .number value => some value
  | _ => none

def asStr : Json → Option String
  | .string value => some value
  | _ => none

end Json

/-- The host of a URL; addresses are in network order. -/
inductive UrlHost where
  | domain (name : String)
  | ipv4 (address : BitVec 32)
  | ipv6 (address : BitVec 128)
  deriving DecidableEq, Repr

structure Url where
  scheme : String
  host : Option UrlHost
  deriving DecidableEq, Repr

/-- The clock, date and URL libraries of the service.  An instant is a number of
nanoseconds after the Unix epoch. -/
structure ServiceRuntime where
  parseRfc3339 : String → Except String ℤ
  toRfc3339 : ℤ → String
  /-- Instants that the system clock type can hold. -/
  representable : ℤ → Bool
  parseUrl : String → Except String Url
  /-- The printed form of a number in an error text. -/
  showF64 : ℚ → String

/-- A duration in nanoseconds; negative and too long ones are refused. -/
def tryFromSecsF64 (seconds : ℚ) : Except String ℤ :=
  if seconds < 0 then
    .error "cannot convert float seconds to Duration: value is negative"
  else if 2 ^ 64 ≤ seconds then
    .error ("cannot convert float seconds to Duration: value is either too " ++
      "big or NaN")
  else
    .ok (roundHalfEven (seconds * 1000000000))

/-- Truncation of a 64-bit integer to 32 bits. -/
def toI32 (value : ℤ) : ℤ :=
  value.bmod (2 ^ 32)

/-- 64-bit subtraction. -/
def subI64 (left right : ℤ) : ℤ :=
  (left - right).bmod (2 ^ 64)

/-- An error answer: its status code and its text. -/
structure ApiError where
  status : ℕ
  error : String
  deriving DecidableEq, Repr

namespace ApiError

def badRequest (error : String) : ApiError := ⟨400, error⟩

def notFound (error : String) : ApiError := ⟨404, error⟩

def conflict (error : String) : ApiError := ⟨409, error⟩

def serviceUnavailable (error : String) : ApiError := ⟨503, error⟩

/-- The request itself is at fault. -/
def isClientError (error : ApiError) : Bool :=
  decide (400 ≤ error.status) && decide (error.status < 500)

end ApiError

/-! ## Configuration -/

/-- Settings of the dispatcher and of the callbacks. -/
structure ServiceConfig where
  /-- Base URL of the executor; none is a dry run. -/
  executorUrl : Option String
  selfBaseUrl : String
  allowPrivateCallbacks : Bool
  /-- Failed attempts after which a dispatch is given up. -/
  executorMaxRetries : ℕ
  executorRetryBaseMs : ℕ
  executorRetryMaxMs : ℕ
  deriving Repr

/-- What the service is started with. -/
structure ServiceSettings where
  engine : Config
  service : ServiceConfig
  effectiveSlotDurationSecs : ℚ
  /-- Does only the provider move the clock? -/
  manualClock : Bool
  deriving Repr

/-! ## Tracked requests -/

inductive RequestStatus where
  | pending
  | scheduled
  | dispatched
  | completed
  | failed
  deriving DecidableEq, Repr

namespace RequestStatus

/-- Not handed to the executor yet. -/
def isWaiting (status : RequestStatus) : Bool :=
  status == .pending || status == .scheduled

/-- The status an executor callback can leave. -/
def isTerminal (status : RequestStatus) : Bool :=
  status == .completed || status == .failed

end RequestStatus

/-- The lifecycle of a request outside the engine. -/
structure TrackedRequest where
  callbackUrl : Option String
  /-- Forwarded to the executor. -/
  payload : Json
  status : RequestStatus
  error : Option String
  executorCallbackReceived : Bool
  /-- Failed dispatch attempts so far. -/
  dispatchAttempts : ℕ
  /-- Instant in milliseconds before which the dispatcher waits. -/
  nextAttemptAt : Option ℕ
  /-- Cost of the most accurate flavour, run at arrival. -/
  baselineCarbonCost : ℚ
  baselineDuration : ℚ
  arrivalSlot : ℤ
  qosProfileId : QosProfileId
  actualCarbonCost : Option ℚ
  actualBaselineCarbonCost : Option ℚ
  actualErrorPct : Option ℚ
  executionTimeSec : Option ℚ
  baselineExecutionTimeSec : Option ℚ

def TrackedRequest.new (callbackUrl : Option String) (payload : Json)
    (baselineCarbonCost baselineDuration : ℚ) (arrivalSlot : ℤ)
    (qosProfileId : QosProfileId) : TrackedRequest where
  callbackUrl := callbackUrl
  payload := payload
  status := .pending
  error := none
  executorCallbackReceived := false
  dispatchAttempts := 0
  nextAttemptAt := none
  baselineCarbonCost := baselineCarbonCost
  baselineDuration := baselineDuration
  arrivalSlot := arrivalSlot
  qosProfileId := qosProfileId
  actualCarbonCost := none
  actualBaselineCarbonCost := none
  actualErrorPct := none
  executionTimeSec := none
  baselineExecutionTimeSec := none

/-! ## Application state -/

/-- State shared by the handlers, the dispatcher and the engine. -/
structure AppState (σ : Type) where
  engine : Engine σ
  virtualElapsedMs : ℕ
  /-- Slot whose partial batches are to be flushed. -/
  flushRequestedSlot : ℤ
  qosProfiles : QosProfileRegistry
  tracked : Dictionary ℕ TrackedRequest
  /-- Forecast intensity per engine slot. -/
  carbonForecast : List ℚ
  /-- Requests that arrived at each slot so far. -/
  baselineSlotCounts : Dictionary ℤ ℤ
  /-- Measured intensity per engine slot. -/
  actualCarbonIntensity : Dictionary ℤ ℚ
  /-- Provider slot minus engine slot, once learned. -/
  slotEpochOffset : Option ℤ
  /-- Start of engine slot zero. -/
  slotEpochStartUtc : ℤ
  /-- Highest slot that takes no submissions any more. -/
  closedThroughSlot : ℤ
  /-- A panic under the admission lock makes the lock unusable. -/
  admissionPoisoned : Bool
  nextId : ℕ

namespace AppState

variable {σ : Type}

/-- The service before the first request. -/
def new (settings : ServiceSettings) (carbonForecast : List ℚ)
    (startedAt : ℤ) : AppState σ where
  engine := Engine.new settings.engine
  virtualElapsedMs := 0
  flushRequestedSlot := -1
  qosProfiles := .fromConfig settings.engine
  tracked := ∅
  carbonForecast := carbonForecast
  baselineSlotCounts := ∅
  actualCarbonIntensity := ∅
  slotEpochOffset := none
  slotEpochStartUtc := startedAt
  closedThroughSlot := -1
  admissionPoisoned := false
  nextId := 1

/-- The slot the engine is in. -/
def currentSlot (state : AppState σ) : ℤ :=
  state.engine.shared.currentSlot

def withShared (state : AppState σ) (shared : SharedState) : AppState σ :=
  { state with engine := state.engine.withShared shared }

/-- Update the record of a request. -/
def adjustTracked (state : AppState σ) (requestId : ℕ)
    (update : TrackedRequest → TrackedRequest) : AppState σ :=
  { state with tracked := state.tracked.adjust requestId update }

/-- Re-anchor engine slot zero by the known start of a slot. -/
def slotTimeAnchor (settings : ServiceSettings) (runtime : ServiceRuntime)
    (slot slotStartUtc : ℤ) : Except String ℤ :=
  if slot < 0 then
    .error ("engine slot must be non-negative, got " ++ toString slot)
  else
    match tryFromSecsF64 (settings.effectiveSlotDurationSecs * slot) with
    | .error message => .error ("invalid slot time offset: " ++ message)
    | .ok offset =>
        if runtime.representable (slotStartUtc - offset) then
          .ok (slotStartUtc - offset)
        else
          .error "slot-zero UTC anchor is outside the system clock range"

/-- Start of an engine slot, as the executor is told. -/
def executeAtForSlot (settings : ServiceSettings) (runtime : ServiceRuntime)
    (state : AppState σ) (slot : ℤ) : Except String String :=
  if slot < 0 then
    .error ("engine slot must be non-negative, got " ++ toString slot)
  else
    match tryFromSecsF64 (settings.effectiveSlotDurationSecs * slot) with
    | .error message => .error ("invalid slot time offset: " ++ message)
    | .ok offset =>
        if runtime.representable (state.slotEpochStartUtc + offset) then
          .ok (runtime.toRfc3339 (state.slotEpochStartUtc + offset))
        else
          .error "slot UTC boundary is outside the system clock range"

end AppState

end Carbonshift
