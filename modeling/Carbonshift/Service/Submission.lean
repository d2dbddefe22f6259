import Carbonshift.Service.State

/-!
# Submitting a request

A submission resolves its profile and its arrival slot, is admitted under the
admission lock, and then polls until the engine has assigned a slot.
-/

namespace Carbonshift

/-- Body of a submitted request. -/
structure SubmitRequestPayload where
  /-- Time slack in seconds between arrival and deadline. -/
  deadlineSeconds : ℚ
  callbackUrl : Option String
  payload : Json
  qosProfileId : Option String
  taskKind : Option String
  arrivalSlotGlobal : Option ℤ

/-- Answer to a submission. -/
structure RequestStatusResponse where
  requestId : ℕ
  qosProfileId : QosProfileId
  status : RequestStatus
  scheduledSlot : Option ℤ
  etaSeconds : Option ℚ
  flavour : Option String
  carbonCost : Option ℚ
  baselineCarbonCost : ℚ
  error : Option String

/-! ## Validation -/

section Validation

/-- An octet of an IPv4 address, the leading one first. -/
def octet (address : BitVec 32) (index : ℕ) : ℕ :=
  (address.toNat >>> (8 * (3 - index))) % 256

/-- Loopback, private, link-local and unspecified addresses. -/
def isPrivateIpv4 (address : BitVec 32) : Bool :=
  let first := octet address 0
  let second := octet address 1
  first == 127 ||
    (first == 10 || (first == 172 && 16 ≤ second && second ≤ 31) ||
      (first == 192 && second == 168)) ||
    (first == 169 && second == 254) || address == 0

/-- Loopback and unspecified addresses. -/
def isPrivateIpv6 (address : BitVec 128) : Bool :=
  address == 1 || address == 0

def UrlHost.isPrivate : UrlHost → Bool
  | .domain _ => false
  | .ipv4 address => isPrivateIpv4 address
  | .ipv6 address => isPrivateIpv6 address

/-- Refuse unsafe callback URLs. -/
def validateCallbackUrl (runtime : ServiceRuntime) (raw : String)
    (allowPrivate : Bool) : Except String Unit :=
  match runtime.parseUrl raw with
  | .error message => .error ("invalid callback_url: " ++ message)
  | .ok url =>
      if url.scheme ≠ "http" ∧ url.scheme ≠ "https" then
        .error "callback_url must use http or https"
      else if allowPrivate = false ∧ url.host.any UrlHost.isPrivate then
        .error ("callback_url points to a loopback/private address; set " ++
          "CARBONSHIFT_ALLOW_PRIVATE_CALLBACKS=1 to allow this for local " ++
          "testing")
      else
        .ok ()

/-- The profile a submission names, if it names one. -/
def explicitProfile (registry : QosProfileRegistry)
    (body : SubmitRequestPayload) : Except ApiError (Option QosProfile) :=
  match body.qosProfileId with
  | none => .ok none
  | some named =>
      match QosProfileId.parse named with
      | .error message => .error (.badRequest message)
      | .ok profileId =>
          match registry.lookup profileId with
          | none => .error (.notFound "unknown QoS profile")
          | some profile => .ok (some profile)

/-- The task kind inside the executor payload. -/
def payloadTaskKind (payload : Json) : Except ApiError (Option String) :=
  match payload.get "task" with
  | none => .ok none
  | some value =>
      match value.asStr with
      | none =>
          .error (.badRequest "payload.task must be a string task kind")
      | some taskKind => .ok (some taskKind)

/-- The task kind a submission asks for; its two places must agree. -/
def requestedTaskKind (body : SubmitRequestPayload) :
    Except ApiError (Option TaskKindId) := do
  let inPayload ← payloadTaskKind body.payload
  match body.taskKind, inPayload with
  | some explicit, some payload =>
      if explicit ≠ payload then
        throw (.badRequest "task_kind conflicts with payload.task")
  | _, _ => pure ()
  match body.taskKind.or inPayload with
  | none => return none
  | some value =>
      match TaskKindId.parse value with
      | .error message => throw (.badRequest message)
      | .ok taskKind => return some taskKind

/-- The policy of a submission: the named profile, or the default of the task
kind. -/
def resolveRequestProfile (registry : QosProfileRegistry)
    (body : SubmitRequestPayload) : Except ApiError QosProfile := do
  let selected ← explicitProfile registry body
  let requested ← requestedTaskKind body
  let taskKind :=
    (requested.or (selected.map QosProfile.taskKind)).getD ⟨"text_generation"⟩
  let profile ←
    match selected.or (registry.defaultForTaskKind taskKind) with
    | some profile => pure profile
    | none =>
        throw (.badRequest ("task kind " ++ taskKind.value ++
          " has no default profile; register and select a QoS profile"))
  if profile.taskKind ≠ taskKind then
    throw (.badRequest ("QoS profile " ++ profile.profileId.value ++
      " is for task kind " ++ profile.taskKind.value ++ ", not " ++
      taskKind.value))
  return profile

/-- The checks before an identifier is allocated. -/
def validateSubmission (settings : ServiceSettings) (runtime : ServiceRuntime)
    (registry : QosProfileRegistry) (body : SubmitRequestPayload) :
    Except ApiError QosProfile :=
  if body.deadlineSeconds < 0 then
    .error (.badRequest "deadline_seconds must be finite and >= 0")
  else
    match body.callbackUrl.map fun raw =>
        validateCallbackUrl runtime raw
          settings.service.allowPrivateCallbacks with
    | some (.error message) => .error (.badRequest message)
    | _ => resolveRequestProfile registry body

end Validation

/-! ## Arrival and deadline -/

/-- The engine slot of a submission; a slot outside the horizon falls back to
the slot the engine was in. -/
def resolvedArrivalSlot (settings : ServiceSettings) (offset : Option ℤ)
    (currentSlot : ℤ) (body : SubmitRequestPayload) : ℤ :=
  match body.arrivalSlotGlobal, offset with
  | some global, some offset =>
      let arrival := toI32 (global - offset)
      if arrival < 0 ∨ settings.engine.totalSlots ≤ arrival then
        currentSlot
      else
        arrival
  | _, _ => currentSlot

/-- The last slot of a slack, counted from the arrival slot. -/
def deadlineSlotFromSlack (arrivalSlot : ℤ)
    (deadlineSeconds slotDurationSecs : ℚ) (totalSlots : ℤ) : ℤ :=
  let slotsAhead :=
    max (min (deadlineSeconds / slotDurationSecs).ceil (2 ^ 31 - 1)) 1
  min (min (arrivalSlot + slotsAhead) (2 ^ 31 - 1)) (totalSlots - 1)

/-! ## Admission -/

/-- The flavour of the baseline: the first one of least error. -/
def baselineFlavour (profile : QosProfile) : Option Flavour :=
  profile.flavours.argmin Flavour.error

/-- Cost of the baseline at a position of its arrival slot. -/
def baselineCost (settings : ServiceSettings) (tiers : List CapacityTier)
    (carbon : ℚ) (position : ℤ) (accurate : Flavour) : ℚ :=
  carbon * getCapacityMultiplier tiers position * accurate.duration *
    settings.engine.carbonCostDurationScale

/-- Tell the executor which task to run; `none` is a panic. -/
def withTask (taskKind : TaskKindId) : Json → Option Json
  | .object fields =>
      match fields.lookup "task" with
      | some _ => some (.object fields)
      | none => some (.object (fields ++ [("task", .string taskKind.value)]))
  | .null => some (.object [("task", .string taskKind.value)])
  | _ => none

/-- A submission that has passed validation. -/
structure Submission where
  requestId : ℕ
  profile : QosProfile
  body : SubmitRequestPayload
  /-- The engine's slot when the submission came in. -/
  currentSlot : ℤ

/-- The slots of a submission. -/
structure RequestTiming where
  arrivalSlot : ℤ
  deadlineSlot : ℤ
  deriving DecidableEq, Repr

/-- How far a submission is.  From `baselined` to `tracked` it holds the
admission lock. -/
inductive SubmitPhase where
  | received
  | timed (timing : RequestTiming)
  | baselined (timing : RequestTiming) (position : ℤ) (carbon : ℚ)
  | costed (timing : RequestTiming) (accurate : Flavour)
      (baselineCarbonCost : ℚ)
  | tracked (timing : RequestTiming) (baselineCarbonCost : ℚ)
  | polling (baselineCarbonCost : ℚ)
  | assigned (baselineCarbonCost : ℚ) (assignment : Assignment)
  | answered (answer : Except ApiError RequestStatusResponse)
  | panicked

def SubmitPhase.holdsAdmission : SubmitPhase → Bool
  | .baselined _ _ _ => true
  | .costed _ _ _ => true
  | .tracked _ _ => true
  | _ => false

/-- A scheduled request is marked so, unless its result is in. -/
def TrackedRequest.markScheduled (tracked : TrackedRequest) : TrackedRequest :=
  if tracked.executorCallbackReceived then
    tracked
  else
    { tracked with status := .scheduled }

namespace Submission

/-- The record of an admitted request. -/
def trackedRequest (submission : Submission) (payload : Json)
    (timing : RequestTiming) (accurate : Flavour) (baselineCarbonCost : ℚ) :
    TrackedRequest :=
  .new submission.body.callbackUrl payload baselineCarbonCost
    accurate.duration timing.arrivalSlot submission.profile.profileId

/-- The request handed to the engine. -/
def engineRequest (submission : Submission) (now : ℚ)
    (timing : RequestTiming) : Request :=
  .newForQosProfile now submission.requestId timing.arrivalSlot
    timing.deadlineSlot submission.profile

/-- Answer while the solver is still working. -/
def pendingResponse (submission : Submission) (baselineCarbonCost : ℚ) :
    RequestStatusResponse where
  requestId := submission.requestId
  qosProfileId := submission.profile.profileId
  status := .pending
  scheduledSlot := none
  etaSeconds := none
  flavour := none
  carbonCost := none
  baselineCarbonCost := baselineCarbonCost
  error := none

/-- Answer with the assigned slot. -/
def scheduledResponse (submission : Submission) (settings : ServiceSettings)
    (currentSlot : ℤ) (baselineCarbonCost : ℚ) (assignment : Assignment) :
    RequestStatusResponse where
  requestId := submission.requestId
  qosProfileId := submission.profile.profileId
  status := .scheduled
  scheduledSlot := some assignment.scheduledSlot
  etaSeconds :=
    some (((max (assignment.scheduledSlot - currentSlot) 0 : ℤ) : ℚ) *
      settings.effectiveSlotDurationSecs)
  flavour := some assignment.flavourName
  carbonCost := some assignment.carbonCost
  baselineCarbonCost := baselineCarbonCost
  error := none

end Submission

/-- What the environment decides at a step of a handler. -/
structure HandlerChoice where
  /-- Wall clock in seconds. -/
  now : ℚ
  /-- Has the handler waited long enough? -/
  timedOut : Bool
  deriving DecidableEq, Repr

namespace AppState

variable {σ : Type}

/-- Allocate an identifier for a valid submission. -/
def receiveSubmission (settings : ServiceSettings) (runtime : ServiceRuntime)
    (body : SubmitRequestPayload) (state : AppState σ) :
    Except ApiError (Submission × AppState σ) :=
  match validateSubmission settings runtime state.qosProfiles body with
  | .error error => .error error
  | .ok profile =>
      .ok
        ({ requestId := state.nextId
           profile := profile
           body := body
           currentSlot := state.currentSlot },
          { state with nextId := state.nextId + 1 })

/-- Reserve the next position of the arrival slot. -/
def reserveBaselinePosition (arrivalSlot : ℤ) (state : AppState σ) :
    ℤ × AppState σ :=
  let position := state.baselineSlotCounts.getD arrivalSlot 0 + 1
  (position,
    { state with
      baselineSlotCounts :=
        state.baselineSlotCounts.insert arrivalSlot position })

/-- Give the admission lock up by a panic. -/
def poisonAdmission (state : AppState σ) : AppState σ :=
  { state with admissionPoisoned := true }

/-- The next critical section of a submission; `none` while it waits for the
admission lock. -/
def submitStep (settings : ServiceSettings) (admissionHeld : Bool)
    (choice : HandlerChoice) (submission : Submission) (state : AppState σ) :
    SubmitPhase → Option (SubmitPhase × AppState σ)
  | .received =>
      let arrivalSlot := resolvedArrivalSlot settings state.slotEpochOffset
        submission.currentSlot submission.body
      let deadlineSlot := deadlineSlotFromSlack arrivalSlot
        submission.body.deadlineSeconds settings.effectiveSlotDurationSecs
        settings.engine.totalSlots
      if deadlineSlot < arrivalSlot then
        some
          (.answered (.error (.badRequest
            ("deadline falls before arrival_slot; the request cannot be " ++
              "scheduled"))),
            state)
      else
        some (.timed ⟨arrivalSlot, deadlineSlot⟩, state)
  | .timed timing =>
      if admissionHeld then
        none
      else if state.admissionPoisoned then
        some (.panicked, state)
      else if settings.manualClock = true ∧
          timing.arrivalSlot ≤ state.closedThroughSlot then
        some
          (.answered (.error (.conflict
            ("arrival slot " ++ toString timing.arrivalSlot ++
              " has already been closed"))),
            state)
      else
        let reserved := state.reserveBaselinePosition timing.arrivalSlot
        some
          (.baselined timing reserved.1
            ((slotEntry state.carbonForecast timing.arrivalSlot).getD 0),
            reserved.2)
  | .baselined timing position carbon =>
      match baselineFlavour submission.profile with
      | none => some (.panicked, state.poisonAdmission)
      | some accurate =>
          some
            (.costed timing accurate
              (baselineCost settings (state.engine.shared.capacityTiers.getD [])
                carbon position accurate),
              state)
  | .costed timing accurate baselineCarbonCost =>
      match withTask submission.profile.taskKind submission.body.payload with
      | none => some (.panicked, state.poisonAdmission)
      | some payload =>
          some
            (.tracked timing baselineCarbonCost,
              { state with
                tracked :=
                  state.tracked.insert submission.requestId
                    (submission.trackedRequest payload timing accurate
                      baselineCarbonCost) })
  | .tracked timing baselineCarbonCost =>
      some
        (.polling baselineCarbonCost,
          state.withShared
            (state.engine.shared.addRequest
              (submission.engineRequest choice.now timing)))
  | .polling baselineCarbonCost =>
      match state.engine.shared.assignments.lookup submission.requestId with
      | some assignment =>
          some (.assigned baselineCarbonCost assignment, state)
      | none =>
          if choice.timedOut then
            some
              (.answered (.ok (submission.pendingResponse baselineCarbonCost)),
                state)
          else
            some (.polling baselineCarbonCost, state)
  | .assigned baselineCarbonCost assignment =>
      some
        (.answered (.ok
          (submission.scheduledResponse settings state.currentSlot
            baselineCarbonCost assignment)),
          state.adjustTracked submission.requestId
            TrackedRequest.markScheduled)
  | .answered _ => none
  | .panicked => none

end AppState

end Carbonshift
