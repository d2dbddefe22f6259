import Carbonshift.Library.Transition
import Carbonshift.Service.ProfileApi

/-!
# Profiles between clients and service

The service keeps its profiles in memory and loses them when it restarts.  A
client registers its profiles when it starts, remembers every definition that
was accepted, and restores one that a submission needs.  Calls overlap; a
request or an answer may be late or lost.
-/

namespace Carbonshift

/-! ## Settings -/

/-- The settings of a client for its calls. -/
structure ClientSettings where
  carbonshiftUrl : String
  carbonshiftApiKey : Option String
  qosProfileRegistrationAttempts : ℤ
  qosProfileRegistrationRetrySeconds : ℚ

/-- A service and its clients. -/
structure Deployment where
  service : ServiceSettings
  runtime : ServiceRuntime
  apiKey : Option String
  client : ℕ → ClientSettings

/-! ## Calls -/

/-- A definition as a client holds it.  What the service cannot read has no
body. -/
structure ProfileDefinition where
  profileId : String
  body : Option RegisterQosProfilePayload
  named : ∀ payload, body = some payload → payload.profileId = profileId

structure CarbonshiftError where
  message : String
  statusCode : Option ℕ
  deriving DecidableEq, Repr

namespace CarbonshiftError

def unreachable (settings : ClientSettings) (reason : String) :
    CarbonshiftError where
  message :=
    "cannot reach carbonshift at " ++ settings.carbonshiftUrl ++ ": " ++ reason
  statusCode := none

def refused (response : HttpResponse) : CarbonshiftError where
  message :=
    "carbonshift returned " ++ toString response.status ++ ": " ++
      response.text
  statusCode := some response.status

/-- An error that another attempt may not meet. -/
def isTransient (error : CarbonshiftError) : Bool :=
  match error.statusCode with
  | none => true
  | some statusCode =>
      statusCode == 408 || statusCode == 429 || decide (500 ≤ statusCode)

end CarbonshiftError

inductive CallRequest where
  | submit (body : SubmitRequestPayload)
  | register (definition : ProfileDefinition)

/-- How far a call is.  A submission that is not found may restore a profile
and is then tried once more. -/
inductive CallPhase where
  | waiting
  | restoring (definition : ProfileDefinition)
  | retrying (definition : ProfileDefinition)
  | returned
  | failed (error : CarbonshiftError)

/-- What is under way on the connection of a call. -/
inductive Wire where
  | submission (body : SubmitRequestPayload)
  | registration (definition : ProfileDefinition)
  | answer (response : HttpResponse)

/-- The profile that a submission on the way names. -/
def Wire.named : Wire → Option String
  | .submission body => body.qosProfileId
  | _ => none

structure ProfileCall where
  clientId : ℕ
  request : CallRequest
  phase : CallPhase
  wire : Option Wire

namespace ProfileCall

/-- A call that has been sent. -/
def post (clientId : ℕ) (request : CallRequest) : ProfileCall where
  clientId := clientId
  request := request
  phase := .waiting
  wire :=
    match request with
    | .submit body => some (.submission body)
    | .register definition => some (.registration definition)

def withWire (call : ProfileCall) (wire : Option Wire) : ProfileCall :=
  { call with wire := wire }

/-- Go on without anything under way. -/
def conclude (call : ProfileCall) (phase : CallPhase) : ProfileCall :=
  { call with phase := phase, wire := none }

/-- The phase after the last answer to a submission. -/
def submissionPhase (response : HttpResponse) : CallPhase :=
  if response.status = 200 ∨ response.status = 202 then
    .returned
  else
    .failed (.refused response)

end ProfileCall

/-- The definitions that a client knows to be accepted, by identifier. -/
abbrev KnownProfiles := Dictionary String ProfileDefinition

namespace KnownProfiles

def remember (known : KnownProfiles) (definition : ProfileDefinition) :
    KnownProfiles :=
  if definition.profileId = "" then
    known
  else
    known.insert definition.profileId definition

/-- The definition to restore after an answer, if there is one. -/
def lost (known : KnownProfiles) (body : SubmitRequestPayload)
    (response : HttpResponse) : Option ProfileDefinition :=
  if response.status = 404 then
    body.qosProfileId.bind fun profileId => known.lookup profileId
  else
    none

end KnownProfiles

/-- A client takes an answer in. -/
def ProfileCall.receive (known : KnownProfiles) (response : HttpResponse)
    (call : ProfileCall) : Option (ProfileCall × KnownProfiles) :=
  match call.phase, call.request with
  | .waiting, .submit body =>
      match known.lost body response with
      | some definition =>
          some
            ({ call with
                phase := .restoring definition
                wire := some (.registration definition) },
              known)
      | none => some (call.conclude (submissionPhase response), known)
  | .waiting, .register definition =>
      if response.status = 204 then
        some (call.conclude .returned, known.remember definition)
      else
        some (call.conclude (.failed (.refused response)), known)
  | .restoring definition, .submit body =>
      if response.status = 204 then
        some
          ({ call with
              phase := .retrying definition
              wire := some (.submission body) },
            known.remember definition)
      else
        some (call.conclude (.failed (.refused response)), known)
  | .retrying _, .submit _ =>
      some (call.conclude (submissionPhase response), known)
  | _, _ => none

/-! ## The service -/

/-- What becomes of a submission whose profile has been resolved. -/
inductive SubmissionFate where
  | scheduled
  | pending
  | deadlineBeforeArrival
  | slotClosed (arrivalSlot : ℤ)
  | panicked

/-- What the service does with a request.  A panic drops the connection. -/
structure Reply where
  response : Option HttpResponse
  registry : QosProfileRegistry
  admitted : Option QosProfile

section Serving

variable (deployment : Deployment) (registry : QosProfileRegistry)

/-- Answer a submission; the resolved profile is that of the request. -/
def serveSubmission (fate : SubmissionFate) (body : SubmitRequestPayload) :
    Reply :=
  match validateSubmission deployment.service deployment.runtime registry
      body with
  | .error error => ⟨some (.ofError error), registry, none⟩
  | .ok profile =>
      match fate with
      | .scheduled => ⟨some ⟨200, "scheduled"⟩, registry, some profile⟩
      | .pending => ⟨some ⟨202, "pending"⟩, registry, some profile⟩
      | .deadlineBeforeArrival =>
          ⟨some (.ofError (.badRequest ("deadline falls before " ++
            "arrival_slot; the request cannot be scheduled"))), registry, none⟩
      | .slotClosed arrivalSlot =>
          ⟨some (.ofError (.conflict ("arrival slot " ++
            toString arrivalSlot ++ " has already been closed"))), registry,
            none⟩
      | .panicked => ⟨none, registry, none⟩

/-- Answer a registration; a body that cannot be read is refused. -/
def serveRegistration (definition : ProfileDefinition) : Reply :=
  match definition.body with
  | none =>
      ⟨some ⟨422, "Failed to deserialize the JSON body into the target type"⟩,
        registry, none⟩
  | some payload =>
      let answered := registerQosProfile registry payload
      ⟨some answered.1, answered.2, none⟩

/-- Answer a request of a client, if its credential is right. -/
def serve (clientId : ℕ) (fate : SubmissionFate) : Wire → Option Reply
  | .answer _ => none
  | .submission body =>
      some
        (if requireHeader deployment.apiKey
            (deployment.client clientId).carbonshiftApiKey then
          serveSubmission deployment registry fate body
        else
          ⟨some (unauthorized "x-api-key"), registry, none⟩)
  | .registration definition =>
      some
        (if requireHeader deployment.apiKey
            (deployment.client clientId).carbonshiftApiKey then
          serveRegistration registry definition
        else
          ⟨some (unauthorized "x-api-key"), registry, none⟩)

end Serving

/-! ## Registering at the start of a client -/

inductive BootstrapFailure where
  | invalidSetting (message : String)
  | registration (error : CarbonshiftError)

/-- The registrations of a client that starts. -/
structure Bootstrap where
  registeredIds : List String
  /-- Definitions that are not registered yet. -/
  remaining : List ProfileDefinition
  /-- The attempt for the first of them. -/
  attempt : ℤ
  /-- The call of this attempt, once it has been sent. -/
  current : Option ℕ
  failure : Option BootstrapFailure

namespace Bootstrap

/-- Nothing is registered without definitions; otherwise the settings are
checked first. -/
def start (settings : ClientSettings) (profiles : List ProfileDefinition) :
    Bootstrap where
  registeredIds := []
  remaining := profiles
  attempt := 1
  current := none
  failure :=
    if profiles.isEmpty then
      none
    else if settings.qosProfileRegistrationAttempts < 1 then
      some (.invalidSetting
        "CLIENT_QOS_PROFILE_REGISTRATION_ATTEMPTS must be at least 1")
    else if settings.qosProfileRegistrationRetrySeconds < 0 then
      some (.invalidSetting
        ("CLIENT_QOS_PROFILE_REGISTRATION_RETRY_SECONDS cannot be " ++
          "negative"))
    else
      none

/-- Every definition has been registered. -/
def Finished (bootstrap : Bootstrap) : Prop :=
  bootstrap.failure = none ∧ bootstrap.remaining = []

/-- Go on after a call for a definition. -/
def proceed (settings : ClientSettings) (bootstrap : Bootstrap)
    (definition : ProfileDefinition) (rest : List ProfileDefinition) :
    CallPhase → Option Bootstrap
  | .returned =>
      some
        { bootstrap with
          registeredIds := bootstrap.registeredIds ++ [definition.profileId]
          remaining := rest
          attempt := 1
          current := none }
  | .failed error =>
      if error.isTransient = false ∨
          bootstrap.attempt = settings.qosProfileRegistrationAttempts then
        some
          { bootstrap with
            failure :=
              some (.registration
                { message :=
                    "could not restore QoS profile '" ++
                      definition.profileId ++ "' after " ++
                        toString bootstrap.attempt ++ " attempt(s): " ++
                          error.message
                  statusCode := error.statusCode }) }
      else
        some
          { bootstrap with
            attempt := bootstrap.attempt + 1
            current := none }
  | _ => none

end Bootstrap

/-! ## The system -/

/-- A request that the service has admitted. -/
structure ProfileAdmission where
  callId : ℕ
  named : Option String
  profile : QosProfile

structure ProfileExchange where
  registry : QosProfileRegistry
  /-- What every client knows. -/
  known : Dictionary ℕ KnownProfiles
  calls : Dictionary ℕ ProfileCall
  /-- Number of calls made so far. -/
  started : ℕ
  bootstraps : Dictionary ℕ Bootstrap
  /-- What has been admitted, over all restarts. -/
  admitted : List ProfileAdmission

namespace ProfileExchange

inductive Action where
  | submit (clientId : ℕ) (body : SubmitRequestPayload)
  | register (clientId : ℕ) (definition : ProfileDefinition)
  | serve (callId : ℕ) (fate : SubmissionFate)
  /-- A request or an answer is lost. -/
  | lose (callId : ℕ)
  | receive (callId : ℕ)
  /-- A client stops waiting; what is under way may still arrive. -/
  | giveUp (callId : ℕ) (reason : String)
  | startBootstrap (clientId : ℕ) (profiles : List ProfileDefinition)
  | bootstrap (clientId : ℕ)
  | restartService
  /-- The calls of a client that restarts are not heard of again. -/
  | restartClient (clientId : ℕ)

def new (deployment : Deployment) : ProfileExchange where
  registry := .fromConfig deployment.service.engine
  known := ∅
  calls := ∅
  started := 0
  bootstraps := ∅
  admitted := []

section Step

variable (deployment : Deployment) (exchange : ProfileExchange)

def knownTo (clientId : ℕ) : KnownProfiles :=
  exchange.known.getD clientId ∅

/-- Send a new call. -/
def post (clientId : ℕ) (request : CallRequest) : ProfileExchange :=
  { exchange with
    calls :=
      exchange.calls.insert exchange.started (.post clientId request)
    started := exchange.started + 1 }

def setCall (callId : ℕ) (call : ProfileCall) : ProfileExchange :=
  { exchange with calls := exchange.calls.insert callId call }

/-- The service takes a request and sends its answer. -/
def serveCall (callId : ℕ) (call : ProfileCall) (wire : Wire)
    (reply : Reply) : ProfileExchange :=
  { exchange.setCall callId (call.withWire (reply.response.map .answer)) with
    registry := reply.registry
    admitted := exchange.admitted ++
      (reply.admitted.map fun profile =>
        { callId := callId, named := wire.named,
          profile := profile }).toList }

/-- The next step of a client's start. -/
def bootstrapStep (clientId : ℕ) (bootstrap : Bootstrap) :
    Option ProfileExchange :=
  match bootstrap.failure, bootstrap.remaining, bootstrap.current with
  | none, definition :: _, none =>
      some
        { exchange.post clientId (.register definition) with
          bootstraps :=
            exchange.bootstraps.insert clientId
              { bootstrap with current := some exchange.started } }
  | none, definition :: rest, some callId =>
      (exchange.calls.lookup callId).bind fun call =>
        (bootstrap.proceed (deployment.client clientId) definition rest
          call.phase).map fun next =>
            { exchange with
              bootstraps := exchange.bootstraps.insert clientId next }
  | _, _, _ => none

def step : Action → Option ProfileExchange
  | .submit clientId body => some (exchange.post clientId (.submit body))
  | .register clientId definition =>
      some (exchange.post clientId (.register definition))
  | .serve callId fate =>
      (exchange.calls.lookup callId).bind fun call =>
        call.wire.bind fun wire =>
          (serve deployment exchange.registry call.clientId fate wire).map
            (exchange.serveCall callId call wire)
  | .lose callId =>
      (exchange.calls.lookup callId).map fun call =>
        exchange.setCall callId (call.withWire none)
  | .receive callId =>
      (exchange.calls.lookup callId).bind fun call =>
        match call.wire with
        | some (.answer response) =>
            (call.receive (exchange.knownTo call.clientId) response).map
              fun received =>
                { exchange.setCall callId received.1 with
                  known := exchange.known.insert call.clientId received.2 }
        | _ => none
  | .giveUp callId reason =>
      (exchange.calls.lookup callId).bind fun call =>
        match call.phase with
        | .returned => none
        | .failed _ => none
        | _ =>
            some (exchange.setCall callId
              { call with
                phase :=
                  .failed (.unreachable (deployment.client call.clientId)
                    reason) })
  | .startBootstrap clientId profiles =>
      some
        { exchange with
          bootstraps :=
            exchange.bootstraps.insert clientId
              (.start (deployment.client clientId) profiles) }
  | .bootstrap clientId =>
      (exchange.bootstraps.lookup clientId).bind fun bootstrap =>
        exchange.bootstrapStep deployment clientId bootstrap
  | .restartService =>
      some { exchange with registry := .fromConfig deployment.service.engine }
  | .restartClient clientId =>
      some
        { exchange with
          known := exchange.known.erase clientId
          bootstraps := exchange.bootstraps.erase clientId }

end Step

end ProfileExchange

end Carbonshift
