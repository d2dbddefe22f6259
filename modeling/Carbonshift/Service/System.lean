import Carbonshift.Service.Callback
import Carbonshift.Service.ClockSteps
import Carbonshift.Service.CloseSlot
import Carbonshift.Service.Dispatcher
import Carbonshift.Service.Submission

/-!
# The service as a transition system

Request handlers, the dispatcher, the main loop and the batch workers act on
one shared state.  Every action below is one critical section of one of them,
so a run of the service is a list of actions in any order.
-/

namespace Carbonshift

/-! ## Capacity tiers -/

/-- The bound of one tier, after the bounds before it. -/
def validateBound (isLast : Bool) (previous : Option ℤ) :
    Option ℤ → Except ApiError (Option ℤ)
  | some maxRequests =>
      if maxRequests ≤ 0 then
        .error (.badRequest
          "finite max_requests bounds must be greater than zero")
      else if isLast then
        .error (.badRequest
          "the final capacity tier must be the null overflow tier")
      else if previous.any fun bound => maxRequests ≤ bound then
        .error (.badRequest
          "finite max_requests bounds must be strictly increasing")
      else
        .ok (some maxRequests)
  | none =>
      if isLast then
        .ok previous
      else
        .error (.badRequest
          "only the final capacity tier may have max_requests: null")

/-- The tiers of a ladder in order, after the ones before them. -/
def validateTiers (previousBound : Option ℤ) (previousMultiplier : Option ℚ) :
    List CapacityTier → Except ApiError Unit
  | [] => .ok ()
  | tier :: rest =>
      if tier.multiplier ≤ 0 then
        .error (.badRequest
          "tier multipliers must be finite and greater than zero")
      else if previousMultiplier.isNone ∧ tier.multiplier ≠ 1 then
        .error (.badRequest
          "the first capacity tier must use the baseline multiplier 1.0")
      else if previousMultiplier.any fun previous =>
          tier.multiplier < previous then
        .error (.badRequest
          ("tier multipliers must not decrease as request positions " ++
            "increase"))
      else
        match validateBound rest.isEmpty previousBound tier.maxRequests with
        | .error error => .error error
        | .ok bound => validateTiers bound (some tier.multiplier) rest

/-- The checks of a new capacity ladder. -/
def validateCapacityTiers (tiers : List CapacityTier) : Except ApiError Unit :=
  if tiers.isEmpty then
    .error (.badRequest "capacity_tiers must not be empty")
  else
    validateTiers none none tiers

/-! ## Parties -/

/-- A request handler in progress, or the answer it gave. -/
inductive Handler where
  | submit (submission : Submission) (phase : SubmitPhase)
  | callback (requestId : ℕ) (body : ExecutorCallbackPayload)
      (phase : CallbackPhase)
  | advance (body : AdvanceSlotBody) (phase : AdvancePhase)
  | close (body : CloseSlotBody) (phase : ClosePhase)

/-- The handler holds the admission lock. -/
def Handler.holdsAdmission : Handler → Bool
  | .submit _ phase => phase.holdsAdmission
  | _ => false

/-- How far the main loop is in its iteration. -/
inductive LoopPhase where
  | idle
  | clockRead (elapsedMs : ℕ)
  | slotStored (elapsedMs : ℕ)
  | dispatching (elapsedMs : ℕ) (carbonForecast : List ℚ)

/-- A step of the main loop; without a manual clock, real time passes. -/
inductive LoopMove where
  | readClock (passedMs : ℕ)
  | storeSlot
  | readForecast
  | selectProfile (flush : Bool)
  | finish

/-- The service, its handlers and tasks, and the exchange with the executor. -/
structure Service (σ : Type) where
  app : AppState σ
  handlers : Dictionary ℕ Handler
  /-- Number of handlers started so far. -/
  started : ℕ
  dispatcher : DispatcherPhase
  loop : LoopPhase
  /-- What was exchanged with the executor, in order. -/
  exchange : List DispatchEvent

namespace Service

variable {σ : Type}

/-- The service before the first request. -/
def new (settings : ServiceSettings) (carbonForecast : List ℚ)
    (startedAt : ℤ) : Service σ where
  app := .new settings carbonForecast startedAt
  handlers := ∅
  started := 0
  dispatcher := .idle
  loop := .idle
  exchange := []

def withApp (service : Service σ) (app : AppState σ) : Service σ :=
  { service with app := app }

/-- Some handler holds the admission lock. -/
def admissionHeld (service : Service σ) : Bool :=
  service.handlers.values.any Handler.holdsAdmission

/-- Start a handler that has already acted. -/
def start (service : Service σ) (handler : Handler) (app : AppState σ) :
    Service σ :=
  { service with
    app := app
    handlers := service.handlers.insert service.started handler
    started := service.started + 1 }

/-- Whole slots of a virtual instant. -/
def elapsedSlots (settings : ServiceSettings) (elapsedMs : ℕ) : ℕ :=
  (clockSlot settings.effectiveSlotDurationSecs elapsedMs).toNat

inductive Action where
  | registerProfile (profile : QosProfile)
  | replaceCapacityTiers (tiers : List CapacityTier)
  | submit (body : SubmitRequestPayload)
  | callback (requestId : ℕ) (body : ExecutorCallbackPayload)
  | advanceSlot (body : AdvanceSlotBody)
  | closeSlot (body : CloseSlotBody)
  | handle (handlerId : ℕ) (choice : HandlerChoice)
  | loop (move : LoopMove)
  | claimBatch
  | work (workerId : ℕ) (move : Engine.WorkerMove)
  | release (workerId : ℕ)
  | dispatch (choice : DispatcherChoice)

section Step

variable (settings : ServiceSettings) (numerics : NumericRuntime σ)
variable (runtime : ServiceRuntime)

/-- A step of the engine alone. -/
def engineStep (service : Service σ) (action : Engine.Action) :
    Option (Service σ) :=
  (Engine.step settings.engine numerics service.app.engine action).map
    fun engine => service.withApp { service.app with engine := engine }

/-- The next critical section of a handler. -/
def handlerStep (service : Service σ) (choice : HandlerChoice) :
    Handler → Option (Handler × AppState σ)
  | .submit submission phase =>
      (service.app.submitStep settings service.admissionHeld choice submission
        phase).map fun next => (.submit submission next.1, next.2)
  | .callback requestId body phase =>
      (service.app.callbackStep requestId body phase).map fun next =>
        (.callback requestId body next.1, next.2)
  | .advance body phase =>
      (service.app.advanceStep settings runtime body phase).map fun next =>
        (.advance body next.1, next.2)
  | .close body phase =>
      (service.app.closeStep settings service.admissionHeld choice.timedOut
        body phase).map fun next => (.close body next.1, next.2)

/-- The next critical section of the main loop. -/
def loopStep (service : Service σ) : LoopMove → Option (Service σ)
  | .readClock passedMs =>
      match service.loop with
      | .idle =>
          let elapsedMs :=
            if settings.manualClock then
              service.app.virtualElapsedMs
            else
              service.app.virtualElapsedMs + passedMs
          some
            { service with
              app := { service.app with virtualElapsedMs := elapsedMs }
              loop := .clockRead elapsedMs }
      | _ => none
  | .storeSlot =>
      match service.loop with
      | .clockRead elapsedMs =>
          (engineStep settings numerics service
            (.setCurrentSlot (slotOfClock settings elapsedMs))).map
              fun stored => { stored with loop := .slotStored elapsedMs }
      | _ => none
  | .readForecast =>
      match service.loop with
      | .slotStored elapsedMs =>
          some
            { service with
              loop := .dispatching elapsedMs service.app.carbonForecast }
      | _ => none
  | .selectProfile flush =>
      match service.loop with
      | .dispatching elapsedMs carbonForecast =>
          engineStep settings numerics service
            (.selectProfile (elapsedSlots settings elapsedMs) flush
              carbonForecast)
      | _ => none
  | .finish =>
      match service.loop with
      | .dispatching _ _ => some { service with loop := .idle }
      | _ => none

/-- One step of the service.  A request that is refused on arrival changes
nothing. -/
def step (service : Service σ) : Action → Option (Service σ)
  | .registerProfile profile =>
      match service.app.qosProfiles.register profile with
      | .error _ => some service
      | .ok registered =>
          some (service.withApp
            { service.app with qosProfiles := registered.2 })
  | .replaceCapacityTiers tiers =>
      match validateCapacityTiers tiers with
      | .error _ => some service
      | .ok _ => engineStep settings numerics service (.replaceCapacityTiers tiers)
  | .submit body =>
      match service.app.receiveSubmission settings runtime body with
      | .error _ => some service
      | .ok (submission, app) =>
          some (service.start (.submit submission .received) app)
  | .callback requestId body =>
      match service.app.claimCallback requestId with
      | .error _ => some service
      | .ok none => some service
      | .ok (some app) =>
          some (service.start (.callback requestId body .claimed) app)
  | .advanceSlot body =>
      match announcedSlot settings runtime body with
      | .error _ => some service
      | .ok slot =>
          some (service.start (.advance body (.received slot)) service.app)
  | .closeSlot body =>
      match closingSlot settings runtime service.app.slotEpochOffset body with
      | .error _ => some service
      | .ok engineSlot =>
          some (service.start (.close body (.translated engineSlot))
            service.app)
  | .handle handlerId choice =>
      (service.handlers.lookup handlerId).bind fun handler =>
        (handlerStep settings runtime service choice handler).map fun next =>
          { service with
            app := next.2
            handlers := service.handlers.insert handlerId next.1 }
  | .loop move => loopStep settings numerics service move
  | .claimBatch => engineStep settings numerics service .claimBatch
  | .work workerId move =>
      engineStep settings numerics service (.work workerId move)
  | .release workerId =>
      engineStep settings numerics service (.release workerId)
  | .dispatch choice =>
      let next := service.app.dispatcherStep settings runtime choice
        service.dispatcher
      some
        { service with
          app := next.2.1
          dispatcher := next.1
          exchange := service.exchange ++ next.2.2 }

end Step

end Service

end Carbonshift
