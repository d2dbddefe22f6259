import Carbonshift.Engine.LockedCommits
import Carbonshift.Service.System

/-!
# What one step of the service can do

One inversion lemma for the service and one for each handler.  The invariants
of the service are derived from these.
-/

namespace Carbonshift

/-- Steps of the main loop, of the batch workers and of the ladder; the others
belong to request handlers. -/
def Engine.Action.isInternal : Engine.Action → Bool
  | .addRequest _ => false
  | .addRequests _ => false
  | .initializeCapacityTiers _ => false
  | .correctAssignmentError _ _ => false
  | .correctAssignmentCarbonCost _ _ => false
  | _ => true

theorem Engine.Action.received_of_isInternal {action : Engine.Action}
    (internal : action.isInternal = true) : action.received = [] := by
  cases action with
  | addRequest request => cases internal
  | addRequests requests => cases internal
  | _ => rfl

namespace AppState

variable {σ : Type}

/-- The records of the requests agree, and so does the admission fence. -/
structure SameRecords (before after : AppState σ) : Prop where
  tracked_eq : after.tracked = before.tracked
  closedThroughSlot_eq : after.closedThroughSlot = before.closedThroughSlot
  nextId_eq : after.nextId = before.nextId

theorem SameRecords.refl (state : AppState σ) : SameRecords state state :=
  ⟨rfl, rfl, rfl⟩

end AppState

/-! ## Submissions -/

namespace SubmitPhase

/-- The slots of a submission that holds the admission lock. -/
def heldTiming : SubmitPhase → Option RequestTiming
  | .baselined timing _ _ => some timing
  | .costed timing _ _ => some timing
  | .tracked timing _ => some timing
  | _ => none

/-- The request has no record yet. -/
def beforeRecord : SubmitPhase → Bool
  | .received => true
  | .timed _ => true
  | .baselined _ _ _ => true
  | .costed _ _ _ => true
  | _ => false

/-- The request is not in the queue yet. -/
def beforeQueue : SubmitPhase → Bool
  | .tracked _ _ => true
  | phase => phase.beforeRecord

theorem holdsAdmission_iff {phase : SubmitPhase} :
    phase.holdsAdmission = true ↔ ∃ timing, phase.heldTiming = some timing := by
  cases phase <;> simp [holdsAdmission, heldTiming]

/-- Nothing new is to be done after the step. -/
structure Recedes (before after : SubmitPhase) : Prop where
  timing : ∀ timing, after.heldTiming = some timing →
    before.heldTiming = some timing
  record : after.beforeRecord = true → before.beforeRecord = true
  queue : after.beforeQueue = true → before.beforeQueue = true
  unrecorded : ∀ timing cost, after ≠ .tracked timing cost

end SubmitPhase

namespace AppState

variable {σ : Type}

/-- What a step of a submission does. -/
inductive SubmitEffect (settings : ServiceSettings) (admissionHeld : Bool)
    (submission : Submission) (state : AppState σ) :
    SubmitPhase → SubmitPhase → AppState σ → Prop where
  | quiet {phase after : SubmitPhase} {next : AppState σ}
      (engine_eq : next.engine = state.engine)
      (records : SameRecords state next)
      (recedes : SubmitPhase.Recedes phase after) :
      SubmitEffect settings admissionHeld submission state phase after next
  | fenced {timing : RequestTiming} {position : ℤ} {carbon : ℚ}
      (free : admissionHeld = false)
      (opened : settings.manualClock = true →
        state.closedThroughSlot < timing.arrivalSlot) :
      SubmitEffect settings admissionHeld submission state (.timed timing)
        (.baselined timing position carbon)
        (state.reserveBaselinePosition timing.arrivalSlot).2
  | recorded {timing : RequestTiming} {accurate : Flavour}
      {baselineCarbonCost : ℚ} {payload : Json} :
      SubmitEffect settings admissionHeld submission state
        (.costed timing accurate baselineCarbonCost)
        (.tracked timing baselineCarbonCost)
        { state with
          tracked :=
            state.tracked.insert submission.requestId
              (submission.trackedRequest payload timing accurate
                baselineCarbonCost) }
  | queued {timing : RequestTiming} {baselineCarbonCost now : ℚ} :
      SubmitEffect settings admissionHeld submission state
        (.tracked timing baselineCarbonCost) (.polling baselineCarbonCost)
        (state.withShared
          (state.engine.shared.addRequest
            (submission.engineRequest now timing)))
  | marked {baselineCarbonCost : ℚ} {assignment : Assignment}
      {answer : Except ApiError RequestStatusResponse} :
      SubmitEffect settings admissionHeld submission state
        (.assigned baselineCarbonCost assignment) (.answered answer)
        (state.adjustTracked submission.requestId TrackedRequest.markScheduled)

private theorem recedes_of_free {before after : SubmitPhase}
    (timing : after.heldTiming = none) (record : after.beforeRecord = false)
    (queue : after.beforeQueue = false) : SubmitPhase.Recedes before after := by
  refine ⟨fun held same => ?_, fun early => ?_, fun early => ?_, ?_⟩
  · rw [timing] at same
    cases same
  · rw [record] at early
    cases early
  · rw [queue] at early
    cases early
  · rintro held cost rfl
    cases queue

theorem submitStep_effect
    {settings : ServiceSettings} {admissionHeld : Bool}
    {choice : HandlerChoice} {submission : Submission} {state : AppState σ}
    {phase : SubmitPhase} {next : SubmitPhase × AppState σ}
    (taken : state.submitStep settings admissionHeld choice submission phase =
      some next) :
    SubmitEffect settings admissionHeld submission state phase next.1
      next.2 := by
  cases phase with
  | received =>
      simp only [submitStep] at taken
      split at taken
      · cases taken
        exact .quiet rfl (.refl state) (recedes_of_free rfl rfl rfl)
      · cases taken
        exact .quiet rfl (.refl state)
          ⟨nofun, fun _ => rfl, fun _ => rfl, nofun⟩
  | timed timing =>
      simp only [submitStep] at taken
      split at taken
      · cases taken
      · rename_i free
        split at taken
        · cases taken
          exact .quiet rfl (.refl state) (recedes_of_free rfl rfl rfl)
        · split at taken
          · cases taken
            exact .quiet rfl (.refl state) (recedes_of_free rfl rfl rfl)
          · rename_i opened
            cases taken
            refine .fenced (by simpa using free) fun manual => ?_
            by_contra closed
            exact opened ⟨manual, not_lt.mp closed⟩
  | baselined timing position carbon =>
      simp only [submitStep] at taken
      split at taken
      · cases taken
        exact .quiet rfl ⟨rfl, rfl, rfl⟩ (recedes_of_free rfl rfl rfl)
      · cases taken
        exact .quiet rfl (.refl state)
          ⟨fun _ => id, fun _ => rfl, fun _ => rfl, nofun⟩
  | costed timing accurate baselineCarbonCost =>
      simp only [submitStep] at taken
      split at taken
      · cases taken
        exact .quiet rfl ⟨rfl, rfl, rfl⟩ (recedes_of_free rfl rfl rfl)
      · cases taken
        exact .recorded
  | tracked timing baselineCarbonCost =>
      cases taken
      exact .queued
  | polling baselineCarbonCost =>
      simp only [submitStep] at taken
      split at taken
      · cases taken
        exact .quiet rfl (.refl state) (recedes_of_free rfl rfl rfl)
      · split at taken <;>
        · cases taken
          exact .quiet rfl (.refl state) (recedes_of_free rfl rfl rfl)
  | assigned baselineCarbonCost assignment =>
      cases taken
      exact .marked
  | answered answer => cases taken
  | panicked => cases taken

namespace SubmitEffect

variable {settings : ServiceSettings} {admissionHeld : Bool}
variable {submission : Submission} {state next : AppState σ}
variable {phase after : SubmitPhase}

/-- A request without a record had none before. -/
theorem beforeRecord
    (effect : SubmitEffect settings admissionHeld submission state phase after
      next)
    (early : after.beforeRecord = true) : phase.beforeRecord = true := by
  cases effect with
  | quiet _ _ recedes => exact recedes.record early
  | fenced _ _ => rfl
  | recorded => rfl
  | queued => cases early
  | marked => cases early

/-- A request that is not queued was not queued before. -/
theorem beforeQueue
    (effect : SubmitEffect settings admissionHeld submission state phase after
      next)
    (early : after.beforeQueue = true) : phase.beforeQueue = true := by
  cases effect with
  | quiet _ _ recedes => exact recedes.queue early
  | fenced _ _ => rfl
  | recorded => rfl
  | queued => cases early
  | marked => cases early

/-- A step to `tracked` adds the record. -/
theorem tracked_inv {timing : RequestTiming} {baselineCarbonCost : ℚ}
    (effect : SubmitEffect settings admissionHeld submission state phase
      (.tracked timing baselineCarbonCost) next) :
    ∃ accurate payload,
      phase = .costed timing accurate baselineCarbonCost ∧
        next.tracked = state.tracked.insert submission.requestId
          (submission.trackedRequest payload timing accurate
            baselineCarbonCost) := by
  cases effect with
  | quiet _ _ recedes => exact absurd rfl (recedes.unrecorded _ _)
  | recorded => exact ⟨_, _, rfl, rfl⟩

end SubmitEffect

/-! ## Callbacks -/

/-- What a step of a callback does. -/
inductive CallbackEffect (requestId : ℕ) (body : ExecutorCallbackPayload)
    (state : AppState σ) : AppState σ → Prop where
  | quiet : CallbackEffect requestId body state state
  | errorCorrected {actualError : ℚ} :
      CallbackEffect requestId body state
        (state.withShared
          (state.engine.shared.correctAssignmentError requestId actualError))
  | costCorrected {carbonCost : ℚ} :
      CallbackEffect requestId body state
        (state.withShared
          (state.engine.shared.correctAssignmentCarbonCost requestId
            carbonCost).2)
  | finished {actualCarbonCost actualBaseline : Option ℚ} :
      CallbackEffect requestId body state
        (state.adjustTracked requestId fun tracked =>
          tracked.finishCallback body actualCarbonCost actualBaseline)

theorem callbackStep_effect
    {requestId : ℕ} {body : ExecutorCallbackPayload} {state : AppState σ}
    {phase : CallbackPhase} {next : CallbackPhase × AppState σ}
    (taken : state.callbackStep requestId body phase = some next) :
    CallbackEffect requestId body state next.2 := by
  cases phase with
  | claimed =>
      simp only [callbackStep] at taken
      split at taken
      · cases taken
        exact .quiet
      · cases taken
        exact .errorCorrected
  | errorCorrected =>
      simp only [callbackStep] at taken
      split at taken <;>
      · cases taken
        exact .quiet
  | assignmentRead assignment =>
      cases taken
      exact .quiet
  | actualRead assignment actual =>
      simp only [callbackStep] at taken
      split at taken <;>
      · cases taken
        exact .quiet
  | repricing carbonCost =>
      cases taken
      exact .costCorrected
  | costCorrected actualCarbonCost =>
      simp only [callbackStep] at taken
      split at taken <;>
      · cases taken
        exact .quiet
  | arrivalRead actualCarbonCost arrivalActual =>
      simp only [callbackStep] at taken
      split at taken
      · cases taken
        exact .quiet
      · cases taken
        exact .finished
  | answered answer => cases taken

/-! ## Clock and close-slot requests -/

end AppState

/-- The slot of a close-slot request that has shut the admission and has not
failed. -/
def ClosePhase.fencedSlot : ClosePhase → Option ℤ
  | .fenced engineSlot => some engineSlot
  | .draining engineSlot => some engineSlot
  | .observed engineSlot _ => some engineSlot
  | .answered engineSlot (.ok _) => some engineSlot
  | _ => none

namespace AppState

variable {σ : Type}

/-- An advance-slot request can store the engine's slot; it touches no record
of a request. -/
theorem advanceStep_effect
    {settings : ServiceSettings} {runtime : ServiceRuntime}
    {body : AdvanceSlotBody} {state : AppState σ} {phase : AdvancePhase}
    {next : AdvancePhase × AppState σ}
    (taken : state.advanceStep settings runtime body phase = some next) :
    SameRecords state next.2 ∧
      (next.2.engine = state.engine ∨
        ∃ slot, next.2.engine =
          state.engine.withShared (state.engine.shared.setCurrentSlot slot)) := by
  cases phase with
  | received slot =>
      cases taken
      exact ⟨⟨rfl, rfl, rfl⟩, Or.inl rfl⟩
  | learned offset target =>
      simp only [advanceStep] at taken
      split at taken <;>
      · cases taken
        exact ⟨⟨rfl, rfl, rfl⟩, Or.inl rfl⟩
  | anchored offset target =>
      simp only [advanceStep] at taken
      split at taken
      · split at taken <;>
        · cases taken
          exact ⟨⟨rfl, rfl, rfl⟩, Or.inl rfl⟩
      · cases taken
        exact ⟨⟨rfl, rfl, rfl⟩, Or.inl rfl⟩
  | stepping offset target nextMs =>
      cases taken
      exact ⟨⟨rfl, rfl, rfl⟩, Or.inl rfl⟩
  | clocked offset target newSlot =>
      cases taken
      exact ⟨⟨rfl, rfl, rfl⟩, Or.inr ⟨newSlot, rfl⟩⟩
  | entered offset target =>
      cases taken
      exact ⟨⟨rfl, rfl, rfl⟩, Or.inl rfl⟩
  | slotRead offset target currSlot =>
      cases taken
      dsimp only [recordObserved]
      split <;> exact ⟨⟨rfl, rfl, rfl⟩, Or.inl rfl⟩
  | observed offset currSlot =>
      cases taken
      exact ⟨⟨rfl, rfl, rfl⟩, Or.inl rfl⟩
  | answered answer => cases taken

/-- What a step of a close-slot request does. -/
inductive CloseEffect (settings : ServiceSettings) (admissionHeld : Bool)
    (body : CloseSlotBody) (state : AppState σ) :
    ClosePhase → ClosePhase → AppState σ → Prop where
  | quiet {phase after : ClosePhase} (open_ : after.fencedSlot = none) :
      CloseEffect settings admissionHeld body state phase after state
  | fenced {engineSlot : ℤ} (free : admissionHeld = false)
      (ahead : state.closedThroughSlot ≤ engineSlot) :
      CloseEffect settings admissionHeld body state (.current engineSlot)
        (.fenced engineSlot) { state with closedThroughSlot := engineSlot }
  | flushed {engineSlot : ℤ} :
      CloseEffect settings admissionHeld body state (.fenced engineSlot)
        (.draining engineSlot) { state with flushRequestedSlot := engineSlot }
  | looked {engineSlot : ℤ} :
      CloseEffect settings admissionHeld body state (.draining engineSlot)
        (.observed engineSlot state.engine.shared.assignments) state
  | answered {engineSlot : ℤ} {seen : Dictionary ℕ Assignment}
      {timedOut : Bool} {answer : Except ApiError CloseSlotResponse}
      (drains : drainAnswer engineSlot seen state.tracked settings body
        timedOut = some answer) :
      CloseEffect settings admissionHeld body state
        (.observed engineSlot seen) (.answered engineSlot answer) state
  | again {engineSlot : ℤ} {seen : Dictionary ℕ Assignment} :
      CloseEffect settings admissionHeld body state
        (.observed engineSlot seen) (.draining engineSlot) state

theorem closeStep_effect
    {settings : ServiceSettings} {admissionHeld timedOut : Bool}
    {body : CloseSlotBody} {state : AppState σ} {phase : ClosePhase}
    {next : ClosePhase × AppState σ}
    (taken : state.closeStep settings admissionHeld timedOut body phase =
      some next) :
    CloseEffect settings admissionHeld body state phase next.1 next.2 := by
  cases phase with
  | translated engineSlot =>
      simp only [closeStep] at taken
      split at taken <;>
      · cases taken
        exact .quiet rfl
  | current engineSlot =>
      simp only [closeStep] at taken
      split at taken
      · cases taken
      · rename_i free
        split at taken
        · cases taken
          exact .quiet rfl
        · split at taken
          · cases taken
            exact .quiet rfl
          · rename_i behind
            cases taken
            exact .fenced (eq_false_of_ne_true free) (not_lt.mp behind)
  | fenced engineSlot =>
      cases taken
      exact .flushed
  | draining engineSlot =>
      cases taken
      exact .looked
  | observed engineSlot assignments =>
      simp only [closeStep] at taken
      split at taken
      · rename_i drains
        cases taken
        exact .answered drains
      · cases taken
        exact .again
  | answered engineSlot answer => cases taken
  | panicked => cases taken

/-- A close-slot request only moves the admission fence and the flush mark. -/
theorem CloseEffect.keeps
    {settings : ServiceSettings} {admissionHeld : Bool}
    {body : CloseSlotBody} {state next : AppState σ}
    {phase after : ClosePhase}
    (effect : CloseEffect settings admissionHeld body state phase after next) :
    next.engine = state.engine ∧ next.tracked = state.tracked ∧
      next.nextId = state.nextId := by
  cases effect <;> exact ⟨rfl, rfl, rfl⟩

end AppState

namespace Service

variable {σ : Type} {settings : ServiceSettings}
variable {numerics : NumericRuntime σ} {runtime : ServiceRuntime}
variable {service next : Service σ}

/-! ## Steps of the whole service -/

/-- How a background step changes the engine. -/
inductive EngineEffect (settings : ServiceSettings)
    (numerics : NumericRuntime σ) (engine : Engine σ) : Engine σ → Prop where
  | same : EngineEffect settings numerics engine engine
  | acted {action : Engine.Action} {after : Engine σ}
      (internal : action.isInternal = true)
      (taken : Engine.step settings.engine numerics engine action =
        some after) :
      EngineEffect settings numerics engine after

/-- A handler that has just arrived. -/
inductive Arrival (settings : ServiceSettings) (runtime : ServiceRuntime)
    (state : AppState σ) : Handler → AppState σ → Prop where
  | submit {profile : QosProfile} {body : SubmitRequestPayload} :
      Arrival settings runtime state
        (.submit
          { requestId := state.nextId
            profile := profile
            body := body
            currentSlot := state.currentSlot } .received)
        { state with nextId := state.nextId + 1 }
  | callback {requestId : ℕ} {body : ExecutorCallbackPayload}
      {tracked : TrackedRequest}
      (found : state.tracked.lookup requestId = some tracked)
      (first : tracked.executorCallbackReceived = false) :
      Arrival settings runtime state (.callback requestId body .claimed)
        (state.adjustTracked requestId TrackedRequest.claimCallback)
  | advance {body : AdvanceSlotBody} {slot : ℤ}
      (announced : announcedSlot settings runtime body = .ok slot) :
      Arrival settings runtime state (.advance body (.received slot)) state
  | close {body : CloseSlotBody} {engineSlot : ℤ}
      (closing : closingSlot settings runtime state.slotEpochOffset body =
        .ok engineSlot) :
      Arrival settings runtime state (.close body (.translated engineSlot))
        state

/-- Everything a step of the service can do. -/
inductive StepEffect (settings : ServiceSettings)
    (numerics : NumericRuntime σ) (runtime : ServiceRuntime)
    (service : Service σ) : Action → Service σ → Prop where
  | background {action : Action} {app : AppState σ} {loop : LoopPhase}
      (engine : EngineEffect settings numerics service.app.engine app.engine)
      (records : AppState.SameRecords service.app app) :
      StepEffect settings numerics runtime service action
        { service with app := app, loop := loop }
  | started {action : Action} {handler : Handler} {app : AppState σ}
      (arrival : Arrival settings runtime service.app handler app) :
      StepEffect settings numerics runtime service action
        (service.start handler app)
  | handled {handlerId : ℕ} {handler : Handler} {choice : HandlerChoice}
      {moved : Handler × AppState σ}
      (found : service.handlers.lookup handlerId = some handler)
      (taken : handlerStep settings runtime service choice handler =
        some moved) :
      StepEffect settings numerics runtime service
        (.handle handlerId choice)
        { service with
          app := moved.2
          handlers := service.handlers.insert handlerId moved.1 }
  | dispatched {choice : DispatcherChoice} :
      StepEffect settings numerics runtime service (.dispatch choice)
        { service with
          app :=
            (service.app.dispatcherStep settings runtime choice
              service.dispatcher).2.1
          dispatcher :=
            (service.app.dispatcherStep settings runtime choice
              service.dispatcher).1
          exchange :=
            service.exchange ++
              (service.app.dispatcherStep settings runtime choice
                service.dispatcher).2.2 }

variable {performed : Action}

private theorem engineStep_effect {action : Engine.Action}
    (internal : action.isInternal = true) {loop : LoopPhase}
    (taken : (engineStep settings numerics service action).map
      (fun stored => { stored with loop := loop }) = some next) :
    StepEffect settings numerics runtime service performed next := by
  obtain ⟨stored, acted, rfl⟩ := Option.map_eq_some_iff.mp taken
  obtain ⟨engine, moved, rfl⟩ := Option.map_eq_some_iff.mp acted
  exact .background (.acted internal moved) ⟨rfl, rfl, rfl⟩

/-- The main loop keeps its place. -/
private theorem withApp_effect {app : AppState σ}
    (engine : EngineEffect settings numerics service.app.engine app.engine)
    (records : AppState.SameRecords service.app app) :
    StepEffect settings numerics runtime service performed
      (service.withApp app) :=
  @StepEffect.background σ settings numerics runtime service performed app
    service.loop
    engine records

private theorem engineStep_effect_of_eq {action : Engine.Action}
    (internal : action.isInternal = true)
    (taken : engineStep settings numerics service action = some next) :
    StepEffect settings numerics runtime service performed next := by
  obtain ⟨engine, moved, rfl⟩ := Option.map_eq_some_iff.mp taken
  exact withApp_effect (.acted internal moved) ⟨rfl, rfl, rfl⟩

private theorem unchanged_effect :
    StepEffect settings numerics runtime service performed service :=
  withApp_effect .same (.refl service.app)

private theorem loopStep_effect {move : LoopMove}
    (taken : loopStep settings numerics service move = some next) :
    StepEffect settings numerics runtime service performed next := by
  cases move with
  | readClock passedMs =>
      simp only [loopStep] at taken
      split at taken
      · cases taken
        exact .background .same ⟨rfl, rfl, rfl⟩
      · cases taken
  | storeSlot =>
      simp only [loopStep] at taken
      split at taken
      · exact engineStep_effect rfl taken
      · cases taken
  | readForecast =>
      simp only [loopStep] at taken
      split at taken
      · cases taken
        exact .background .same (.refl service.app)
      · cases taken
  | selectProfile flush =>
      simp only [loopStep] at taken
      split at taken
      · exact engineStep_effect_of_eq rfl taken
      · cases taken
  | finish =>
      simp only [loopStep] at taken
      split at taken
      · cases taken
        exact .background .same (.refl service.app)
      · cases taken

/-- Inversion of the step function. -/
theorem step_effect {action : Action}
    (taken : step settings numerics runtime service action = some next) :
    StepEffect settings numerics runtime service action next := by
  cases action with
  | registerProfile profile =>
      simp only [step] at taken
      split at taken
      · cases taken
        exact unchanged_effect
      · cases taken
        exact withApp_effect .same ⟨rfl, rfl, rfl⟩
  | replaceCapacityTiers tiers =>
      simp only [step] at taken
      split at taken
      · cases taken
        exact unchanged_effect
      · exact engineStep_effect_of_eq rfl taken
  | submit body =>
      simp only [step, AppState.receiveSubmission] at taken
      cases validated : validateSubmission settings runtime
          service.app.qosProfiles body with
      | error error =>
          rw [validated] at taken
          cases taken
          exact unchanged_effect
      | ok profile =>
          rw [validated] at taken
          cases taken
          exact .started .submit
  | callback requestId body =>
      simp only [step, AppState.claimCallback] at taken
      cases found : service.app.tracked.lookup requestId with
      | none =>
          rw [found] at taken
          cases taken
          exact unchanged_effect
      | some tracked =>
          rw [found] at taken
          dsimp only at taken
          by_cases received : tracked.executorCallbackReceived = true
          · rw [if_pos received] at taken
            cases taken
            exact unchanged_effect
          · rw [if_neg received] at taken
            cases taken
            exact .started (.callback found (by simpa using received))
  | advanceSlot body =>
      simp only [step] at taken
      split at taken
      · cases taken
        exact unchanged_effect
      · rename_i announced
        cases taken
        exact .started (.advance announced)
  | closeSlot body =>
      simp only [step] at taken
      split at taken
      · cases taken
        exact unchanged_effect
      · rename_i closing
        cases taken
        exact .started (.close closing)
  | handle handlerId choice =>
      simp only [step] at taken
      obtain ⟨handler, found, moved⟩ := Option.bind_eq_some_iff.mp taken
      obtain ⟨after, performed, rfl⟩ := Option.map_eq_some_iff.mp moved
      exact .handled found performed
  | loop move => exact loopStep_effect taken
  | claimBatch => exact engineStep_effect_of_eq rfl taken
  | work workerId move => exact engineStep_effect_of_eq rfl taken
  | release workerId => exact engineStep_effect_of_eq rfl taken
  | dispatch choice =>
      cases taken
      exact .dispatched

/-! ## Where a handler comes from -/

/-- What a handler of the next state did in the step: it arrived, it waited,
or it moved. -/
inductive HandlerHistory (settings : ServiceSettings)
    (runtime : ServiceRuntime) (service next : Service σ) (handlerId : ℕ) :
    Handler → Prop where
  | arrived {handler : Handler}
      (fresh : handlerId = service.started)
      (arrival : Arrival settings runtime service.app handler next.app) :
      HandlerHistory settings runtime service next handlerId handler
  | waited {handler : Handler}
      (found : service.handlers.lookup handlerId = some handler) :
      HandlerHistory settings runtime service next handlerId handler
  | moved {before handler : Handler} {choice : HandlerChoice}
      (found : service.handlers.lookup handlerId = some before)
      (taken : handlerStep settings runtime service choice before =
        some (handler, next.app)) :
      HandlerHistory settings runtime service next handlerId handler

/-- A submission was a submission before. -/
theorem handlerStep_submit_inv {choice : HandlerChoice} {before : Handler}
    {submission : Submission} {phase : SubmitPhase} {app : AppState σ}
    (taken : handlerStep settings runtime service choice before =
      some (.submit submission phase, app)) :
    ∃ earlier,
      service.app.submitStep settings service.admissionHeld choice submission
          earlier = some (phase, app) ∧
        before = .submit submission earlier := by
  cases before with
  | submit submitted earlier =>
      obtain ⟨after, stepped, same⟩ := Option.map_eq_some_iff.mp taken
      cases same
      exact ⟨earlier, stepped, rfl⟩
  | callback requestId body earlier =>
      obtain ⟨after, _, same⟩ := Option.map_eq_some_iff.mp taken
      cases same
  | advance body earlier =>
      obtain ⟨after, _, same⟩ := Option.map_eq_some_iff.mp taken
      cases same
  | close body earlier =>
      obtain ⟨after, _, same⟩ := Option.map_eq_some_iff.mp taken
      cases same

/-- A callback was a callback of the same request before. -/
theorem handlerStep_callback_inv {choice : HandlerChoice} {before : Handler}
    {requestId : ℕ} {body : ExecutorCallbackPayload} {phase : CallbackPhase}
    {app : AppState σ}
    (taken : handlerStep settings runtime service choice before =
      some (.callback requestId body phase, app)) :
    ∃ earlier,
      service.app.callbackStep requestId body earlier = some (phase, app) ∧
        before = .callback requestId body earlier := by
  cases before with
  | submit submission earlier =>
      obtain ⟨after, _, same⟩ := Option.map_eq_some_iff.mp taken
      cases same
  | callback calledId called earlier =>
      obtain ⟨after, stepped, same⟩ := Option.map_eq_some_iff.mp taken
      cases same
      exact ⟨earlier, stepped, rfl⟩
  | advance body earlier =>
      obtain ⟨after, _, same⟩ := Option.map_eq_some_iff.mp taken
      cases same
  | close body earlier =>
      obtain ⟨after, _, same⟩ := Option.map_eq_some_iff.mp taken
      cases same

/-- A close-slot request was one before. -/
theorem handlerStep_close_inv {choice : HandlerChoice} {before : Handler}
    {body : CloseSlotBody} {phase : ClosePhase} {app : AppState σ}
    (taken : handlerStep settings runtime service choice before =
      some (.close body phase, app)) :
    ∃ earlier,
      service.app.closeStep settings service.admissionHeld choice.timedOut
          body earlier = some (phase, app) ∧
        before = .close body earlier := by
  cases before with
  | submit submission earlier =>
      obtain ⟨after, _, same⟩ := Option.map_eq_some_iff.mp taken
      cases same
  | callback requestId called earlier =>
      obtain ⟨after, _, same⟩ := Option.map_eq_some_iff.mp taken
      cases same
  | advance advanced earlier =>
      obtain ⟨after, _, same⟩ := Option.map_eq_some_iff.mp taken
      cases same
  | close closing earlier =>
      obtain ⟨after, stepped, same⟩ := Option.map_eq_some_iff.mp taken
      cases same
      exact ⟨earlier, stepped, rfl⟩

theorem StepEffect.handlerHistory {action : Action}
    (effect : StepEffect settings numerics runtime service action next)
    {handlerId : ℕ} {handler : Handler}
    (found : next.handlers.lookup handlerId = some handler) :
    HandlerHistory settings runtime service next handlerId handler := by
  cases effect with
  | background _ _ => exact .waited found
  | started arrival =>
      by_cases fresh : handlerId = service.started
      · rw [fresh, start, AList.lookup_insert] at found
        cases found
        exact .arrived fresh arrival
      · rw [start, AList.lookup_insert_ne fresh] at found
        exact .waited found
  | @handled moving _ _ _ before taken =>
      by_cases own : handlerId = moving
      · rw [own, AList.lookup_insert] at found
        cases found
        rw [own]
        exact .moved before taken
      · rw [AList.lookup_insert_ne own] at found
        exact .waited found
  | dispatched => exact .waited found

end Service

end Carbonshift
