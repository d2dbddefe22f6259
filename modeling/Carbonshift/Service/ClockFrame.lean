import Carbonshift.Engine.CurrentSlot
import Carbonshift.Service.Steps

/-!
# Who moves the clock of the service

The advance-slot requests and the main loop alone touch the slot offset, the
forecast, the virtual clock and the engine's slot.
-/

namespace Carbonshift

namespace AppState

variable {σ : Type}

/-- Offset, forecast, virtual clock and current slot agree. -/
structure SameClockwork (before after : AppState σ) : Prop where
  slotEpochOffset_eq : after.slotEpochOffset = before.slotEpochOffset
  carbonForecast_eq : after.carbonForecast = before.carbonForecast
  virtualElapsedMs_eq : after.virtualElapsedMs = before.virtualElapsedMs
  currentSlot_eq : after.currentSlot = before.currentSlot

theorem SameClockwork.refl (state : AppState σ) : SameClockwork state state :=
  ⟨rfl, rfl, rfl, rfl⟩

variable {settings : ServiceSettings} {runtime : ServiceRuntime}
variable {state : AppState σ}

theorem submitStep_sameClockwork
    {admissionHeld : Bool} {choice : HandlerChoice} {submission : Submission}
    {phase : SubmitPhase} {next : SubmitPhase × AppState σ}
    (taken : state.submitStep settings admissionHeld choice submission phase =
      some next) : SameClockwork state next.2 := by
  cases phase with
  | received =>
      simp only [submitStep] at taken
      split at taken <;>
      · cases taken
        exact .refl state
  | timed timing =>
      simp only [submitStep] at taken
      split at taken
      · cases taken
      · split at taken
        · cases taken
          exact .refl state
        · split at taken <;>
          · cases taken
            exact ⟨rfl, rfl, rfl, rfl⟩
  | baselined timing position carbon =>
      simp only [submitStep] at taken
      split at taken <;>
      · cases taken
        exact ⟨rfl, rfl, rfl, rfl⟩
  | costed timing accurate baselineCarbonCost =>
      simp only [submitStep] at taken
      split at taken <;>
      · cases taken
        exact ⟨rfl, rfl, rfl, rfl⟩
  | tracked timing baselineCarbonCost =>
      cases taken
      exact ⟨rfl, rfl, rfl, rfl⟩
  | polling baselineCarbonCost =>
      simp only [submitStep] at taken
      split at taken
      · cases taken
        exact .refl state
      · split at taken <;>
        · cases taken
          exact .refl state
  | assigned baselineCarbonCost assignment =>
      cases taken
      exact ⟨rfl, rfl, rfl, rfl⟩
  | answered answer => cases taken
  | panicked => cases taken

theorem callbackStep_sameClockwork
    {requestId : ℕ} {body : ExecutorCallbackPayload} {phase : CallbackPhase}
    {next : CallbackPhase × AppState σ}
    (taken : state.callbackStep requestId body phase = some next) :
    SameClockwork state next.2 := by
  rcases next with ⟨after, app⟩
  have effect := callbackStep_effect taken
  dsimp only at effect ⊢
  cases effect with
  | quiet => exact .refl state
  | errorCorrected =>
      exact ⟨rfl, rfl, rfl,
        SharedState.correctAssignmentError_currentSlot _ _⟩
  | costCorrected =>
      exact ⟨rfl, rfl, rfl,
        SharedState.correctAssignmentCarbonCost_currentSlot _ _⟩
  | finished => exact ⟨rfl, rfl, rfl, rfl⟩

theorem closeStep_sameClockwork
    {admissionHeld timedOut : Bool} {body : CloseSlotBody}
    {phase : ClosePhase} {next : ClosePhase × AppState σ}
    (taken : state.closeStep settings admissionHeld timedOut body phase =
      some next) : SameClockwork state next.2 := by
  rcases next with ⟨after, app⟩
  have effect := closeStep_effect taken
  dsimp only at effect ⊢
  cases effect <;> exact ⟨rfl, rfl, rfl, rfl⟩

theorem dispatcherStep_sameClockwork
    (settings : ServiceSettings) (runtime : ServiceRuntime)
    (choice : DispatcherChoice) (state : AppState σ)
    (phase : DispatcherPhase) :
    SameClockwork state
      (state.dispatcherStep settings runtime choice phase).2.1 := by
  cases phase with
  | idle => exact .refl state
  | ticked currentSlot => exact .refl state
  | observed currentSlot now assignments => exact .refl state
  | sending due =>
      cases due with
      | nil => exact .refl state
      | cons entry rest => exact .refl state
  | loaded requestId assignment payload rest =>
      simp only [dispatcherStep]
      split <;> exact .refl state
  | refused requestId error rest => exact ⟨rfl, rfl, rfl, rfl⟩
  | addressed message rest =>
      simp only [dispatcherStep]
      split <;> exact ⟨rfl, rfl, rfl, rfl⟩
  | awaiting message rest =>
      simp only [dispatcherStep]
      split <;> exact ⟨rfl, rfl, rfl, rfl⟩

end AppState

def Handler.isAdvance : Handler → Bool
  | .advance _ _ => true
  | _ => false

namespace Service

open AppState (SameClockwork)

variable {σ : Type} {settings : ServiceSettings}
variable {numerics : NumericRuntime σ} {runtime : ServiceRuntime}
variable {service next : Service σ}

/-- Handlers are numbered in the order in which they start. -/
def Numbered (service : Service σ) : Prop :=
  ∀ handlerId handler,
    service.handlers.lookup handlerId = some handler →
      handlerId < service.started

/-- The advance-slot requests stay as they are. -/
structure KeepsAdvances (service next : Service σ) : Prop where
  before : ∀ handlerId body phase,
    next.handlers.lookup handlerId = some (.advance body phase) →
      service.handlers.lookup handlerId = some (.advance body phase)
  after : service.Numbered → ∀ handlerId body phase,
    service.handlers.lookup handlerId = some (.advance body phase) →
      next.handlers.lookup handlerId = some (.advance body phase)

theorem keepsAdvances_of_eq (same : next.handlers = service.handlers) :
    KeepsAdvances service next where
  before handlerId body phase found := by rwa [same] at found
  after _ handlerId body phase found := by rwa [same]

theorem keepsAdvances_insert {key : ℕ} {handler : Handler}
    (other : handler.isAdvance = false)
    (vacant : service.Numbered → ∀ body phase,
      service.handlers.lookup key ≠ some (.advance body phase))
    (same : next.handlers = service.handlers.insert key handler) :
    KeepsAdvances service next where
  before handlerId body phase found := by
    rw [same] at found
    by_cases here : handlerId = key
    · rw [here, AList.lookup_insert] at found
      rw [Option.some.inj found] at other
      cases other
    · rwa [AList.lookup_insert_ne here] at found
  after numbered handlerId body phase found := by
    have elsewhere : handlerId ≠ key := by
      rintro rfl
      exact vacant numbered body phase found
    rwa [same, AList.lookup_insert_ne elsewhere]

theorem keepsAdvances_start {handler : Handler} {app : AppState σ}
    (other : handler.isAdvance = false) :
    KeepsAdvances service (service.start handler app) :=
  keepsAdvances_insert other
    (fun numbered _ _ found => lt_irrefl _ (numbered _ _ found)) rfl

/-- The advance-slot request that an action continues. -/
def advancing (service : Service σ) :
    Action → Option (AdvanceSlotBody × AdvancePhase)
  | .handle handlerId _ =>
      match service.handlers.lookup handlerId with
      | some (.advance body phase) => some (body, phase)
      | _ => none
  | _ => none

/-- Everything a step can do to the clock. -/
inductive ClockEffect (settings : ServiceSettings) (runtime : ServiceRuntime)
    (service : Service σ) : Action → Service σ → Prop where
  | aside {action : Action} {next : Service σ}
      (app : SameClockwork service.app next.app)
      (loop : next.loop = service.loop ∨ ∀ ms, next.loop ≠ .clockRead ms)
      (advances : KeepsAdvances service next)
      (quiet : service.advancing action = none) :
      ClockEffect settings runtime service action next
  | arrived {body : AdvanceSlotBody} {slot : ℤ}
      (announced : announcedSlot settings runtime body = .ok slot) :
      ClockEffect settings runtime service (.advanceSlot body)
        (service.start (.advance body (.received slot)) service.app)
  | advanced {handlerId : ℕ} {choice : HandlerChoice}
      {body : AdvanceSlotBody} {phase : AdvancePhase}
      {moved : AdvancePhase × AppState σ}
      (found : service.handlers.lookup handlerId =
        some (.advance body phase))
      (taken : service.app.advanceStep settings runtime body phase =
        some moved) :
      ClockEffect settings runtime service (.handle handlerId choice)
        { service with
          app := moved.2
          handlers :=
            service.handlers.insert handlerId (.advance body moved.1) }
  | clockRead {passedMs : ℕ} (idle : service.loop = .idle)
      {elapsedMs : ℕ}
      (elapsed : elapsedMs =
        if settings.manualClock then
          service.app.virtualElapsedMs
        else
          service.app.virtualElapsedMs + passedMs) :
      ClockEffect settings runtime service (.loop (.readClock passedMs))
        { service with
          app := { service.app with virtualElapsedMs := elapsedMs }
          loop := .clockRead elapsedMs }
  | slotStored {elapsedMs : ℕ} (read : service.loop = .clockRead elapsedMs) :
      ClockEffect settings runtime service (.loop .storeSlot)
        { service with
          app :=
            service.app.withShared
              (service.app.engine.shared.setCurrentSlot
                (slotOfClock settings elapsedMs))
          loop := .slotStored elapsedMs }

variable {performed : Action}

private theorem unchanged_clock
    (quiet : service.advancing performed = none) :
    ClockEffect settings runtime service performed service :=
  .aside (.refl service.app) (Or.inl rfl) (keepsAdvances_of_eq rfl) quiet

/-- Every other action of the engine leaves the slot where it is. -/
private theorem engineStep_clock {action : Engine.Action}
    (stores : action.storesSlot = false)
    (quiet : service.advancing performed = none)
    (taken : engineStep settings numerics service action = some next) :
    ClockEffect settings runtime service performed next := by
  obtain ⟨engine, moved, rfl⟩ := Option.map_eq_some_iff.mp taken
  exact .aside ⟨rfl, rfl, rfl, Engine.currentSlot_of_step moved stores⟩
    (Or.inl rfl) (keepsAdvances_of_eq rfl) quiet

private theorem loopStep_clock {move : LoopMove}
    (taken : loopStep settings numerics service move = some next) :
    ClockEffect settings runtime service (.loop move) next := by
  cases move with
  | readClock passedMs =>
      simp only [loopStep] at taken
      split at taken
      · rename_i idle
        cases taken
        exact .clockRead idle rfl
      · cases taken
  | storeSlot =>
      simp only [loopStep] at taken
      split at taken
      · rename_i elapsedMs read
        obtain ⟨stored, acted, rfl⟩ := Option.map_eq_some_iff.mp taken
        obtain ⟨engine, moved, rfl⟩ := Option.map_eq_some_iff.mp acted
        cases moved
        exact .slotStored read
      · cases taken
  | readForecast =>
      simp only [loopStep] at taken
      split at taken
      · cases taken
        exact .aside (.refl service.app) (Or.inr (by simp))
          (keepsAdvances_of_eq rfl) rfl
      · cases taken
  | selectProfile flush =>
      simp only [loopStep] at taken
      split at taken
      · exact engineStep_clock rfl rfl taken
      · cases taken
  | finish =>
      simp only [loopStep] at taken
      split at taken
      · cases taken
        exact .aside (.refl service.app) (Or.inr (by simp))
          (keepsAdvances_of_eq rfl) rfl
      · cases taken

private theorem handled_clock {handlerId : ℕ} {choice : HandlerChoice}
    {handler : Handler} {moved : Handler × AppState σ}
    (found : service.handlers.lookup handlerId = some handler)
    (taken : handlerStep settings runtime service choice handler =
      some moved) :
    ClockEffect settings runtime service (.handle handlerId choice)
      { service with
        app := moved.2
        handlers := service.handlers.insert handlerId moved.1 } := by
  cases handler with
  | submit submission phase =>
      obtain ⟨after, stepped, rfl⟩ := Option.map_eq_some_iff.mp taken
      exact .aside (AppState.submitStep_sameClockwork stepped) (Or.inl rfl)
        (keepsAdvances_insert rfl (by simp [found]) rfl)
        (by rw [advancing, found])
  | callback requestId body phase =>
      obtain ⟨after, stepped, rfl⟩ := Option.map_eq_some_iff.mp taken
      exact .aside (AppState.callbackStep_sameClockwork stepped) (Or.inl rfl)
        (keepsAdvances_insert rfl (by simp [found]) rfl)
        (by rw [advancing, found])
  | advance body phase =>
      obtain ⟨after, stepped, rfl⟩ := Option.map_eq_some_iff.mp taken
      exact .advanced found stepped
  | close body phase =>
      obtain ⟨after, stepped, rfl⟩ := Option.map_eq_some_iff.mp taken
      exact .aside (AppState.closeStep_sameClockwork stepped) (Or.inl rfl)
        (keepsAdvances_insert rfl (by simp [found]) rfl)
        (by rw [advancing, found])

/-- Inversion of the step function, for the clock. -/
theorem step_clock {action : Action}
    (taken : step settings numerics runtime service action = some next) :
    ClockEffect settings runtime service action next := by
  cases action with
  | registerProfile profile =>
      simp only [step] at taken
      split at taken
      · cases taken
        exact unchanged_clock rfl
      · cases taken
        exact .aside ⟨rfl, rfl, rfl, rfl⟩ (Or.inl rfl)
          (keepsAdvances_of_eq rfl) rfl
  | replaceCapacityTiers tiers =>
      simp only [step] at taken
      split at taken
      · cases taken
        exact unchanged_clock rfl
      · exact engineStep_clock rfl rfl taken
  | submit body =>
      simp only [step, AppState.receiveSubmission] at taken
      cases validated : validateSubmission settings runtime
          service.app.qosProfiles body with
      | error error =>
          rw [validated] at taken
          cases taken
          exact unchanged_clock rfl
      | ok profile =>
          rw [validated] at taken
          cases taken
          exact .aside ⟨rfl, rfl, rfl, rfl⟩ (Or.inl rfl)
            (keepsAdvances_start rfl) rfl
  | callback requestId body =>
      simp only [step] at taken
      cases claimed : service.app.claimCallback requestId with
      | error error =>
          rw [claimed] at taken
          cases taken
          exact unchanged_clock rfl
      | ok claim =>
          rw [claimed] at taken
          cases claim with
          | none =>
              cases taken
              exact unchanged_clock rfl
          | some app =>
              cases taken
              have kept : SameClockwork service.app app := by
                unfold AppState.claimCallback at claimed
                split at claimed
                · cases claimed
                · split at claimed
                  · cases claimed
                  · cases claimed
                    exact ⟨rfl, rfl, rfl, rfl⟩
              exact .aside kept (Or.inl rfl) (keepsAdvances_start rfl) rfl
  | advanceSlot body =>
      simp only [step] at taken
      split at taken
      · cases taken
        exact unchanged_clock rfl
      · rename_i announced
        cases taken
        exact .arrived announced
  | closeSlot body =>
      simp only [step] at taken
      split at taken
      · cases taken
        exact unchanged_clock rfl
      · cases taken
        exact .aside (.refl service.app) (Or.inl rfl)
          (keepsAdvances_start rfl) rfl
  | handle handlerId choice =>
      simp only [step] at taken
      obtain ⟨handler, found, moved⟩ := Option.bind_eq_some_iff.mp taken
      obtain ⟨after, performed, rfl⟩ := Option.map_eq_some_iff.mp moved
      exact handled_clock found performed
  | loop move => exact loopStep_clock taken
  | claimBatch => exact engineStep_clock rfl rfl taken
  | work workerId move => exact engineStep_clock rfl rfl taken
  | release workerId => exact engineStep_clock rfl rfl taken
  | dispatch choice =>
      cases taken
      exact .aside (AppState.dispatcherStep_sameClockwork _ _ _ _ _)
        (Or.inl rfl) (keepsAdvances_of_eq rfl) rfl

/-- A new handler gets a new number. -/
theorem Numbered.of_step {action : Action} (numbered : service.Numbered)
    (taken : step settings numerics runtime service action = some next) :
    next.Numbered := by
  have inserted : ∀ key handler, key < service.started →
      ∀ handlerId other,
        (service.handlers.insert key handler).lookup handlerId = some other →
          handlerId < service.started := by
    intro key handler low handlerId other found
    by_cases here : handlerId = key
    · exact here ▸ low
    · rw [AList.lookup_insert_ne here] at found
      exact numbered handlerId other found
  cases step_effect taken with
  | background engine records => exact numbered
  | started arrival =>
      intro handlerId other found
      dsimp only [start] at found ⊢
      by_cases here : handlerId = service.started
      · omega
      · rw [AList.lookup_insert_ne here] at found
        exact Nat.lt_succ_of_lt (numbered handlerId other found)
  | handled found taken => exact inserted _ _ (numbered _ _ found)
  | dispatched => exact numbered

end Service

end Carbonshift
