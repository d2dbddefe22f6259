import Carbonshift.Service.Registration

/-!
# Claimed callbacks

A callback claims the record of its request before anything else, and a
claimed record takes no second one.  So a request is called back once, and all
that measures it comes from one handler.
-/

namespace Carbonshift

namespace Service

variable {σ : Type} {settings : ServiceSettings}
variable {numerics : NumericRuntime σ} {runtime : ServiceRuntime}
variable {service next : Service σ} {action : Action}
variable {known : List Request}

/-- A step of the callback of the request. -/
def CallsBack (service : Service σ) (action : Action) (requestId : ℕ) : Prop :=
  ∃ handlerId choice body phase,
    action = .handle handlerId choice ∧
      service.handlers.lookup handlerId =
        some (.callback requestId body phase)

/-- The request of a callback in progress has been claimed. -/
def CallbacksClaimed (service : Service σ) : Prop :=
  ∀ handlerId requestId body phase,
    service.handlers.lookup handlerId =
        some (.callback requestId body phase) →
      ∃ tracked, service.app.tracked.lookup requestId = some tracked ∧
        tracked.executorCallbackReceived = true

/-- Two callbacks of one request are one handler. -/
def CalledBackOnce (service : Service σ) : Prop :=
  ∀ left right requestId body other phase otherPhase,
    service.handlers.lookup left = some (.callback requestId body phase) →
      service.handlers.lookup right =
          some (.callback requestId other otherPhase) →
        left = right

/-- Where a callback of the next state comes from. -/
inductive CallbackHistory (service next : Service σ) (handlerId requestId : ℕ)
    (body : ExecutorCallbackPayload) : CallbackPhase → Prop where
  | arrived {tracked : TrackedRequest}
      (fresh : handlerId = service.started)
      (recorded : service.app.tracked.lookup requestId = some tracked)
      (first : tracked.executorCallbackReceived = false)
      (app_eq : next.app =
        service.app.adjustTracked requestId TrackedRequest.claimCallback) :
      CallbackHistory service next handlerId requestId body .claimed
  | waited {phase : CallbackPhase}
      (found : service.handlers.lookup handlerId =
        some (.callback requestId body phase)) :
      CallbackHistory service next handlerId requestId body phase
  | moved {before phase : CallbackPhase}
      (found : service.handlers.lookup handlerId =
        some (.callback requestId body before))
      (taken : service.app.callbackStep requestId body before =
        some (phase, next.app)) :
      CallbackHistory service next handlerId requestId body phase

theorem StepEffect.callbackHistory
    (effect : StepEffect settings numerics runtime service action next)
    {handlerId requestId : ℕ} {body : ExecutorCallbackPayload}
    {phase : CallbackPhase}
    (found : next.handlers.lookup handlerId =
      some (.callback requestId body phase)) :
    CallbackHistory service next handlerId requestId body phase := by
  cases effect.handlerHistory found with
  | arrived fresh arrival =>
      generalize reached : next.app = app at arrival
      cases arrival with
      | callback recorded first => exact .arrived fresh recorded first reached
  | waited before => exact .waited before
  | moved before taken =>
      obtain ⟨earlier, stepped, was⟩ := handlerStep_callback_inv taken
      rw [was] at before
      exact .moved before stepped

namespace CallbacksClaimed

theorem new (settings : ServiceSettings) (carbonForecast : List ℚ)
    (startedAt : ℤ) :
    CallbacksClaimed (Service.new settings carbonForecast startedAt :
      Service σ) := by
  intro _ _ _ _ found
  exact absurd (found.symm.trans (AList.lookup_empty _))
    (Option.some_ne_none _)

/-- A claim is never taken back. -/
theorem received_of_records
    (claimed : CallbacksClaimed service) (registered : Registered known service)
    (records : RecordsMove service next)
    {handlerId requestId : ℕ} {body : ExecutorCallbackPayload}
    {phase : CallbackPhase}
    (found : service.handlers.lookup handlerId =
      some (.callback requestId body phase)) :
    ∃ tracked, next.app.tracked.lookup requestId = some tracked ∧
      tracked.executorCallbackReceived = true := by
  obtain ⟨tracked, recorded, received⟩ := claimed _ _ _ _ found
  obtain ⟨after, followed, follows⟩ := registered.lookup records recorded
  exact ⟨after, followed, follows.received received⟩

theorem step
    (claimed : CallbacksClaimed service) (registered : Registered known service)
    (effect : StepEffect settings numerics runtime service action next) :
    CallbacksClaimed next := by
  intro handlerId requestId body phase found
  have records := effect.recordsMove
  cases effect.callbackHistory found with
  | @arrived tracked _ recorded _ app_eq =>
      refine ⟨tracked.claimCallback, ?_, rfl⟩
      rw [app_eq, AppState.adjustTracked, Dictionary.lookup_adjust_self,
        recorded]
      rfl
  | waited before =>
      exact claimed.received_of_records registered records before
  | moved before _ =>
      exact claimed.received_of_records registered records before

/-- No callback of a request that has not been claimed. -/
theorem not_callback
    (claimed : CallbacksClaimed service) {requestId : ℕ}
    {tracked : TrackedRequest}
    (recorded : service.app.tracked.lookup requestId = some tracked)
    (first : tracked.executorCallbackReceived = false)
    {handlerId : ℕ} {body : ExecutorCallbackPayload} {phase : CallbackPhase} :
    service.handlers.lookup handlerId ≠
      some (.callback requestId body phase) := by
  intro found
  obtain ⟨claimant, there, received⟩ := claimed _ _ _ _ found
  rw [recorded, Option.some.injEq] at there
  rw [← there, first] at received
  cases received

end CallbacksClaimed

namespace CalledBackOnce

theorem new (settings : ServiceSettings) (carbonForecast : List ℚ)
    (startedAt : ℤ) :
    CalledBackOnce (Service.new settings carbonForecast startedAt :
      Service σ) := by
  intro _ _ _ _ _ _ _ found
  exact absurd (found.symm.trans (AList.lookup_empty _))
    (Option.some_ne_none _)

/-- A callback of the next state is in progress already, or it has just
claimed its request. -/
private theorem callback_of_next
    (effect : StepEffect settings numerics runtime service action next)
    {handlerId requestId : ℕ} {body : ExecutorCallbackPayload}
    {phase : CallbackPhase}
    (found : next.handlers.lookup handlerId =
      some (.callback requestId body phase)) :
    (∃ before, service.handlers.lookup handlerId =
        some (.callback requestId body before)) ∨
      (handlerId = service.started ∧
        ∃ tracked, service.app.tracked.lookup requestId = some tracked ∧
          tracked.executorCallbackReceived = false) := by
  cases effect.callbackHistory found with
  | arrived fresh recorded first _ =>
      exact Or.inr ⟨fresh, _, recorded, first⟩
  | waited before => exact Or.inl ⟨_, before⟩
  | moved before _ => exact Or.inl ⟨_, before⟩

theorem step
    (once : CalledBackOnce service) (claimed : CallbacksClaimed service)
    (effect : StepEffect settings numerics runtime service action next) :
    CalledBackOnce next := by
  intro left right requestId body other phase otherPhase first second
  rcases callback_of_next effect first with
      ⟨before, found⟩ | ⟨fresh, tracked, recorded, unclaimed⟩ <;>
    rcases callback_of_next effect second with
      ⟨otherBefore, otherFound⟩ |
        ⟨otherFresh, claimant, otherRecorded, otherUnclaimed⟩
  · exact once _ _ _ _ _ _ _ found otherFound
  · exact absurd found (claimed.not_callback otherRecorded otherUnclaimed)
  · exact absurd otherFound (claimed.not_callback recorded unclaimed)
  · rw [fresh, otherFresh]

end CalledBackOnce

/-- In every run, a request is called back at most once. -/
theorem calledBackOnce_of_run
    {carbonForecast : List ℚ} {startedAt : ℤ} {actions : List Action}
    (reached : Transition.run (Service.step settings numerics runtime)
      (Service.new settings carbonForecast startedAt) actions =
        some service) :
    CallbacksClaimed service ∧ CalledBackOnce service := by
  have kept := Transition.run_induction
    (fun _ state => (∃ known, Consistent settings numerics known state) ∧
      CallbacksClaimed state ∧ CalledBackOnce state)
    ⟨⟨[], .new settings numerics carbonForecast startedAt⟩,
      .new settings carbonForecast startedAt,
      .new settings carbonForecast startedAt⟩ ?_ reached
  · exact kept.2
  · rintro _ state action next ⟨⟨known, consistent⟩, claimed, once⟩ taken
    obtain ⟨_, _, follows⟩ := consistent.step taken
    have effect := step_effect taken
    exact ⟨⟨_, follows⟩, claimed.step consistent.registered effect,
      once.step claimed effect⟩

end Service

end Carbonshift
