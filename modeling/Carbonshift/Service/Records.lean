import Carbonshift.Service.Steps

/-!
# How records and engine change

A step changes the records of the requests and the engine in few ways: it
updates one record along its lifecycle, adds the record of an admitted
request, or lets the engine act.
-/

namespace Carbonshift

/-! ## The lifecycle of a record -/

namespace TrackedRequest

/-- What every update of a record keeps. -/
structure Follows (before after : TrackedRequest) : Prop where
  arrivalSlot_eq : after.arrivalSlot = before.arrivalSlot
  baselineDuration_eq : after.baselineDuration = before.baselineDuration
  received : before.executorCallbackReceived = true →
    after.executorCallbackReceived = true
  calledBack : before.isCalledBack = true → after.isCalledBack = true

variable {tracked : TrackedRequest}

theorem isCalledBack_iff :
    tracked.isCalledBack = true ↔
      tracked.executorCallbackReceived = true ∧
        tracked.status.isTerminal = true := by
  rw [isCalledBack, Bool.and_eq_true]

theorem follows_markScheduled (tracked : TrackedRequest) :
    Follows tracked tracked.markScheduled := by
  unfold markScheduled
  by_cases received : tracked.executorCallbackReceived = true
  · rw [if_pos received]
    exact ⟨rfl, rfl, id, id⟩
  · rw [if_neg received]
    refine ⟨rfl, rfl, id, fun calledBack => ?_⟩
    exact absurd (isCalledBack_iff.mp calledBack).1 received

theorem follows_claimCallback (tracked : TrackedRequest) :
    Follows tracked tracked.claimCallback := by
  refine ⟨rfl, rfl, fun _ => rfl, fun calledBack => ?_⟩
  exact isCalledBack_iff.mpr ⟨rfl, (isCalledBack_iff.mp calledBack).2⟩

theorem follows_finishCallback (tracked : TrackedRequest)
    (body : ExecutorCallbackPayload)
    (actualCarbonCost actualBaseline : Option ℚ) :
    Follows tracked
      (tracked.finishCallback body actualCarbonCost actualBaseline) := by
  refine ⟨rfl, rfl, id, fun calledBack => ?_⟩
  refine isCalledBack_iff.mpr ⟨(isCalledBack_iff.mp calledBack).1, ?_⟩
  rw [finishCallback]
  cases body.success <;> rfl

theorem follows_setStatus (tracked : TrackedRequest) (status : RequestStatus)
    (error : Option String) :
    Follows tracked (tracked.setStatus status error) := by
  unfold setStatus
  by_cases received : tracked.executorCallbackReceived = true
  · rw [if_pos received]
    exact ⟨rfl, rfl, id, id⟩
  · rw [if_neg received]
    refine ⟨rfl, rfl, id, fun calledBack => ?_⟩
    exact absurd (isCalledBack_iff.mp calledBack).1 received

theorem follows_recordFailure (tracked : TrackedRequest) (cfg : ServiceConfig)
    (now : ℕ) (error : String) :
    Follows tracked (tracked.recordFailure cfg now error) := by
  unfold recordFailure
  dsimp only
  by_cases received : tracked.executorCallbackReceived = true
  · rw [if_pos received]
    exact ⟨rfl, rfl, id, id⟩
  · rw [if_neg received]
    split
    · refine ⟨rfl, rfl, id, fun calledBack => ?_⟩
      exact absurd (isCalledBack_iff.mp calledBack).1 received
    · exact ⟨rfl, rfl, id, id⟩

end TrackedRequest

namespace Service

variable {σ : Type} {settings : ServiceSettings}
variable {numerics : NumericRuntime σ} {runtime : ServiceRuntime}
variable {service next : Service σ} {action : Action}

/-! ## Records -/

/-- How a step changes the records. -/
inductive RecordsMove (service next : Service σ) : Prop where
  | same
      (tracked_eq : next.app.tracked = service.app.tracked)
  | updated {requestId : ℕ} {update : TrackedRequest → TrackedRequest}
      (follows : ∀ tracked, TrackedRequest.Follows tracked (update tracked))
      (tracked_eq : next.app.tracked =
        service.app.tracked.adjust requestId update)
  | recorded {handlerId : ℕ} {submission : Submission}
      {timing : RequestTiming} {accurate : Flavour}
      {baselineCarbonCost : ℚ} {payload : Json}
      (found : service.handlers.lookup handlerId =
        some (.submit submission
          (.costed timing accurate baselineCarbonCost)))
      (after : next.handlers.lookup handlerId =
        some (.submit submission (.tracked timing baselineCarbonCost)))
      (tracked_eq : next.app.tracked =
        service.app.tracked.insert submission.requestId
          (submission.trackedRequest payload timing accurate
            baselineCarbonCost))

theorem dispatcherStep_tracked
    (settings : ServiceSettings) (runtime : ServiceRuntime)
    (choice : DispatcherChoice) (state : AppState σ)
    (phase : DispatcherPhase) :
    (state.dispatcherStep settings runtime choice phase).2.1 = state ∨
      ∃ requestId update,
        (∀ tracked, TrackedRequest.Follows tracked (update tracked)) ∧
          (state.dispatcherStep settings runtime choice phase).2.1 =
            state.adjustTracked requestId update := by
  cases phase with
  | idle => exact Or.inl rfl
  | ticked currentSlot => exact Or.inl rfl
  | observed currentSlot now assignments => exact Or.inl rfl
  | sending due =>
      cases due with
      | nil => exact Or.inl rfl
      | cons entry rest => exact Or.inl rfl
  | loaded requestId assignment payload rest =>
      refine Or.inl ?_
      simp only [AppState.dispatcherStep]
      split <;> rfl
  | refused requestId error rest =>
      exact Or.inr ⟨requestId, _, fun tracked =>
        tracked.follows_setStatus .failed (some error), rfl⟩
  | addressed message rest =>
      simp only [AppState.dispatcherStep]
      split
      · exact Or.inr ⟨message.requestId, _, fun tracked =>
          tracked.follows_setStatus .dispatched none, rfl⟩
      · exact Or.inl rfl
  | awaiting message rest =>
      simp only [AppState.dispatcherStep]
      split
      · exact Or.inr ⟨message.requestId, _, fun tracked =>
          tracked.follows_setStatus .dispatched none, rfl⟩
      · exact Or.inr ⟨message.requestId, _, fun tracked =>
          tracked.follows_recordFailure settings.service choice.now _, rfl⟩

/-- Every step changes the records in one of these ways. -/
theorem StepEffect.recordsMove
    (effect : StepEffect settings numerics runtime service action next) :
    RecordsMove service next := by
  cases effect with
  | background _ records => exact .same records.tracked_eq
  | started arrival =>
      cases arrival with
      | submit => exact .same rfl
      | callback _ _ => exact .updated TrackedRequest.follows_claimCallback rfl
      | advance _ => exact .same rfl
      | close _ => exact .same rfl
  | @handled handlerId handler choice moved found taken =>
      cases handler with
      | submit submission phase =>
          obtain ⟨after, stepped, rfl⟩ := Option.map_eq_some_iff.mp taken
          have effect := AppState.submitStep_effect stepped
          generalize after.1 = reached, after.2 = app at effect ⊢
          cases effect with
          | quiet _ records _ => exact .same records.tracked_eq
          | fenced _ _ => exact .same rfl
          | recorded =>
              exact .recorded found (AList.lookup_insert _) rfl
          | queued => exact .same rfl
          | marked => exact .updated TrackedRequest.follows_markScheduled rfl
      | callback requestId body phase =>
          obtain ⟨after, stepped, rfl⟩ := Option.map_eq_some_iff.mp taken
          have effect := AppState.callbackStep_effect stepped
          generalize after.2 = app at effect ⊢
          cases effect with
          | quiet => exact .same rfl
          | errorCorrected => exact .same rfl
          | costCorrected => exact .same rfl
          | finished =>
              exact .updated
                (fun tracked => tracked.follows_finishCallback body _ _) rfl
      | advance body phase =>
          obtain ⟨after, stepped, rfl⟩ := Option.map_eq_some_iff.mp taken
          exact .same (AppState.advanceStep_effect stepped).1.tracked_eq
      | close body phase =>
          obtain ⟨after, stepped, rfl⟩ := Option.map_eq_some_iff.mp taken
          exact .same (AppState.closeStep_effect stepped).keeps.2.1
  | @dispatched choice =>
      rcases dispatcherStep_tracked settings runtime choice service.app
          service.dispatcher with same | ⟨requestId, update, follows, adjusted⟩
      · exact .same (congrArg AppState.tracked same)
      · exact .updated follows (congrArg AppState.tracked adjusted)

/-- A record stays, and follows its lifecycle. -/
theorem RecordsMove.lookup
    (move : RecordsMove service next) {requestId : ℕ}
    {tracked : TrackedRequest}
    (unrecorded : ∀ {handlerId submission timing accurate cost},
      service.handlers.lookup handlerId =
        some (.submit submission (.costed timing accurate cost)) →
      submission.requestId ∉ service.app.tracked)
    (found : service.app.tracked.lookup requestId = some tracked) :
    ∃ after, next.app.tracked.lookup requestId = some after ∧
      TrackedRequest.Follows tracked after := by
  cases move with
  | same tracked_eq =>
      exact ⟨tracked, by rw [tracked_eq, found], rfl, rfl, id, id⟩
  | @updated updatedId update follows tracked_eq =>
      by_cases here : requestId = updatedId
      · refine ⟨update tracked, ?_, follows tracked⟩
        rw [tracked_eq, here, Dictionary.lookup_adjust_self, ← here, found]
        rfl
      · refine ⟨tracked, ?_, rfl, rfl, id, id⟩
        rw [tracked_eq, Dictionary.lookup_adjust_of_ne here, found]
  | @recorded _ submission _ _ _ _ costed _ tracked_eq =>
      have other : requestId ≠ submission.requestId := by
        rintro rfl
        exact unrecorded costed (Dictionary.mem_of_lookup found)
      refine ⟨tracked, ?_, rfl, rfl, id, id⟩
      rw [tracked_eq, AList.lookup_insert_ne other, found]

/-! ## The engine -/

/-- How a step changes the engine, and what it hands to it. -/
inductive EngineMove (settings : ServiceSettings)
    (numerics : NumericRuntime σ) (service next : Service σ) :
    List Request → Prop where
  | same
      (engine_eq : next.app.engine = service.app.engine) :
      EngineMove settings numerics service next []
  | acted {action : Engine.Action}
      (nothing : action.received = [])
      (taken : Engine.step settings.engine numerics service.app.engine action =
        some next.app.engine) :
      EngineMove settings numerics service next []
  | queued {handlerId : ℕ} {submission : Submission}
      {timing : RequestTiming} {baselineCarbonCost now : ℚ}
      (found : service.handlers.lookup handlerId =
        some (.submit submission (.tracked timing baselineCarbonCost)))
      (after : next.handlers.lookup handlerId =
        some (.submit submission (.polling baselineCarbonCost)))
      (taken : Engine.step settings.engine numerics service.app.engine
        (.addRequest (submission.engineRequest now timing)) =
          some next.app.engine) :
      EngineMove settings numerics service next
        [submission.engineRequest now timing]

/-- The committed assignments change as in a step of the engine. -/
theorem EngineMove.assignmentsChange {received : List Request}
    (move : EngineMove settings numerics service next received) :
    ∃ correctsError committer,
      Engine.AssignmentsChange service.app.engine correctsError
        next.app.engine.shared.assignments committer := by
  cases move with
  | same engine_eq =>
      exact ⟨false, none, .same (by rw [engine_eq])⟩
  | acted _ taken =>
      exact ⟨_, (Engine.step_effect taken).assignmentsChange⟩
  | queued _ _ taken =>
      exact ⟨_, (Engine.step_effect taken).assignmentsChange⟩

private theorem dispatcherStep_engine
    (settings : ServiceSettings) (runtime : ServiceRuntime)
    (choice : DispatcherChoice) (state : AppState σ)
    (phase : DispatcherPhase) :
    (state.dispatcherStep settings runtime choice phase).2.1.engine =
      state.engine := by
  rcases dispatcherStep_tracked settings runtime choice state phase with
    same | ⟨requestId, update, _, adjusted⟩
  · rw [same]
  · rw [adjusted]
    rfl

/-- Every step changes the engine in one of these ways. -/
theorem StepEffect.engineMove
    (effect : StepEffect settings numerics runtime service action next) :
    ∃ received, EngineMove settings numerics service next received := by
  cases effect with
  | @background _ app loop engine _ =>
      generalize reached : app.engine = after at engine
      cases engine with
      | same => exact ⟨[], .same reached⟩
      | acted internal taken =>
          rw [← reached] at taken
          exact ⟨[], .acted
            (Engine.Action.received_of_isInternal internal) taken⟩
  | started arrival => cases arrival <;> exact ⟨[], .same rfl⟩
  | @handled handlerId handler choice moved found taken =>
      cases handler with
      | submit submission phase =>
          obtain ⟨after, stepped, rfl⟩ := Option.map_eq_some_iff.mp taken
          have effect := AppState.submitStep_effect stepped
          generalize after.1 = reached, after.2 = app at effect ⊢
          cases effect with
          | quiet engine_eq _ _ => exact ⟨[], .same engine_eq⟩
          | fenced _ _ => exact ⟨[], .same rfl⟩
          | recorded => exact ⟨[], .same rfl⟩
          | @queued timing cost now =>
              have queues : Engine.step settings.engine numerics
                  service.app.engine
                  (.addRequest (submission.engineRequest now timing)) =
                    some (service.app.engine.withShared
                      (service.app.engine.shared.addRequest
                        (submission.engineRequest now timing))) := rfl
              exact ⟨_, .queued found (AList.lookup_insert _) queues⟩
          | marked => exact ⟨[], .same rfl⟩
      | callback requestId body phase =>
          obtain ⟨after, stepped, rfl⟩ := Option.map_eq_some_iff.mp taken
          have effect := AppState.callbackStep_effect stepped
          generalize after.2 = app at effect ⊢
          cases effect with
          | quiet => exact ⟨[], .same rfl⟩
          | @errorCorrected actualError =>
              have corrects : Engine.step settings.engine numerics
                  service.app.engine
                  (.correctAssignmentError requestId actualError) =
                    some (service.app.withShared
                      (service.app.engine.shared.correctAssignmentError
                        requestId actualError)).engine := rfl
              exact ⟨[], .acted rfl corrects⟩
          | @costCorrected carbonCost =>
              have corrects : Engine.step settings.engine numerics
                  service.app.engine
                  (.correctAssignmentCarbonCost requestId carbonCost) =
                    some (service.app.withShared
                      (service.app.engine.shared.correctAssignmentCarbonCost
                        requestId carbonCost).2).engine := rfl
              exact ⟨[], .acted rfl corrects⟩
          | finished => exact ⟨[], .same rfl⟩
      | advance body phase =>
          obtain ⟨after, stepped, rfl⟩ := Option.map_eq_some_iff.mp taken
          rcases (AppState.advanceStep_effect stepped).2 with same | stored
          · exact ⟨[], .same same⟩
          · obtain ⟨slot, stored⟩ := stored
            have sets : Engine.step settings.engine numerics
                service.app.engine (.setCurrentSlot slot) =
                  some after.2.engine := by
              rw [stored]
              rfl
            exact ⟨[], .acted (by rfl) sets⟩
      | close body phase =>
          obtain ⟨after, stepped, rfl⟩ := Option.map_eq_some_iff.mp taken
          exact ⟨[], .same (AppState.closeStep_effect stepped).keeps.1⟩
  | dispatched =>
      exact ⟨[], .same (dispatcherStep_engine settings runtime _ _ _)⟩

end Service

end Carbonshift
