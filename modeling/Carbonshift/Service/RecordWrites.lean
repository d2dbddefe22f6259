import Carbonshift.Service.Claims

/-!
# Who writes the record of a request

The dispatcher and the poll of the submission write the status of a record,
and leave it alone once its callback has been claimed.  All else is written by
the callback itself.
-/

namespace Carbonshift

/-- What anyone but the callback of a request does to its record. -/
inductive RecordWrite (settings : ServiceSettings) (tracked : TrackedRequest) :
    TrackedRequest → Prop where
  | same : RecordWrite settings tracked tracked
  | marked : RecordWrite settings tracked tracked.markScheduled
  | status (status : RequestStatus) (error : Option String) :
      RecordWrite settings tracked (tracked.setStatus status error)
  | failure (now : ℕ) (error : String) :
      RecordWrite settings tracked
        (tracked.recordFailure settings.service now error)

namespace RecordWrite

variable {settings : ServiceSettings} {tracked after : TrackedRequest}

/-- A claimed record is written by its callback alone. -/
theorem eq_of_received (write : RecordWrite settings tracked after)
    (received : tracked.executorCallbackReceived = true) : after = tracked := by
  cases write with
  | same => rfl
  | marked => exact if_pos received
  | status status error => exact if_pos received
  | failure now error =>
      rw [TrackedRequest.recordFailure]
      exact if_pos received

/-- A write of one record is one of every record. -/
theorem exists_lookup_adjust
    {table : Dictionary ℕ TrackedRequest} {requestId other : ℕ}
    {update : TrackedRequest → TrackedRequest}
    (recorded : table.lookup requestId = some tracked)
    (writes : ∀ record, RecordWrite settings record (update record)) :
    ∃ after, (table.adjust other update).lookup requestId = some after ∧
      RecordWrite settings tracked after := by
  refine Dictionary.exists_lookup_adjust ⟨tracked, recorded, .same⟩
    fun record _ found _ => ?_
  rw [recorded, Option.some.injEq] at found
  rw [found]
  exact writes record

end RecordWrite

/-- The dispatcher writes statuses and failures. -/
theorem AppState.dispatcherStep_writes
    {σ : Type} (settings : ServiceSettings) (runtime : ServiceRuntime)
    (choice : DispatcherChoice) (state : AppState σ)
    (phase : DispatcherPhase) {requestId : ℕ} {tracked : TrackedRequest}
    (recorded : state.tracked.lookup requestId = some tracked) :
    ∃ after,
      (state.dispatcherStep settings runtime choice phase).2.1.tracked.lookup
          requestId = some after ∧
        RecordWrite settings tracked after := by
  cases phase with
  | idle => exact ⟨tracked, recorded, .same⟩
  | ticked currentSlot => exact ⟨tracked, recorded, .same⟩
  | observed currentSlot now assignments => exact ⟨tracked, recorded, .same⟩
  | sending due =>
      cases due with
      | nil => exact ⟨tracked, recorded, .same⟩
      | cons entry rest => exact ⟨tracked, recorded, .same⟩
  | loaded loadedId assignment payload rest =>
      simp only [dispatcherStep]
      split <;> exact ⟨tracked, recorded, .same⟩
  | refused refusedId error rest =>
      exact RecordWrite.exists_lookup_adjust recorded
        fun _ => .status .failed (some error)
  | addressed message rest =>
      simp only [dispatcherStep]
      split
      · exact RecordWrite.exists_lookup_adjust recorded
          fun _ => .status .dispatched none
      · exact ⟨tracked, recorded, .same⟩
  | awaiting message rest =>
      simp only [dispatcherStep]
      split
      · exact RecordWrite.exists_lookup_adjust recorded
          fun _ => .status .dispatched none
      · exact RecordWrite.exists_lookup_adjust recorded
          fun _ => .failure choice.now _

namespace Service

variable {σ : Type} {settings : ServiceSettings}
variable {numerics : NumericRuntime σ} {runtime : ServiceRuntime}
variable {service next : Service σ} {action : Action}
variable {known : List Request}

/-- The step claims the request for a callback that has just arrived. -/
def ClaimsRequest (service next : Service σ) (requestId : ℕ) : Prop :=
  ∃ body,
    next = service.start (.callback requestId body .claimed)
      (service.app.adjustTracked requestId TrackedRequest.claimCallback)

private theorem writes_of_handled
    (registered : Registered known service)
    {handlerId : ℕ} {handler : Handler} {choice : HandlerChoice}
    {moved : Handler × AppState σ}
    (found : service.handlers.lookup handlerId = some handler)
    (taken : handlerStep settings runtime service choice handler =
      some moved)
    {requestId : ℕ} {tracked : TrackedRequest}
    (recorded : service.app.tracked.lookup requestId = some tracked)
    (aside : ¬ CallsBack service (.handle handlerId choice) requestId) :
    ∃ after, moved.2.tracked.lookup requestId = some after ∧
      RecordWrite settings tracked after := by
  cases handler with
  | submit submission phase =>
      obtain ⟨after, stepped, rfl⟩ := Option.map_eq_some_iff.mp taken
      have effect := AppState.submitStep_effect stepped
      generalize after.1 = reached, after.2 = app at effect ⊢
      cases effect with
      | quiet _ records _ =>
          rw [records.tracked_eq]
          exact ⟨tracked, recorded, .same⟩
      | fenced _ _ => exact ⟨tracked, recorded, .same⟩
      | recorded =>
          have other : requestId ≠ submission.requestId := by
            rintro rfl
            exact registered.unrecorded found rfl
              (Dictionary.mem_of_lookup recorded)
          refine ⟨tracked, ?_, .same⟩
          rw [AList.lookup_insert_ne other]
          exact recorded
      | queued => exact ⟨tracked, recorded, .same⟩
      | marked =>
          exact RecordWrite.exists_lookup_adjust recorded fun _ => .marked
  | callback calledId body phase =>
      obtain ⟨after, stepped, rfl⟩ := Option.map_eq_some_iff.mp taken
      have other : requestId ≠ calledId := by
        intro same
        rw [← same] at found
        exact aside ⟨handlerId, choice, body, phase, rfl, found⟩
      have effect := AppState.callbackStep_effect stepped
      generalize after.2 = app at effect ⊢
      cases effect with
      | quiet => exact ⟨tracked, recorded, .same⟩
      | errorCorrected => exact ⟨tracked, recorded, .same⟩
      | costCorrected => exact ⟨tracked, recorded, .same⟩
      | finished =>
          refine ⟨tracked, ?_, .same⟩
          rw [AppState.adjustTracked, Dictionary.lookup_adjust_of_ne other]
          exact recorded
  | advance body phase =>
      obtain ⟨after, stepped, rfl⟩ := Option.map_eq_some_iff.mp taken
      refine ⟨tracked, ?_, .same⟩
      rw [(AppState.advanceStep_effect stepped).1.tracked_eq, recorded]
  | close body phase =>
      obtain ⟨after, stepped, rfl⟩ := Option.map_eq_some_iff.mp taken
      refine ⟨tracked, ?_, .same⟩
      rw [(AppState.closeStep_effect stepped).keeps.2.1, recorded]

/-- A step writes the status of a record, or claims it, or is a step of its
callback. -/
theorem record_of_step
    (registered : Registered known service)
    (effect : StepEffect settings numerics runtime service action next)
    {requestId : ℕ} {tracked : TrackedRequest}
    (recorded : service.app.tracked.lookup requestId = some tracked) :
    (∃ after, next.app.tracked.lookup requestId = some after ∧
        RecordWrite settings tracked after) ∨
      (tracked.executorCallbackReceived = false ∧
        ClaimsRequest service next requestId) ∨
      CallsBack service action requestId := by
  cases effect with
  | background _ records =>
      refine Or.inl ⟨tracked, ?_, .same⟩
      rw [records.tracked_eq, recorded]
  | started arrival =>
      cases arrival with
      | submit => exact Or.inl ⟨tracked, recorded, .same⟩
      | @callback calledId body claimant found first =>
          by_cases here : requestId = calledId
          · subst here
            rw [recorded, Option.some.injEq] at found
            rw [found]
            exact Or.inr (Or.inl ⟨first, body, rfl⟩)
          · refine Or.inl ⟨tracked, ?_, .same⟩
            rw [start, AppState.adjustTracked,
              Dictionary.lookup_adjust_of_ne here]
            exact recorded
      | advance _ => exact Or.inl ⟨tracked, recorded, .same⟩
      | close _ => exact Or.inl ⟨tracked, recorded, .same⟩
  | @handled handlerId handler choice moved found taken =>
      by_cases aside : CallsBack service (.handle handlerId choice) requestId
      · exact Or.inr (Or.inr aside)
      · exact Or.inl
          (writes_of_handled registered found taken recorded aside)
  | dispatched =>
      exact Or.inl (AppState.dispatcherStep_writes settings runtime _
        service.app service.dispatcher recorded)

/-- A claimed record changes only by its callback. -/
theorem claimed_record_of_step
    (registered : Registered known service)
    (effect : StepEffect settings numerics runtime service action next)
    {requestId : ℕ} {tracked : TrackedRequest}
    (recorded : service.app.tracked.lookup requestId = some tracked)
    (received : tracked.executorCallbackReceived = true) :
    next.app.tracked.lookup requestId = some tracked ∨
      CallsBack service action requestId := by
  rcases record_of_step registered effect recorded with
    ⟨after, followed, write⟩ | ⟨first, _⟩ | callsBack
  · rw [write.eq_of_received received] at followed
    exact Or.inl followed
  · rw [received] at first
    cases first
  · exact Or.inr callsBack

/-- A callback does not move in the steps of others. -/
theorem callback_of_aside
    (registered : Registered known service)
    (effect : StepEffect settings numerics runtime service action next)
    {requestId : ℕ} (aside : ¬ CallsBack service action requestId)
    {handlerId : ℕ} {body : ExecutorCallbackPayload} {phase : CallbackPhase}
    (found : service.handlers.lookup handlerId =
      some (.callback requestId body phase)) :
    next.handlers.lookup handlerId =
      some (.callback requestId body phase) := by
  refine registered.lookup_of_idle effect found fun choice moves => ?_
  exact absurd ⟨handlerId, choice, body, phase, moves, found⟩ aside

/-- In a step of the callback of a request, its one callback moves. -/
theorem callback_of_callsBack
    (once : CalledBackOnce service)
    (taken : Service.step settings numerics runtime service action = some next)
    {requestId : ℕ} (calls : CallsBack service action requestId)
    {handlerId : ℕ} {body : ExecutorCallbackPayload} {phase : CallbackPhase}
    (found : service.handlers.lookup handlerId =
      some (.callback requestId body phase)) :
    (∃ choice, action = .handle handlerId choice) ∧
      ∃ after,
        service.app.callbackStep requestId body phase =
            some (after, next.app) ∧
          next.handlers.lookup handlerId =
            some (.callback requestId body after) := by
  obtain ⟨callerId, choice, other, otherPhase, rfl, calling⟩ := calls
  have same := once _ _ _ _ _ _ _ calling found
  subst same
  rw [calling] at found
  cases found
  obtain ⟨handler, present, moves⟩ := Option.bind_eq_some_iff.mp taken
  rw [calling] at present
  cases present
  obtain ⟨moved, performed, rfl⟩ := Option.map_eq_some_iff.mp moves
  obtain ⟨after, stepped, rfl⟩ := Option.map_eq_some_iff.mp performed
  exact ⟨⟨choice, rfl⟩, after.1, stepped, AList.lookup_insert _⟩

end Service

end Carbonshift
