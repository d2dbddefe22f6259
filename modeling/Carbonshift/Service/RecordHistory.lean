import Carbonshift.Service.AtMostOnce
import Carbonshift.Service.RecordWrites

/-!
# Where a record comes from

A record of the next state is the record before it, written by one of the
parties, or a new one.  Nobody writes the payload, and only a finished callback
completes a request.
-/

namespace Carbonshift

namespace TrackedRequest

variable {tracked : TrackedRequest}

/-- A write that leaves the payload, and the status unless it writes the given
one. -/
structure Writes (status : RequestStatus) (before after : TrackedRequest) :
    Prop where
  payload_eq : after.payload = before.payload
  status_eq : after = before ∨ after.status = status ∨
    (after.status = before.status ∧ before.executorCallbackReceived = false)

theorem writes_setStatus (tracked : TrackedRequest) (status : RequestStatus)
    (error : Option String) :
    Writes status tracked (tracked.setStatus status error) := by
  rw [setStatus]
  split
  · exact ⟨rfl, Or.inl rfl⟩
  · exact ⟨rfl, Or.inr (Or.inl rfl)⟩

theorem writes_markScheduled (tracked : TrackedRequest) :
    Writes .scheduled tracked tracked.markScheduled := by
  rw [markScheduled]
  split
  · exact ⟨rfl, Or.inl rfl⟩
  · exact ⟨rfl, Or.inr (Or.inl rfl)⟩

theorem writes_recordFailure (tracked : TrackedRequest) (cfg : ServiceConfig)
    (now : ℕ) (error : String) :
    Writes .failed tracked (tracked.recordFailure cfg now error) := by
  unfold recordFailure
  dsimp only
  by_cases received : tracked.executorCallbackReceived = true
  · rw [if_pos received]
    exact ⟨rfl, Or.inl rfl⟩
  · rw [if_neg received]
    split
    · exact ⟨rfl, Or.inr (Or.inl rfl)⟩
    · exact ⟨rfl, Or.inr (Or.inr ⟨rfl, eq_false_of_ne_true received⟩)⟩

/-- A status that was not written was there before. -/
theorem Writes.status_of_ne {written status : RequestStatus}
    {before after : TrackedRequest} (writes : Writes written before after)
    (reached : after.status = status) (other : written ≠ status) :
    before.status = status := by
  rcases writes.status_eq with same | new | ⟨same, _⟩
  · rw [← same]
    exact reached
  · exact absurd (new.symm.trans reached) other
  · rw [← same]
    exact reached

end TrackedRequest

namespace Service

variable {σ : Type} {settings : ServiceSettings}
variable {numerics : NumericRuntime σ} {runtime : ServiceRuntime}
variable {service next : Service σ} {action : Action}
variable {requestId : ℕ}

/-- Who has written a record of the next state. -/
inductive RecordHistory (settings : ServiceSettings)
    (service next : Service σ) (action : Action) (requestId : ℕ) : TrackedRequest → Prop where
  | kept {tracked : TrackedRequest}
      (recorded : service.app.tracked.lookup requestId = some tracked) :
      RecordHistory settings service next action requestId tracked
  | written {status : RequestStatus} {before tracked : TrackedRequest}
      (recorded : service.app.tracked.lookup requestId = some before)
      (writes : TrackedRequest.Writes status before tracked)
      (undone : status = .scheduled ∨ status = .failed) :
      RecordHistory settings service next action requestId tracked
  | dispatched {before tracked : TrackedRequest}
      (recorded : service.app.tracked.lookup requestId = some before)
      (writes : TrackedRequest.Writes .dispatched before tracked)
      (sent : settings.service.executorUrl = none ∨
        ∃ choice, action = .dispatch choice ∧ choice.outcome = .accepted ∧
          service.awaited = some requestId) :
      RecordHistory settings service next action requestId tracked
  | claimed {before : TrackedRequest}
      (recorded : service.app.tracked.lookup requestId = some before)
      (claims : ClaimsRequest service next requestId) :
      RecordHistory settings service next action requestId before.claimCallback
  | finished {before : TrackedRequest} {handlerId : ℕ}
      {body : ExecutorCallbackPayload} {phase : CallbackPhase}
      {actualCarbonCost actualBaseline : Option ℚ}
      (recorded : service.app.tracked.lookup requestId = some before)
      (found : service.handlers.lookup handlerId =
        some (.callback requestId body phase)) :
      RecordHistory settings service next action requestId
        (before.finishCallback body actualCarbonCost actualBaseline)
  | created {handlerId : ℕ} {submission : Submission} {timing : RequestTiming}
      {accurate : Flavour} {baselineCarbonCost : ℚ} {payload : Json}
      (found : service.handlers.lookup handlerId =
        some (.submit submission (.costed timing accurate baselineCarbonCost)))
      (own : submission.requestId = requestId) :
      RecordHistory settings service next action requestId
        (submission.trackedRequest payload timing accurate baselineCarbonCost)

/-- An update of one record leaves the others. -/
private theorem lookup_before_adjust
    {table : Dictionary ℕ TrackedRequest} {updated : ℕ}
    {update : TrackedRequest → TrackedRequest} {tracked : TrackedRequest}
    (found : (table.adjust updated update).lookup requestId = some tracked) :
    table.lookup requestId = some tracked ∨
      (updated = requestId ∧
        ∃ before, table.lookup requestId = some before ∧
          tracked = update before) := by
  by_cases here : requestId = updated
  · subst here
    rw [Dictionary.lookup_adjust_self] at found
    obtain ⟨before, recorded, rfl⟩ := Option.map_eq_some_iff.mp found
    exact Or.inr ⟨rfl, before, recorded, rfl⟩
  · rw [Dictionary.lookup_adjust_of_ne here] at found
    exact Or.inl found

private theorem recordHistory_of_dispatched {choice : DispatcherChoice}
    {tracked : TrackedRequest}
    (found : (service.app.dispatcherStep settings runtime choice
      service.dispatcher).2.1.tracked.lookup requestId = some tracked) :
    RecordHistory settings service next (.dispatch choice) requestId tracked := by
  generalize was : service.dispatcher = phase at found
  cases phase with
  | idle => exact .kept found
  | ticked currentSlot => exact .kept found
  | observed currentSlot now assignments => exact .kept found
  | sending due =>
      cases due with
      | nil => exact .kept found
      | cons entry rest => exact .kept found
  | loaded loadedId assignment payload rest =>
      simp only [AppState.dispatcherStep] at found
      split at found <;> exact .kept found
  | refused refusedId error rest =>
      rcases lookup_before_adjust found with same | ⟨_, before, recorded, rfl⟩
      · exact .kept same
      · exact .written recorded (before.writes_setStatus .failed (some error))
          (Or.inr rfl)
  | addressed message rest =>
      simp only [AppState.dispatcherStep] at found
      split at found
      · rename_i nowhere
        rcases lookup_before_adjust found with
          same | ⟨_, before, recorded, rfl⟩
        · exact .kept same
        · exact .dispatched recorded (before.writes_setStatus .dispatched none)
            (Or.inl (Option.isNone_iff_eq_none.mp nowhere))
      · exact .kept found
  | awaiting message rest =>
      simp only [AppState.dispatcherStep] at found
      split at found
      · rename_i outcome
        rcases lookup_before_adjust found with
          same | ⟨own, before, recorded, rfl⟩
        · exact .kept same
        · refine .dispatched recorded
            (before.writes_setStatus .dispatched none)
            (Or.inr ⟨choice, rfl, outcome, ?_⟩)
          rw [awaited, was, ← own]
      · rcases lookup_before_adjust found with
          same | ⟨_, before, recorded, rfl⟩
        · exact .kept same
        · exact .written recorded
            (before.writes_recordFailure settings.service choice.now _)
            (Or.inr rfl)

private theorem recordHistory_of_handled {handlerId : ℕ}
    {handler : Handler} {choice : HandlerChoice} {moved : Handler × AppState σ}
    (present : service.handlers.lookup handlerId = some handler)
    (taken : handlerStep settings runtime service choice handler =
      some moved)
    {tracked : TrackedRequest}
    (found : moved.2.tracked.lookup requestId = some tracked) :
    RecordHistory settings service next (.handle handlerId choice)
      requestId tracked := by
  cases handler with
  | submit submission phase =>
      obtain ⟨after, stepped, rfl⟩ := Option.map_eq_some_iff.mp taken
      have effect := AppState.submitStep_effect stepped
      generalize after.1 = reached, after.2 = app at effect found
      cases effect with
      | quiet _ records _ =>
          rw [records.tracked_eq] at found
          exact .kept found
      | fenced _ _ => exact .kept found
      | recorded =>
          by_cases own : requestId = submission.requestId
          · rw [own, AList.lookup_insert, Option.some.injEq] at found
            subst found
            exact .created present own.symm
          · rw [AList.lookup_insert_ne own] at found
            exact .kept found
      | queued => exact .kept found
      | marked =>
          rcases lookup_before_adjust found with
            same | ⟨_, before, recorded, rfl⟩
          · exact .kept same
          · exact .written recorded before.writes_markScheduled (Or.inl rfl)
  | callback calledId body phase =>
      obtain ⟨after, stepped, rfl⟩ := Option.map_eq_some_iff.mp taken
      have effect := AppState.callbackStep_effect stepped
      generalize after.2 = app at effect found
      cases effect with
      | quiet => exact .kept found
      | errorCorrected => exact .kept found
      | costCorrected => exact .kept found
      | finished =>
          rcases lookup_before_adjust found with
            same | ⟨own, before, recorded, rfl⟩
          · exact .kept same
          · subst own
            exact .finished recorded present
  | advance body phase =>
      obtain ⟨after, stepped, rfl⟩ := Option.map_eq_some_iff.mp taken
      rw [(AppState.advanceStep_effect stepped).1.tracked_eq] at found
      exact .kept found
  | close body phase =>
      obtain ⟨after, stepped, rfl⟩ := Option.map_eq_some_iff.mp taken
      rw [(AppState.closeStep_effect stepped).keeps.2.1] at found
      exact .kept found

/-- Every record of the next state has such a history. -/
theorem StepEffect.recordHistory
    (effect : StepEffect settings numerics runtime service action next)
    {tracked : TrackedRequest}
    (found : next.app.tracked.lookup requestId = some tracked) :
    RecordHistory settings service next action requestId tracked := by
  cases effect with
  | background _ records =>
      rw [records.tracked_eq] at found
      exact .kept found
  | started arrival =>
      cases arrival with
      | submit => exact .kept found
      | @callback calledId body claimant _ _ =>
          rcases lookup_before_adjust found with
            same | ⟨own, before, recorded, rfl⟩
          · exact .kept same
          · subst own
            exact .claimed recorded ⟨body, rfl⟩
      | advance _ => exact .kept found
      | close _ => exact .kept found
  | handled present taken => exact recordHistory_of_handled present taken found
  | dispatched => exact recordHistory_of_dispatched found

/-- The payload of a record stays what it was recorded with. -/
theorem RecordHistory.payload_eq {tracked before : TrackedRequest}
    (history : RecordHistory settings service next action requestId tracked)
    {known : List Request} (registered : Registered known service)
    (recorded : service.app.tracked.lookup requestId = some before) :
    tracked.payload = before.payload := by
  have same : ∀ {other}, service.app.tracked.lookup requestId = some other →
      other = before := fun found =>
    Option.some.inj (found.symm.trans recorded)
  cases history with
  | kept found => rw [same found]
  | written found writes _ => rw [writes.payload_eq, same found]
  | dispatched found writes _ => rw [writes.payload_eq, same found]
  | claimed found _ =>
      rw [same found]
      rfl
  | finished found _ =>
      rw [same found]
      rfl
  | created costed own =>
      have absent := registered.unrecorded costed rfl
      rw [own] at absent
      exact absurd (Dictionary.mem_of_lookup recorded) absent

/-- A dispatched record was dispatched before, or it has just been. -/
theorem RecordHistory.status_dispatched {tracked : TrackedRequest}
    (history : RecordHistory settings service next action requestId tracked)
    (dispatched : tracked.status = .dispatched) :
    (∃ before, service.app.tracked.lookup requestId = some before ∧
        before.status = .dispatched) ∨
      settings.service.executorUrl = none ∨
        ∃ choice, action = .dispatch choice ∧ choice.outcome = .accepted ∧
          service.awaited = some requestId := by
  cases history with
  | kept recorded => exact Or.inl ⟨tracked, recorded, dispatched⟩
  | @written status before _ recorded writes undone =>
      refine Or.inl ⟨before, recorded,
        writes.status_of_ne dispatched fun same => ?_⟩
      rcases undone with scheduled | failed
      · rw [scheduled] at same
        cases same
      · rw [failed] at same
        cases same
  | dispatched _ _ sent => exact Or.inr sent
  | claimed recorded _ => exact Or.inl ⟨_, recorded, dispatched⟩
  | @finished before handlerId body phase _ _ recorded _ =>
      rw [TrackedRequest.finishCallback] at dispatched
      dsimp only at dispatched
      split at dispatched <;> cases dispatched
  | created _ _ => cases dispatched

end Service

end Carbonshift
