import Carbonshift.Service.AtMostOnce
import Carbonshift.Service.RecordWrites

/-!
# Finality of a callback

The first callback of a request claims its record.  It corrects the error and
the cost once each, and leaves the final status; the dispatcher and the poll of
the submission read the claim in the section in which they write.
-/

namespace Carbonshift

/-- What a callback corrects in the engine. -/
inductive Correction where
  | error
  | carbonCost
  deriving DecidableEq, Repr

namespace CallbackPhase

/-- The correction of the next step. -/
def correction (body : ExecutorCallbackPayload) :
    CallbackPhase → Option Correction
  | .claimed => body.actualErrorPct.map fun _ => .error
  | .repricing _ => some .carbonCost
  | _ => none

/-- The correction lies behind the callback. -/
def isPast : Correction → CallbackPhase → Bool
  | .error, .claimed => false
  | .error, _ => true
  | .carbonCost, .costCorrected _ => true
  | .carbonCost, .arrivalRead _ _ => true
  | .carbonCost, .answered _ => true
  | .carbonCost, _ => false

end CallbackPhase

/-- The record as a finished callback leaves it. -/
structure TrackedRequest.FinishedBy (tracked : TrackedRequest)
    (body : ExecutorCallbackPayload) : Prop where
  received : tracked.executorCallbackReceived = true
  status_eq : tracked.status = if body.success then .completed else .failed
  error_eq : tracked.error = body.error

namespace AppState

variable {σ : Type} {state next : AppState σ} {requestId : ℕ}
variable {body : ExecutorCallbackPayload} {phase after : CallbackPhase}

/-- A step puts its correction behind the callback, and none back. -/
theorem isPast_of_callbackStep
    (taken : state.callbackStep requestId body phase = some (after, next))
    {correction : Correction}
    (done : phase.isPast correction = true ∨
      phase.correction body = some correction) :
    after.isPast correction = true := by
  cases phase with
  | claimed =>
      simp only [callbackStep] at taken
      split at taken
      · rename_i unmeasured
        cases taken
        simp only [CallbackPhase.correction, unmeasured] at done
        cases correction <;> simp [CallbackPhase.isPast] at done
      · cases taken
        simp only [CallbackPhase.correction] at done
        cases correction <;> simp_all [CallbackPhase.isPast]
  | errorCorrected =>
      simp only [callbackStep] at taken
      split at taken <;>
      · cases taken
        cases correction <;>
          simp_all [CallbackPhase.isPast, CallbackPhase.correction]
  | assignmentRead assignment =>
      cases taken
      cases correction <;>
        simp_all [CallbackPhase.isPast, CallbackPhase.correction]
  | actualRead assignment actual =>
      simp only [callbackStep] at taken
      split at taken <;>
      · cases taken
        cases correction <;>
          simp_all [CallbackPhase.isPast, CallbackPhase.correction]
  | repricing carbonCost =>
      cases taken
      cases correction <;> rfl
  | costCorrected actualCarbonCost =>
      simp only [callbackStep] at taken
      split at taken <;>
      · cases taken
        cases correction <;> rfl
  | arrivalRead actualCarbonCost arrivalActual =>
      simp only [callbackStep] at taken
      split at taken <;>
      · cases taken
        cases correction <;> rfl
  | answered answer => cases taken

/-- A correction still to be made is not behind the callback. -/
theorem not_isPast_of_correction {correction : Correction}
    (corrects : phase.correction body = some correction) :
    phase.isPast correction = false := by
  cases phase with
  | claimed =>
      obtain ⟨_, _, rfl⟩ := Option.map_eq_some_iff.mp corrects
      rfl
  | repricing carbonCost =>
      cases corrects
      rfl
  | _ => cases corrects

/-- The last step of a successful callback leaves the final status. -/
theorem finishedBy_of_callbackStep
    {answer : Option (String × CallerCallbackPayload)}
    (taken : state.callbackStep requestId body phase =
      some (.answered (.ok answer), next))
    {tracked : TrackedRequest}
    (recorded : state.tracked.lookup requestId = some tracked)
    (received : tracked.executorCallbackReceived = true) :
    ∃ finished, next.tracked.lookup requestId = some finished ∧
      finished.FinishedBy body := by
  cases phase with
  | claimed =>
      simp only [callbackStep] at taken
      split at taken <;> cases taken
  | errorCorrected =>
      simp only [callbackStep] at taken
      split at taken <;> cases taken
  | assignmentRead assignment => cases taken
  | actualRead assignment actual =>
      simp only [callbackStep] at taken
      split at taken <;> cases taken
  | repricing carbonCost => cases taken
  | costCorrected actualCarbonCost =>
      simp only [callbackStep] at taken
      split at taken <;> cases taken
  | arrivalRead actualCarbonCost arrivalActual =>
      simp only [callbackStep, recorded] at taken
      cases taken
      refine ⟨tracked.finishCallback body actualCarbonCost
        (state.correctedBaseline body arrivalActual tracked), ?_, received,
        rfl, rfl⟩
      dsimp only [adjustTracked]
      rw [Dictionary.lookup_adjust_self, recorded]
      rfl
  | answered answer => cases taken

end AppState

namespace Service

variable {σ : Type} {settings : ServiceSettings}
variable {numerics : NumericRuntime σ} {runtime : ServiceRuntime}
variable {service next : Service σ} {action : Action}
variable {known : List Request} {requestId : ℕ}
variable {log : List (ℕ × Correction)}

/-- The correction that a step makes for the request, and the handler that
makes it. -/
def correctionIn (requestId : ℕ) (service : Service σ) :
    Action → Option (ℕ × Correction)
  | .handle handlerId _ =>
      match service.handlers.lookup handlerId with
      | some (.callback calledId body phase) =>
          if calledId = requestId then
            (phase.correction body).map fun correction =>
              (handlerId, correction)
          else
            none
      | _ => none
  | _ => none

/-- A step of the service, with a log of the request's corrections. -/
def loggedStep (settings : ServiceSettings) (numerics : NumericRuntime σ)
    (runtime : ServiceRuntime) (requestId : ℕ) :
    Service σ × List (ℕ × Correction) → Action →
      Option (Service σ × List (ℕ × Correction)) :=
  Transition.observed (step settings numerics runtime)
    fun service action log =>
      log ++ (service.correctionIn requestId action).toList

theorem correctionIn_of_not_callsBack
    (aside : ¬ CallsBack service action requestId) :
    service.correctionIn requestId action = none := by
  cases action with
  | handle handlerId choice =>
      simp only [correctionIn]
      split
      · rename_i calledId body phase found
        by_cases here : calledId = requestId
        · subst here
          exact absurd ⟨handlerId, choice, body, phase, rfl, found⟩ aside
        · exact if_neg here
      · rfl
  | _ => rfl

/-- Every correction is made once, by the callback that claimed the request,
and lies behind it; a finished callback has left its status. -/
structure Corrects (requestId : ℕ) (service : Service σ)
    (log : List (ℕ × Correction)) : Prop where
  once : (log.map Prod.snd).Nodup
  past : ∀ entry ∈ log, ∃ body phase,
    service.handlers.lookup entry.1 = some (.callback requestId body phase) ∧
      phase.isPast entry.2 = true
  finished : ∀ handlerId body answer,
    service.handlers.lookup handlerId =
        some (.callback requestId body (.answered (.ok answer))) →
      ∃ tracked, service.app.tracked.lookup requestId = some tracked ∧
        tracked.FinishedBy body

namespace Corrects

theorem new (settings : ServiceSettings) (carbonForecast : List ℚ)
    (startedAt : ℤ) (requestId : ℕ) :
    Corrects requestId
      (Service.new settings carbonForecast startedAt : Service σ) [] := by
  refine ⟨List.nodup_nil, fun entry member => ?_, fun _ _ _ found => ?_⟩
  · cases member
  · exact absurd (found.symm.trans (AList.lookup_empty _))
      (Option.some_ne_none _)

/-- A step beside the callback of the request. -/
private theorem aside
    (corrects : Corrects requestId service log)
    (registered : Registered known service)
    (effect : StepEffect settings numerics runtime service action next)
    (beside : ¬ CallsBack service action requestId) :
    Corrects requestId next log := by
  refine ⟨corrects.once, fun entry member => ?_,
    fun handlerId body answer found => ?_⟩
  · obtain ⟨body, phase, there, past⟩ := corrects.past entry member
    exact ⟨body, phase, callback_of_aside registered effect beside there, past⟩
  · cases effect.callbackHistory found with
    | waited before =>
        obtain ⟨tracked, recorded, finished⟩ :=
          corrects.finished _ _ _ before
        rcases claimed_record_of_step registered effect recorded
            finished.received with same | callsBack
        · exact ⟨tracked, same, finished⟩
        · exact absurd callsBack beside
    | moved before taken =>
        have phase := callback_of_aside registered effect beside before
        rw [found] at phase
        cases phase
        cases taken

/-- A step of the callback of the request. -/
private theorem callsBack
    (corrects : Corrects requestId service log)
    (claimed : CallbacksClaimed service) (once : CalledBackOnce service)
    (taken : Service.step settings numerics runtime service action = some next)
    (calls : CallsBack service action requestId) :
    Corrects requestId next
      (log ++ (service.correctionIn requestId action).toList) := by
  have whole := calls
  obtain ⟨handlerId, choice, body, phase, rfl, found⟩ := calls
  obtain ⟨_, after, stepped, foundAfter⟩ :=
    callback_of_callsBack once taken whole found
  have logs : service.correctionIn requestId (.handle handlerId choice) =
      (phase.correction body).map fun correction =>
        (handlerId, correction) := by
    simp only [correctionIn, found, if_pos]
  rw [logs]
  -- every entry so far was logged by this handler
  have own : ∀ entry ∈ log,
      entry.1 = handlerId ∧ phase.isPast entry.2 = true := by
    intro entry member
    obtain ⟨other, otherPhase, there, past⟩ := corrects.past entry member
    have same := once _ _ _ _ _ _ _ there found
    rw [same, found] at there
    cases there
    exact ⟨same, past⟩
  refine ⟨?_, fun entry member => ?_, fun other otherBody answer there => ?_⟩
  · cases correction : phase.correction body with
    | none =>
        rw [Option.map_none, Option.toList_none, List.append_nil]
        exact corrects.once
    | some corrected =>
        rw [Option.map_some, Option.toList_some, List.map_append,
          List.nodup_append]
        refine ⟨corrects.once, List.nodup_singleton _, ?_⟩
        intro earlier old later new same
        obtain ⟨entry, member, rfl⟩ := List.mem_map.mp old
        have last := List.mem_singleton.mp new
        have past := (own entry member).2
        rw [same, last, AppState.not_isPast_of_correction correction] at past
        cases past
  · rcases List.mem_append.mp member with old | new
    · obtain ⟨same, past⟩ := own entry old
      refine ⟨body, after, ?_, AppState.isPast_of_callbackStep stepped
        (Or.inl past)⟩
      rw [same]
      exact foundAfter
    · obtain ⟨correction, made, rfl⟩ :=
        Option.map_eq_some_iff.mp (Option.mem_toList.mp new)
      exact ⟨body, after, foundAfter,
        AppState.isPast_of_callbackStep stepped (Or.inr made)⟩
  · cases (step_effect taken).callbackHistory there with
    | waited before =>
        have same := once _ _ _ _ _ _ _ before found
        rw [same, found] at before
        cases before
        cases stepped
    | moved before moved =>
        obtain ⟨tracked, recorded, received⟩ := claimed _ _ _ _ before
        exact AppState.finishedBy_of_callbackStep moved recorded received

/-- Every step keeps the corrections single and the final status. -/
theorem step
    (corrects : Corrects requestId service log)
    (registered : Registered known service)
    (claimed : CallbacksClaimed service) (once : CalledBackOnce service)
    (taken : Service.step settings numerics runtime service action =
      some next) :
    Corrects requestId next
      (log ++ (service.correctionIn requestId action).toList) := by
  by_cases calls : CallsBack service action requestId
  · exact corrects.callsBack claimed once taken calls
  · rw [correctionIn_of_not_callsBack calls, Option.toList_none,
      List.append_nil]
    exact corrects.aside registered (step_effect taken) calls

end Corrects

/-- What is known of the callbacks of a request, before and after more steps. -/
structure CalledBackFinally (requestId : ℕ) (finished final : Service σ)
    (log : List (ℕ × Correction)) : Prop where
  /-- The error and the cost are corrected at most once each. -/
  once : (log.map Prod.snd).Nodup
  /-- One handler makes the corrections: the one that claimed the request. -/
  claimant : ∀ entry ∈ log, ∃ body phase,
    final.handlers.lookup entry.1 = some (.callback requestId body phase)
  same : ∀ entry ∈ log, ∀ other ∈ log, entry.1 = other.1
  /-- A finished callback has left the status, and no later step changes it. -/
  stands : ∀ handlerId body answer,
    finished.handlers.lookup handlerId =
        some (.callback requestId body (.answered (.ok answer))) →
      ∃ tracked, final.app.tracked.lookup requestId = some tracked ∧
        tracked.FinishedBy body

/-- The error and cost corrections of a request are made at most once, by its
first accepted callback, and the status that this callback leaves is final. -/
theorem callback_is_final
    (settings : ServiceSettings) (numerics : NumericRuntime σ)
    (runtime : ServiceRuntime) (carbonForecast : List ℚ) (startedAt : ℤ)
    (earlier later : List Action) (finished final : Service σ)
    (requestId : ℕ) (log finalLog : List (ℕ × Correction))
    (reached : Transition.run
      (loggedStep settings numerics runtime requestId)
      (Service.new settings carbonForecast startedAt, []) earlier =
        some (finished, log))
    (continued : Transition.run
      (loggedStep settings numerics runtime requestId) (finished, log) later =
        some (final, finalLog)) :
    CalledBackFinally requestId finished final finalLog := by
  have ofRun : ∀ actions (state : Service σ) entries,
      Transition.run (loggedStep settings numerics runtime requestId)
          (Service.new settings carbonForecast startedAt, []) actions =
        some (state, entries) →
      Corrects requestId state entries := by
    intro actions state entries ran
    refine Transition.run_induction
      (fun history (seen : Service σ × List (ℕ × Correction)) =>
        Transition.run (Service.step settings numerics runtime)
            (Service.new settings carbonForecast startedAt) history =
          some seen.1 ∧ Corrects requestId seen.1 seen.2)
      ⟨rfl, .new settings carbonForecast startedAt requestId⟩ ?_ ran |>.2
    rintro history ⟨service, entries⟩ action ⟨next, more⟩ ⟨before, corrects⟩
      taken
    obtain ⟨stepped, same⟩ := Transition.observed_eq_some_iff.mp taken
    dsimp only at stepped same before corrects
    subst same
    obtain ⟨known, consistent⟩ := Consistent.of_run before
    obtain ⟨claimed, once⟩ := calledBackOnce_of_run before
    exact ⟨Transition.run_concat_eq_some_iff.mpr ⟨service, before, stepped⟩,
      corrects.step consistent.registered claimed once stepped⟩
  have whole : Transition.run (loggedStep settings numerics runtime requestId)
      (Service.new settings carbonForecast startedAt, []) (earlier ++ later) =
        some (final, finalLog) := by
    rw [Transition.run_append, reached, Option.bind_some, continued]
  have corrects := ofRun _ final finalLog whole
  obtain ⟨_, once⟩ :=
    calledBackOnce_of_run (Transition.run_of_run_observed whole)
  refine ⟨corrects.once, fun entry member => ?_,
    fun entry member other present => ?_, fun handlerId body answer found => ?_⟩
  · obtain ⟨body, phase, there, _⟩ := corrects.past entry member
    exact ⟨body, phase, there⟩
  · obtain ⟨body, phase, there, _⟩ := corrects.past entry member
    obtain ⟨otherBody, otherPhase, otherThere, _⟩ :=
      corrects.past other present
    exact once _ _ _ _ _ _ _ there otherThere
  · refine corrects.finished handlerId body answer ?_
    refine Transition.run_induction
      (fun _ (seen : Service σ × List (ℕ × Correction)) =>
        (∃ known, Consistent settings numerics known seen.1) ∧
          seen.1.handlers.lookup handlerId =
            some (.callback requestId body (.answered (.ok answer))))
      ⟨Consistent.of_run (Transition.run_of_run_observed reached), found⟩ ?_
      continued |>.2
    rintro _ state action next ⟨⟨known, consistent⟩, there⟩ taken
    have stepped := (Transition.observed_eq_some_iff.mp taken).1
    obtain ⟨_, _, follows⟩ := consistent.step stepped
    exact ⟨⟨_, follows⟩, consistent.registered.lookup_of_idle
      (step_effect stepped) there fun _ _ => rfl⟩

/-! ## A second callback -/

/-- The executor's result, with the error that it measured. -/
def erroneousResult : ExecutorCallbackPayload where
  success := true
  result := .object [("actual_error_pct", .number 3)]
  error := none

/-- The request is dispatched, and the executor calls back. -/
def calledBackRun : List Action :=
  scheduledRun ++ dispatchTimes 8 ++
    .callback 1 erroneousResult :: handleTimes 2 6

/-- The dispatcher scans once more, and the executor reports a failure. -/
def recalledRun : List Action :=
  dispatchTimes 4 ++
    .callback 1 ⟨false, .object [], some "timeout"⟩ :: dispatchTimes 2

/-- Has the second handler answered a callback that it could finish? -/
def answersSuccess (service : Service σ) : Bool :=
  match service.handlers.lookup 2 with
  | some (.callback 1 body (.answered (.ok _))) => body.success
  | _ => false

private theorem answered_of_answersSuccess
    (answers : service.answersSuccess = true) :
    ∃ body answer,
      service.handlers.lookup 2 =
          some (.callback 1 body (.answered (.ok answer))) ∧
        body.success = true := by
  unfold answersSuccess at answers
  split at answers
  · rename_i body answer found
    exact ⟨body, answer, found, answers⟩
  · cases answers

/-- The second callback corrects nothing, and the request stays completed. -/
theorem recalledRun_stays_completed :
    ∃ (final : Service Unit) (tracked : TrackedRequest),
      Transition.run
          (loggedStep executorSettings .least AppState.epochOnly 1)
          (Service.new executorSettings [1, 2, 2, 2] 0, [])
          (calledBackRun ++ recalledRun) =
        some (final, [(2, .error)]) ∧
      final.app.tracked.lookup 1 = some tracked ∧
      tracked.status = .completed := by
  have computed :
      ((Transition.run
          (loggedStep executorSettings .least AppState.epochOnly 1)
          (Service.new executorSettings [1, 2, 2, 2] 0, [])
          calledBackRun).bind fun finished =>
        (Transition.run
          (loggedStep executorSettings .least AppState.epochOnly 1)
          finished recalledRun).map fun final =>
            finished.1.answersSuccess &&
              decide (final.2 = [(2, .error)])) = some true := by
    decide +kernel
  obtain ⟨⟨finished, log⟩, reached, computed⟩ :=
    Option.bind_eq_some_iff.mp computed
  obtain ⟨⟨final, finalLog⟩, continued, holds⟩ :=
    Option.map_eq_some_iff.mp computed
  rw [Bool.and_eq_true, decide_eq_true_eq] at holds
  obtain ⟨answers, logged⟩ := holds
  obtain ⟨body, answer, found, succeeded⟩ :=
    answered_of_answersSuccess answers
  obtain ⟨tracked, recorded, finishedBy⟩ :=
    (callback_is_final executorSettings .least AppState.epochOnly
      [1, 2, 2, 2] 0 calledBackRun recalledRun finished final 1 log finalLog
      reached continued).stands 2 body answer found
  refine ⟨final, tracked, ?_, recorded, ?_⟩
  · rw [Transition.run_append, reached, Option.bind_some, continued]
    exact congrArg (fun entries => some (final, entries)) logged
  · rw [finishedBy.status_eq, succeeded, if_pos rfl]

end Service

end Carbonshift
