import Carbonshift.Service.State

/-!
# Executor callbacks

The first callback of a request claims it, corrects the predicted error and
the estimated costs by what was measured, and leaves the final status.
-/

namespace Carbonshift

/-- Body of an executor callback. -/
structure ExecutorCallbackPayload where
  success : Bool
  result : Json
  error : Option String

/-- What is forwarded to the callback URL of the caller. -/
structure CallerCallbackPayload where
  requestId : ℕ
  success : Bool
  result : Json
  error : Option String
  actualCarbonCost : Option ℚ
  actualBaselineCarbonCost : Option ℚ
  executionTimeSec : Option ℚ
  baselineExecutionTimeSec : Option ℚ

namespace ExecutorCallbackPayload

variable (body : ExecutorCallbackPayload)

def actualErrorPct : Option ℚ :=
  (body.result.get "actual_error_pct").bind Json.asF64

def executionTimeSec : Option ℚ :=
  (body.result.get "execution_time_sec").bind Json.asF64

/-- The measured baseline; if the accurate flavour itself ran, its time. -/
def baselineExecutionTimeSec : Option ℚ :=
  ((body.result.get "baseline_execution_time_sec").bind Json.asF64).or
    (((body.result.get "flavour").bind Json.asStr).bind fun flavour =>
      if asciiLowercase flavour = "accurate" then
        body.executionTimeSec
      else
        none)

def forwarded (requestId : ℕ) (actualCarbonCost actualBaseline : Option ℚ) :
    CallerCallbackPayload where
  requestId := requestId
  success := body.success
  result := body.result
  error := body.error
  actualCarbonCost := actualCarbonCost
  actualBaselineCarbonCost := actualBaseline
  executionTimeSec := body.executionTimeSec
  baselineExecutionTimeSec := body.baselineExecutionTimeSec

end ExecutorCallbackPayload

/-! ## Correction of an estimate -/

/-- Measured over forecast intensity of a slot, from the two readings; an
unknown one, and a forecast that is not positive, give nothing. -/
def carbonIntensityRatio (actual forecast : Option ℚ) : Option ℚ :=
  actual.bind fun actual =>
    forecast.bind fun forecast =>
      if forecast ≤ 0 then none else some (actual / forecast)

/-- Measured over estimated duration. -/
def timeRatio (measured : Option ℚ) (duration : ℚ) : Option ℚ :=
  measured.bind fun measured =>
    if 0 < duration then some (measured / duration) else none

/-- The estimate, rescaled by the known ratios; nothing if none is known. -/
def rescaled (estimate : ℚ) (intensity time : Option ℚ) : Option ℚ :=
  if intensity.isSome || time.isSome then
    some (estimate * intensity.getD 1 * time.getD 1)
  else
    none

/-- How far a callback is. -/
inductive CallbackPhase where
  | claimed
  | errorCorrected
  | assignmentRead (assignment : Assignment)
  | actualRead (assignment : Assignment) (actual : Option ℚ)
  | repricing (carbonCost : ℚ)
  | costCorrected (actualCarbonCost : Option ℚ)
  | arrivalRead (actualCarbonCost : Option ℚ) (arrivalActual : Option ℚ)
  /-- What is forwarded, and where to. -/
  | answered
      (answer : Except ApiError (Option (String × CallerCallbackPayload)))

namespace TrackedRequest

variable (tracked : TrackedRequest)

def claimCallback : TrackedRequest :=
  { tracked with executorCallbackReceived := true }

/-- The final status, and what was measured. -/
def finishCallback (body : ExecutorCallbackPayload)
    (actualCarbonCost actualBaseline : Option ℚ) : TrackedRequest :=
  { tracked with
    status := if body.success then .completed else .failed
    error := body.error
    actualCarbonCost := actualCarbonCost
    actualBaselineCarbonCost := actualBaseline
    actualErrorPct := body.actualErrorPct
    executionTimeSec := body.executionTimeSec
    baselineExecutionTimeSec := body.baselineExecutionTimeSec
    baselineCarbonCost := actualBaseline.getD tracked.baselineCarbonCost }

end TrackedRequest

namespace AppState

variable {σ : Type}

/-- Claim the callback of a request: the first claim wins. -/
def claimCallback (requestId : ℕ) (state : AppState σ) :
    Except ApiError (Option (AppState σ)) :=
  match state.tracked.lookup requestId with
  | none => .error (.notFound "unknown request_id")
  | some tracked =>
      if tracked.executorCallbackReceived then
        .ok none
      else
        .ok (some
          (state.adjustTracked requestId TrackedRequest.claimCallback))

/-- The corrected baseline of a request. -/
def correctedBaseline (body : ExecutorCallbackPayload)
    (arrivalActual : Option ℚ) (tracked : TrackedRequest)
    (state : AppState σ) : Option ℚ :=
  rescaled tracked.baselineCarbonCost
    (carbonIntensityRatio arrivalActual
      (slotEntry state.carbonForecast tracked.arrivalSlot))
    (timeRatio body.baselineExecutionTimeSec tracked.baselineDuration)

/-- The next critical section of a claimed callback. -/
def callbackStep (requestId : ℕ) (body : ExecutorCallbackPayload)
    (state : AppState σ) : CallbackPhase → Option (CallbackPhase × AppState σ)
  | .claimed =>
      match body.actualErrorPct with
      | none => some (.errorCorrected, state)
      | some actualError =>
          some
            (.errorCorrected,
              state.withShared
                (state.engine.shared.correctAssignmentError requestId
                  actualError))
  | .errorCorrected =>
      match state.engine.shared.assignments.lookup requestId with
      | none => some (.costCorrected none, state)
      | some assignment => some (.assignmentRead assignment, state)
  | .assignmentRead assignment =>
      some
        (.actualRead assignment
          (state.actualCarbonIntensity.lookup assignment.scheduledSlot),
          state)
  | .actualRead assignment actual =>
      match rescaled assignment.carbonCost
          (carbonIntensityRatio actual
            (slotEntry state.carbonForecast assignment.scheduledSlot))
          (timeRatio body.executionTimeSec assignment.flavourDuration) with
      | none => some (.costCorrected none, state)
      | some carbonCost => some (.repricing carbonCost, state)
  | .repricing carbonCost =>
      let corrected :=
        state.engine.shared.correctAssignmentCarbonCost requestId carbonCost
      some (.costCorrected corrected.1, state.withShared corrected.2)
  | .costCorrected actualCarbonCost =>
      match state.tracked.lookup requestId with
      | none =>
          some (.answered (.error (.notFound "unknown request_id")), state)
      | some tracked =>
          some
            (.arrivalRead actualCarbonCost
              (state.actualCarbonIntensity.lookup tracked.arrivalSlot),
              state)
  | .arrivalRead actualCarbonCost arrivalActual =>
      match state.tracked.lookup requestId with
      | none =>
          some (.answered (.error (.notFound "unknown request_id")), state)
      | some tracked =>
          let actualBaseline :=
            state.correctedBaseline body arrivalActual tracked
          some
            (.answered (.ok
              (tracked.callbackUrl.map fun url =>
                (url,
                  body.forwarded requestId actualCarbonCost actualBaseline))),
              state.adjustTracked requestId fun tracked =>
                tracked.finishCallback body actualCarbonCost actualBaseline)
  | .answered _ => none

end AppState

end Carbonshift
