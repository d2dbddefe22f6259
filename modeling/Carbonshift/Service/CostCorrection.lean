import Carbonshift.Engine.CommitLog
import Carbonshift.Service.CostFactors
import Carbonshift.Service.RecordWrites
import Carbonshift.Service.Replanning

/-!
# Correcting the costs of a request

The costs of a request are estimated at its submission and at its solve.  Its
callback divides by the forecast that stands when it reads, and the provider
may have overwritten it since.  A commit that replans the request replaces its
estimate, but never its baseline.
-/

namespace Carbonshift

/-! ## What keeps a baseline -/

namespace TrackedRequest

/-- The baseline of a record. -/
structure SameBaseline (before after : TrackedRequest) : Prop where
  baselineCarbonCost_eq : after.baselineCarbonCost = before.baselineCarbonCost
  baselineDuration_eq : after.baselineDuration = before.baselineDuration
  arrivalSlot_eq : after.arrivalSlot = before.arrivalSlot

variable {before middle after : TrackedRequest}

theorem SameBaseline.refl (tracked : TrackedRequest) :
    SameBaseline tracked tracked :=
  ⟨rfl, rfl, rfl⟩

theorem SameBaseline.trans (first : SameBaseline before middle)
    (second : SameBaseline middle after) : SameBaseline before after :=
  ⟨second.baselineCarbonCost_eq.trans first.baselineCarbonCost_eq,
    second.baselineDuration_eq.trans first.baselineDuration_eq,
    second.arrivalSlot_eq.trans first.arrivalSlot_eq⟩

end TrackedRequest

/-- Only a callback changes the baseline of a record, or claims it. -/
theorem RecordWrite.keepsBaseline
    {settings : ServiceSettings} {tracked after : TrackedRequest}
    (write : RecordWrite settings tracked after) :
    tracked.SameBaseline after ∧
      after.executorCallbackReceived = tracked.executorCallbackReceived := by
  by_cases received : tracked.executorCallbackReceived = true
  · rw [write.eq_of_received received]
    exact ⟨.refl tracked, rfl⟩
  · cases write with
    | same => exact ⟨.refl tracked, rfl⟩
    | marked =>
        rw [TrackedRequest.markScheduled, if_neg received]
        exact ⟨⟨rfl, rfl, rfl⟩, rfl⟩
    | status status error =>
        rw [TrackedRequest.setStatus, if_neg received]
        exact ⟨⟨rfl, rfl, rfl⟩, rfl⟩
    | failure now error =>
        rw [TrackedRequest.recordFailure, if_neg received]
        split <;> exact ⟨⟨rfl, rfl, rfl⟩, rfl⟩

/-! ## What a callback reads -/

/-- The intensities that a callback has read. -/
structure Readings where
  slotActual : Option ℚ
  slotForecast : Option ℚ
  arrivalActual : Option ℚ
  arrivalForecast : Option ℚ
  deriving DecidableEq, Repr

namespace Readings

variable {σ : Type}

def unread : Readings where
  slotActual := none
  slotForecast := none
  arrivalActual := none
  arrivalForecast := none

/-- What a step of a callback adds to its readings. -/
def take (requestId : ℕ) (state : AppState σ) (readings : Readings) :
    CallbackPhase → Readings
  | .actualRead assignment actual =>
      { readings with
        slotActual := actual
        slotForecast :=
          slotEntry state.carbonForecast assignment.scheduledSlot }
  | .arrivalRead _ actual =>
      { readings with
        arrivalActual := actual
        arrivalForecast :=
          (state.tracked.lookup requestId).bind fun tracked =>
            slotEntry state.carbonForecast tracked.arrivalSlot }
  | _ => readings

/-- What the callback of the request reads in a step of the service. -/
def watch (requestId : ℕ) (service : Service σ) (readings : Readings) :
    Service.Action → Readings
  | .handle handlerId _ =>
      match service.handlers.lookup handlerId with
      | some (.callback calledId _ phase) =>
          if calledId = requestId then
            readings.take requestId service.app phase
          else
            readings
      | _ => readings
  | _ => readings

theorem watch_of_not_callsBack
    {requestId : ℕ} {service : Service σ} {action : Service.Action}
    (aside : ¬ service.CallsBack action requestId) (readings : Readings) :
    readings.watch requestId service action = readings := by
  cases action with
  | handle handlerId choice =>
      simp only [watch]
      split
      · rename_i calledId body phase found
        by_cases here : calledId = requestId
        · subst here
          exact absurd ⟨handlerId, choice, body, phase, rfl, found⟩ aside
        · exact if_neg here
      · rfl
  | _ => rfl

end Readings

/-- The price of an assignment, and where it was made. -/
structure Assignment.SamePrice (before after : Assignment) : Prop where
  carbonCost_eq : after.carbonCost = before.carbonCost
  scheduledSlot_eq : after.scheduledSlot = before.scheduledSlot
  flavourDuration_eq : after.flavourDuration = before.flavourDuration

theorem Assignment.SamePrice.refl (assignment : Assignment) :
    assignment.SamePrice assignment :=
  ⟨rfl, rfl, rfl⟩

section Corrections

variable (body : ExecutorCallbackPayload) (readings : Readings)

/-- The estimate of an assignment, corrected by what was read. -/
def Assignment.correctedCost (assignment : Assignment) : ℚ :=
  assignment.carbonCost *
    (carbonIntensityRatio readings.slotActual readings.slotForecast).getD 1 *
    (timeRatio body.executionTimeSec assignment.flavourDuration).getD 1

/-- The baseline of a record, corrected by what was read. -/
def TrackedRequest.correctedBaseline (tracked : TrackedRequest) : ℚ :=
  tracked.baselineCarbonCost *
    (carbonIntensityRatio readings.arrivalActual
      readings.arrivalForecast).getD 1 *
    (timeRatio body.baselineExecutionTimeSec tracked.baselineDuration).getD 1

/-- The stored price at every phase of the callback, after what it was when the
callback claimed the request. -/
def PriceAccounted (assignment stored : Assignment) : CallbackPhase → Prop
  | .claimed => assignment.SamePrice stored
  | .errorCorrected => assignment.SamePrice stored
  | .assignmentRead held =>
      assignment.SamePrice held ∧ assignment.SamePrice stored
  | .actualRead held _ =>
      assignment.SamePrice held ∧ assignment.SamePrice stored
  | .repricing carbonCost =>
      carbonCost = assignment.correctedCost body readings
  | .costCorrected _ =>
      stored.carbonCost = assignment.correctedCost body readings
  | .arrivalRead _ _ =>
      stored.carbonCost = assignment.correctedCost body readings
  | .answered _ =>
      stored.carbonCost = assignment.correctedCost body readings

/-- The baseline of a record, which only the last step of the callback
corrects. -/
def BaselineAccounted (tracked record : TrackedRequest) : CallbackPhase → Prop
  | .answered _ =>
      record.baselineCarbonCost = tracked.correctedBaseline body readings
  | _ => tracked.SameBaseline record

end Corrections

/-- The stored price is accounted for. -/
def PriceStands {σ : Type} (requestId : ℕ) (assignment : Assignment)
    (body : ExecutorCallbackPayload) (readings : Readings)
    (phase : CallbackPhase) (state : AppState σ) : Prop :=
  ∃ stored, state.engine.shared.assignments.lookup requestId = some stored ∧
    PriceAccounted body readings assignment stored phase

/-- The baseline is accounted for. -/
def BaselineStands {σ : Type} (requestId : ℕ) (tracked : TrackedRequest)
    (body : ExecutorCallbackPayload) (readings : Readings)
    (phase : CallbackPhase) (state : AppState σ) : Prop :=
  ∃ record, state.tracked.lookup requestId = some record ∧
    BaselineAccounted body readings tracked record phase

section Steps

variable {σ : Type} {state next : AppState σ} {requestId : ℕ}
variable {body : ExecutorCallbackPayload} {readings : Readings}
variable {assignment : Assignment} {tracked : TrackedRequest}
variable {phase after : CallbackPhase}

/-- What is rescaled from an unchanged price is the corrected cost. -/
private theorem rescaled_price
    {held : Assignment} (same : assignment.SamePrice held)
    (actual forecast : Option ℚ) :
    (rescaled held.carbonCost (carbonIntensityRatio actual forecast)
        (timeRatio body.executionTimeSec held.flavourDuration)).getD
          assignment.carbonCost =
      assignment.correctedCost body
        { readings with slotActual := actual, slotForecast := forecast } := by
  rw [same.carbonCost_eq, same.flavourDuration_eq, rescaled_getD]
  rfl

/-- One step of the callback keeps the price, or corrects it. -/
theorem PriceStands.step
    (stands : PriceStands requestId assignment body readings phase state)
    (taken : state.callbackStep requestId body phase = some (after, next)) :
    PriceStands requestId assignment body
      (readings.take requestId state phase) after next := by
  obtain ⟨stored, found, price⟩ := stands
  cases phase with
  | claimed =>
      simp only [AppState.callbackStep] at taken
      split at taken
      · cases taken
        exact ⟨stored, found, price⟩
      · rename_i actualError _
        cases taken
        refine ⟨{ stored with error := actualError }, ?_,
          ⟨price.carbonCost_eq, price.scheduledSlot_eq,
            price.flavourDuration_eq⟩⟩
        dsimp only [AppState.withShared, Engine.withShared]
        rw [SharedState.correctAssignmentError_assignments,
          Dictionary.lookup_adjust_self, found]
        rfl
  | errorCorrected =>
      simp only [AppState.callbackStep, found] at taken
      cases taken
      exact ⟨stored, found, price, price⟩
  | assignmentRead held =>
      cases taken
      exact ⟨stored, found, price⟩
  | actualRead held actual =>
      obtain ⟨same, price⟩ := price
      have corrected := @rescaled_price body readings assignment held same
        actual (slotEntry state.carbonForecast held.scheduledSlot)
      simp only [AppState.callbackStep] at taken
      split at taken
      · rename_i nothing
        cases taken
        rw [nothing] at corrected
        exact ⟨stored, found, price.carbonCost_eq.trans corrected⟩
      · rename_i carbonCost repriced
        cases taken
        rw [repriced] at corrected
        exact ⟨stored, found, corrected⟩
  | repricing carbonCost =>
      cases taken
      refine ⟨{ stored with carbonCost := carbonCost }, ?_, price⟩
      dsimp only [AppState.withShared, Engine.withShared]
      rw [SharedState.correctAssignmentCarbonCost_assignments,
        Dictionary.lookup_adjust_self, found]
      rfl
  | costCorrected actualCarbonCost =>
      simp only [AppState.callbackStep] at taken
      split at taken <;>
      · cases taken
        exact ⟨stored, found, price⟩
  | arrivalRead actualCarbonCost arrivalActual =>
      simp only [AppState.callbackStep] at taken
      split at taken <;>
      · cases taken
        exact ⟨stored, found, price⟩
  | answered answer => cases taken

/-- One step of the callback keeps the baseline, or corrects it. -/
theorem BaselineStands.step
    (stands : BaselineStands requestId tracked body readings phase state)
    (taken : state.callbackStep requestId body phase = some (after, next)) :
    BaselineStands requestId tracked body
      (readings.take requestId state phase) after next := by
  obtain ⟨record, recorded, baseline⟩ := stands
  cases phase with
  | claimed =>
      simp only [AppState.callbackStep] at taken
      split at taken <;>
      · cases taken
        exact ⟨record, recorded, baseline⟩
  | errorCorrected =>
      simp only [AppState.callbackStep] at taken
      split at taken <;>
      · cases taken
        exact ⟨record, recorded, baseline⟩
  | assignmentRead held =>
      cases taken
      exact ⟨record, recorded, baseline⟩
  | actualRead held actual =>
      simp only [AppState.callbackStep] at taken
      split at taken <;>
      · cases taken
        exact ⟨record, recorded, baseline⟩
  | repricing carbonCost =>
      cases taken
      exact ⟨record, recorded, baseline⟩
  | costCorrected actualCarbonCost =>
      simp only [AppState.callbackStep, recorded] at taken
      cases taken
      exact ⟨record, recorded, baseline⟩
  | arrivalRead actualCarbonCost arrivalActual =>
      simp only [AppState.callbackStep, recorded] at taken
      cases taken
      refine ⟨record.finishCallback body actualCarbonCost
        (state.correctedBaseline body arrivalActual record), ?_, ?_⟩
      · dsimp only [AppState.adjustTracked]
        rw [Dictionary.lookup_adjust_self, recorded]
        rfl
      · dsimp only [BaselineAccounted] at baseline ⊢
        dsimp only [TrackedRequest.finishCallback, AppState.correctedBaseline,
          Readings.take]
        rw [rescaled_getD, baseline.baselineCarbonCost_eq,
          baseline.baselineDuration_eq, recorded, Option.bind_some]
        rfl
  | answered answer => cases taken

/-- The baseline is that of the record before, as long as the record's is. -/
private theorem baselineAccounted_of_sameBaseline
    {record later : TrackedRequest}
    (accounted : BaselineAccounted body readings tracked record phase)
    (same : record.SameBaseline later) :
    BaselineAccounted body readings tracked later phase := by
  cases phase with
  | answered answer => exact same.baselineCarbonCost_eq.trans accounted
  | _ => exact TrackedRequest.SameBaseline.trans accounted same

end Steps

namespace Service

variable {σ : Type} {settings : ServiceSettings}
variable {numerics : NumericRuntime σ} {runtime : ServiceRuntime}
variable {service next : Service σ} {action : Action}
variable {known : List Request} {requestId : ℕ} {readings : Readings}
variable {assignment : Assignment} {tracked : TrackedRequest}

/-! ## Runs that watch one callback -/

/-- A step of the service, with what the callback of the request reads. -/
def watchedStep (settings : ServiceSettings) (numerics : NumericRuntime σ)
    (runtime : ServiceRuntime) (requestId : ℕ) :
    Service σ × Readings → Action → Option (Service σ × Readings) :=
  Transition.observed (step settings numerics runtime)
    fun service action readings => readings.watch requestId service action

/-- The batch that an action commits, with its assignments. -/
def committedBatch (settings : ServiceSettings) (service : Service σ) :
    Action → Option CommittedBatch
  | .work workerId move =>
      Engine.committedBatch settings.engine service.app.engine
        (.work workerId move)
  | _ => none

/-- The action commits no new assignment of the request. -/
def KeepsCommit (settings : ServiceSettings) (requestId : ℕ)
    (service : Service σ) (action : Action) : Prop :=
  ∀ batch ∈ service.committedBatch settings action,
    requestId ∉ assignmentIds batch.assignments

instance (settings : ServiceSettings) (requestId : ℕ) (service : Service σ) :
    DecidablePred (KeepsCommit settings requestId service) :=
  fun action => inferInstanceAs
    (Decidable (∀ batch ∈ service.committedBatch settings action,
      requestId ∉ assignmentIds batch.assignments))

/-- With locked future assignments, no commit replaces an assignment. -/
theorem keepsCommit_of_locked
    (consistent : Consistent settings numerics known service)
    (locked : settings.engine.solver.dpLockFutureAssignments = true)
    (stored : service.app.engine.shared.assignments.lookup requestId =
      some assignment)
    (action : Action) : KeepsCommit settings requestId service action := by
  intro batch commits proposed
  cases action with
  | work workerId move =>
      obtain ⟨kept, distinct⟩ := consistent.replanFrame
      have logged : Engine.committedBatch settings.engine service.app.engine
          (.work workerId move) = some batch := commits
      obtain ⟨_, worker, _, _, _, _, found, was, _, batch_eq⟩ :=
        Engine.committedBatch_cases logged
      rw [batch_eq] at proposed
      rcases (kept _ worker found).proposed was requestId proposed with
        own | ⟨_, _, replannable⟩
      · have uncommitted := (Engine.uncommitted_of_owns distinct found
          (by rw [was]; rfl)).2 requestId own
        exact uncommitted (Dictionary.mem_of_lookup stored)
      · have unlocked := replannable.unlocked
        rw [locked] at unlocked
        cases unlocked
  | _ => cases commits

/-- An assignment outlives every step that keeps its commit, but those of its
callback. -/
theorem lookup_of_keepsCommit
    (consistent : Consistent settings numerics known service)
    (keeps : KeepsCommit settings requestId service action)
    (taken : step settings numerics runtime service action = some next)
    (aside : ¬ CallsBack service action requestId)
    (stored : service.app.engine.shared.assignments.lookup requestId =
      some assignment) :
    next.app.engine.shared.assignments.lookup requestId =
      some assignment := by
  obtain ⟨kept, distinct⟩ := consistent.replanFrame
  rcases lookup_of_step kept distinct taken stored with
    same | callsBack | ⟨workerId, worker, rfl, found, _⟩
  · exact same
  · exact absurd callsBack aside
  · obtain ⟨engine, moved, rfl⟩ := Option.map_eq_some_iff.mp taken
    exact (Engine.lookup_of_unlogged found moved keeps).trans stored

/-- A record keeps its baseline in every step but those of its callback. -/
theorem baseline_of_aside
    (consistent : Consistent settings numerics known service)
    (taken : step settings numerics runtime service action = some next)
    (aside : ¬ CallsBack service action requestId)
    (recorded : service.app.tracked.lookup requestId = some tracked) :
    ∃ after, next.app.tracked.lookup requestId = some after ∧
      tracked.SameBaseline after := by
  rcases record_of_step consistent.registered (step_effect taken) recorded with
    ⟨after, recordedAfter, write⟩ | ⟨_, body, rfl⟩ | callsBack
  · exact ⟨after, recordedAfter, write.keepsBaseline.1⟩
  · refine ⟨tracked.claimCallback, ?_, ⟨rfl, rfl, rfl⟩⟩
    rw [start, AppState.adjustTracked, Dictionary.lookup_adjust_self, recorded]
    rfl
  · exact absurd callsBack aside

/-- What a callback is accounted for, at its phase; before the callback, as at
its claim. -/
inductive Watched (requestId : ℕ)
    (accounted : ExecutorCallbackPayload → Readings → CallbackPhase →
      AppState σ → Prop)
    (service : Service σ) (readings : Readings) : Prop where
  | uncalled {record : TrackedRequest}
      (recorded : service.app.tracked.lookup requestId = some record)
      (first : record.executorCallbackReceived = false)
      (stands : ∀ body, accounted body readings .claimed service.app)
  | called {handlerId : ℕ} {body : ExecutorCallbackPayload}
      {phase : CallbackPhase}
      (found : service.handlers.lookup handlerId =
        some (.callback requestId body phase))
      (stands : accounted body readings phase service.app)

variable {accounted : ExecutorCallbackPayload → Readings → CallbackPhase →
  AppState σ → Prop}

/-- The account is kept by the steps of the callback, and by the others. -/
theorem Watched.step
    (watched : Watched requestId accounted service readings)
    (consistent : Consistent settings numerics known service)
    (claimed : CallbacksClaimed service) (once : CalledBackOnce service)
    (taken : Service.step settings numerics runtime service action = some next)
    (kept : ¬ CallsBack service action requestId →
      ∀ body phase, accounted body readings phase service.app →
        accounted body readings phase next.app)
    (stepped : ∀ body phase after,
      accounted body readings phase service.app →
        service.app.callbackStep requestId body phase =
            some (after, next.app) →
          accounted body (readings.take requestId service.app phase) after
            next.app) :
    Watched requestId accounted next
      (readings.watch requestId service action) := by
  have effect := step_effect taken
  cases watched with
  | @uncalled record recorded first stands =>
      have aside : ¬ CallsBack service action requestId := by
        rintro ⟨_, _, _, _, _, found⟩
        exact claimed.not_callback recorded first found
      rw [Readings.watch_of_not_callsBack aside]
      rcases record_of_step consistent.registered effect recorded with
        ⟨after, recordedAfter, write⟩ | ⟨_, body, rfl⟩ | callsBack
      · exact .uncalled recordedAfter (write.keepsBaseline.2.trans first)
          fun body => kept aside body .claimed (stands body)
      · exact .called (AList.lookup_insert _)
          (kept aside body .claimed (stands body))
      · exact absurd callsBack aside
  | @called handlerId body phase found stands =>
      by_cases calls : CallsBack service action requestId
      · obtain ⟨⟨choice, rfl⟩, after, moved, foundAfter⟩ :=
          callback_of_callsBack once taken calls found
        have reads : readings.watch requestId service
              (.handle handlerId choice) =
            readings.take requestId service.app phase := by
          simp only [Readings.watch, found, if_pos]
        rw [reads]
        exact .called foundAfter (stepped body phase after stands moved)
      · rw [Readings.watch_of_not_callsBack calls]
        exact .called
          (callback_of_aside consistent.registered effect calls found)
          (kept calls body phase stands)

/-- Once the callback has answered, its account is that of the answer. -/
theorem Watched.of_run
    {carbonForecast : List ℚ} {startedAt : ℤ} {earlier later : List Action}
    {committed final : Service σ}
    (accounted : ExecutorCallbackPayload → Readings → CallbackPhase →
      AppState σ → Prop)
    (allowed : Service σ → Action → Prop)
    (kept : ∀ {known service next action readings},
      Consistent settings numerics known service →
        allowed service action →
          Service.step settings numerics runtime service action =
              some next →
            ¬ CallsBack service action requestId →
              ∀ body phase, accounted body readings phase service.app →
                accounted body readings phase next.app)
    (stepped : ∀ {state next : AppState σ} {readings} body phase after,
      accounted body readings phase state →
        state.callbackStep requestId body phase = some (after, next) →
          accounted body (readings.take requestId state phase) after next)
    (reached : Transition.run (Service.step settings numerics runtime)
      (Service.new settings carbonForecast startedAt) earlier =
        some committed)
    (recorded : committed.app.tracked.lookup requestId = some tracked)
    (first : tracked.executorCallbackReceived = false)
    (initially : ∀ body, accounted body .unread .claimed committed.app)
    (guarded : Transition.Guarded (Service.step settings numerics runtime)
      allowed committed later)
    (ran : Transition.run (watchedStep settings numerics runtime requestId)
      (committed, .unread) later = some (final, readings))
    {handlerId : ℕ} {body : ExecutorCallbackPayload}
    {answer : Except ApiError (Option (String × CallerCallbackPayload))}
    (answered : final.handlers.lookup handlerId =
      some (.callback requestId body (.answered answer))) :
    accounted body readings (.answered answer) final.app := by
  obtain ⟨known, consistent⟩ := Consistent.of_run reached
  obtain ⟨claimed, once⟩ := calledBackOnce_of_run reached
  have watchedGuarded : Transition.Guarded
      (watchedStep settings numerics runtime requestId)
      (fun state action => allowed state.1 action) (committed, .unread)
      later :=
    fun first action rest split state before =>
      guarded first action rest split state.1
        (Transition.run_of_run_observed before)
  have watchedRun := Transition.guarded_induction
    (fun _ state =>
      ((∃ known, Consistent settings numerics known state.1) ∧
        CallbacksClaimed state.1 ∧ CalledBackOnce state.1) ∧
        Watched requestId accounted state.1 state.2)
    ⟨⟨⟨known, consistent⟩, claimed, once⟩,
      .uncalled recorded first initially⟩ ?_ watchedGuarded ran
  · obtain ⟨⟨_, claimed, once⟩, watched⟩ := watchedRun
    cases watched with
    | uncalled recorded first _ =>
        exact absurd answered (claimed.not_callback recorded first)
    | called found stands =>
        have same := once _ _ _ _ _ _ _ found answered
        rw [same, answered] at found
        cases found
        exact stands
  · rintro _ ⟨state, read⟩ action next
      ⟨⟨⟨known, consistent⟩, claimed, once⟩, watched⟩ permitted taken
    obtain ⟨after, moved, rfl⟩ := Option.map_eq_some_iff.mp taken
    obtain ⟨_, _, follows⟩ := consistent.step moved
    have effect := step_effect moved
    exact ⟨⟨⟨_, follows⟩, claimed.step consistent.registered effect,
      once.step claimed effect⟩,
      watched.step consistent claimed once moved
        (kept consistent permitted moved) stepped⟩

/-! ## Estimates and measurements -/

/-- The request stands with its estimates, and has not been called back. -/
structure Estimated (settings : ServiceSettings) (service : Service σ)
    (requestId : ℕ) (assignment : Assignment) (tracked : TrackedRequest)
    (estimate baseline : CostFactors) : Prop where
  stored : service.app.engine.shared.assignments.lookup requestId =
    some assignment
  recorded : service.app.tracked.lookup requestId = some tracked
  uncalled : tracked.executorCallbackReceived = false
  carbonCost_eq : assignment.carbonCost =
    estimate.cost settings.engine.carbonCostDurationScale
  baselineCarbonCost_eq : tracked.baselineCarbonCost =
    baseline.cost settings.engine.carbonCostDurationScale

/-- An intensity and a duration that were measured. -/
structure Measurement where
  intensity : ℚ
  time : ℚ
  deriving DecidableEq, Repr

/-- The callback knows an intensity and a duration. -/
structure Measures (actual time : Option ℚ) (run : Measurement) : Prop where
  intensity_eq : actual = some run.intensity
  time_eq : time = some run.time

/-- The stored cost of a request. -/
def costOf (service : Service σ) (requestId : ℕ) : Option ℚ :=
  (service.app.engine.shared.assignments.lookup requestId).map
    Assignment.carbonCost

/-- The baseline cost of a request. -/
def baselineOf (service : Service σ) (requestId : ℕ) : Option ℚ :=
  (service.app.tracked.lookup requestId).map TrackedRequest.baselineCarbonCost

/-- The cost is that of what was measured, at the multiplier of the
estimate. -/
def PaysMeasured (settings : ServiceSettings) (paid : Option ℚ)
    (estimate : CostFactors) (run : Measurement) : Prop :=
  paid =
    some ((estimate.measured run.intensity run.time).cost
      settings.engine.carbonCostDurationScale)

instance (settings : ServiceSettings) (paid : Option ℚ)
    (estimate : CostFactors) (run : Measurement) :
    Decidable (PaysMeasured settings paid estimate run) :=
  inferInstanceAs (Decidable (_ = _))

section Answers

variable {carbonForecast : List ℚ} {startedAt : ℤ} {earlier later : List Action}
variable {committed final : Service σ} {estimate baseline : CostFactors}
variable {handlerId : ℕ} {body : ExecutorCallbackPayload}
variable {answer : Except ApiError (Option (String × CallerCallbackPayload))}

/-- The cost of a request after its callback, if no commit replaces its
estimate. -/
theorem costOf_of_answered
    (reached : Transition.run (Service.step settings numerics runtime)
      (Service.new settings carbonForecast startedAt) earlier =
        some committed)
    (estimated : Estimated settings committed requestId assignment tracked
      estimate baseline)
    (keeps : Transition.Guarded (Service.step settings numerics runtime)
      (KeepsCommit settings requestId) committed later)
    (ran : Transition.run (watchedStep settings numerics runtime requestId)
      (committed, .unread) later = some (final, readings))
    (answered : final.handlers.lookup handlerId =
      some (.callback requestId body (.answered answer))) :
    final.costOf requestId = some (assignment.correctedCost body readings) := by
  obtain ⟨stored, found, corrected⟩ := Watched.of_run
    (PriceStands requestId assignment) (KeepsCommit settings requestId)
    (fun consistent keeps taken aside body phase stands => by
      obtain ⟨stored, found, price⟩ := stands
      exact ⟨stored,
        lookup_of_keepsCommit consistent keeps taken aside found, price⟩)
    (fun body phase after stands taken => stands.step taken)
    reached estimated.recorded estimated.uncalled
    (fun body => ⟨assignment, estimated.stored, .refl assignment⟩) keeps ran
    answered
  rw [costOf, found, Option.map_some, corrected]

/-- The baseline of a request after its callback. -/
theorem baselineOf_of_answered
    (reached : Transition.run (Service.step settings numerics runtime)
      (Service.new settings carbonForecast startedAt) earlier =
        some committed)
    (estimated : Estimated settings committed requestId assignment tracked
      estimate baseline)
    (ran : Transition.run (watchedStep settings numerics runtime requestId)
      (committed, .unread) later = some (final, readings))
    (answered : final.handlers.lookup handlerId =
      some (.callback requestId body (.answered answer))) :
    final.baselineOf requestId =
      some (tracked.correctedBaseline body readings) := by
  obtain ⟨record, recorded, corrected⟩ := Watched.of_run
    (BaselineStands requestId tracked) (fun _ _ => True)
    (fun consistent _ taken aside body phase stands => by
      obtain ⟨record, recorded, baseline⟩ := stands
      obtain ⟨after, recordedAfter, same⟩ :=
        baseline_of_aside consistent taken aside recorded
      exact ⟨after, recordedAfter,
        baselineAccounted_of_sameBaseline baseline same⟩)
    (fun body phase after stands taken => stands.step taken)
    reached estimated.recorded estimated.uncalled
    (fun body => ⟨tracked, estimated.recorded, .refl tracked⟩)
    (fun _ _ _ _ _ _ => trivial) ran answered
  rw [baselineOf, recorded, Option.map_some, corrected]

end Answers

/-- After its callback, a request pays what was measured exactly when the
callback divided by the intensity and the duration of the estimate, if no
commit has replaced the estimate; its baseline does so whatever is
committed. -/
theorem corrected_costs_iff
    (settings : ServiceSettings) (numerics : NumericRuntime σ)
    (runtime : ServiceRuntime) (carbonForecast : List ℚ) (startedAt : ℤ)
    (earlier later : List Action) (committed final : Service σ)
    (readings : Readings) (requestId handlerId : ℕ)
    (body : ExecutorCallbackPayload)
    (answer : Except ApiError (Option (String × CallerCallbackPayload)))
    (assignment : Assignment) (tracked : TrackedRequest)
    (estimate baseline : CostFactors)
    (reached : Transition.run (Service.step settings numerics runtime)
      (Service.new settings carbonForecast startedAt) earlier =
        some committed)
    (estimated : Estimated settings committed requestId assignment tracked
      estimate baseline)
    (ran : Transition.run (watchedStep settings numerics runtime requestId)
      (committed, .unread) later = some (final, readings))
    (answered : final.handlers.lookup handlerId =
      some (.callback requestId body (.answered answer))) :
    (∀ run, Measures readings.slotActual body.executionTimeSec run →
      Transition.Guarded (Service.step settings numerics runtime)
          (KeepsCommit settings requestId) committed later →
        (PaysMeasured settings (final.costOf requestId) estimate run ↔
          estimate.RescalesTo settings.engine.carbonCostDurationScale
            readings.slotForecast assignment.flavourDuration run.intensity
            run.time)) ∧
      ∀ run,
        Measures readings.arrivalActual body.baselineExecutionTimeSec run →
          (PaysMeasured settings (final.baselineOf requestId) baseline run ↔
            baseline.RescalesTo settings.engine.carbonCostDurationScale
              readings.arrivalForecast tracked.baselineDuration run.intensity
              run.time) := by
  constructor
  · intro run measures keeps
    rw [PaysMeasured, costOf_of_answered reached estimated keeps ran answered,
      Option.some.injEq, Assignment.correctedCost, estimated.carbonCost_eq,
      measures.intensity_eq, measures.time_eq]
    exact estimate.rescaled_eq_measured_iff _ _ _ _ _
  · intro run measures
    rw [PaysMeasured, baselineOf_of_answered reached estimated ran answered,
      Option.some.injEq, TrackedRequest.correctedBaseline,
      estimated.baselineCarbonCost_eq, measures.intensity_eq,
      measures.time_eq]
    exact baseline.rescaled_eq_measured_iff _ _ _ _ _

/-! ## A forecast that moves -/

/-- The executor's result, with both durations. -/
def measuredResult : ExecutorCallbackPayload where
  success := true
  result := .object
    [("execution_time_sec", .number 2),
      ("baseline_execution_time_sec", .number 4)]
  error := none

/-- The request is dispatched, the provider announces its slot again with the
measured intensity, and the executor calls back. -/
def measuredRun (forecast : Option (List ForecastPoint)) : List Action :=
  dispatchTimes 8 ++
    .advanceSlot (providerMessage "announce" 0 (some ⟨0, 0, 3⟩) forecast) ::
      handleTimes 2 6 ++
    .callback 1 measuredResult :: handleTimes 3 7

/-- The request as it stands in slot zero, at the estimated durations. -/
def plainEstimate (duration : ℚ) : CostFactors where
  intensity := 1
  multiplier := 1
  duration := duration

/-- Does the request stand with its estimates, uncalled? -/
def standsEstimated (service : Service σ) : Bool :=
  ((service.app.engine.shared.assignments.lookup 1).bind fun assignment =>
    (service.app.tracked.lookup 1).map fun tracked =>
      decide (assignment.carbonCost = (plainEstimate 30).cost
          executorSettings.engine.carbonCostDurationScale) &&
        (decide (assignment.flavourDuration = 30) &&
        (decide (tracked.baselineCarbonCost = (plainEstimate 60).cost
          executorSettings.engine.carbonCostDurationScale) &&
        (decide (tracked.baselineDuration = 60) &&
        !tracked.executorCallbackReceived)))).getD false

private theorem estimated_of_stands (stands : service.standsEstimated = true) :
    ∃ assignment tracked,
      Estimated executorSettings service 1 assignment tracked
          (plainEstimate 30) (plainEstimate 60) ∧
        assignment.flavourDuration = 30 ∧ tracked.baselineDuration = 60 := by
  unfold standsEstimated at stands
  cases stored : service.app.engine.shared.assignments.lookup 1 with
  | none =>
      rw [stored] at stands
      cases stands
  | some assignment =>
      cases recorded : service.app.tracked.lookup 1 with
      | none =>
          rw [stored, recorded] at stands
          cases stands
      | some tracked =>
          rw [stored, recorded, Option.bind_some, Option.map_some,
            Option.getD_some, Bool.and_eq_true, Bool.and_eq_true,
            Bool.and_eq_true, Bool.and_eq_true, decide_eq_true_eq,
            decide_eq_true_eq, decide_eq_true_eq, decide_eq_true_eq,
            Bool.not_eq_true'] at stands
          obtain ⟨cost, duration, baselineCost, baselineDuration, uncalled⟩ :=
            stands
          exact ⟨assignment, tracked,
            ⟨stored, recorded, uncalled, cost, baselineCost⟩, duration,
            baselineDuration⟩

/-- Has the third handler answered the executor's result, with what it has
read? -/
def answersMeasured (service : Service σ) (readings : Readings) : Bool :=
  match service.handlers.lookup 3 with
  | some (.callback 1 body (.answered _)) =>
      decide (readings.slotActual = some 3) &&
        (decide (body.executionTimeSec = some 2) &&
        (decide (readings.arrivalActual = some 3) &&
        decide (body.baselineExecutionTimeSec = some 4)))
  | _ => false

private theorem measures_of_answers
    (answers : service.answersMeasured readings = true) :
    ∃ body answer,
      service.handlers.lookup 3 = some (.callback 1 body (.answered answer)) ∧
        Measures readings.slotActual body.executionTimeSec ⟨3, 2⟩ ∧
          Measures readings.arrivalActual body.baselineExecutionTimeSec
            ⟨3, 4⟩ := by
  unfold answersMeasured at answers
  split at answers
  · rename_i body answer found
    rw [Bool.and_eq_true, Bool.and_eq_true, Bool.and_eq_true,
      decide_eq_true_eq, decide_eq_true_eq, decide_eq_true_eq,
      decide_eq_true_eq] at answers
    exact ⟨body, answer, found, ⟨answers.1, answers.2.1⟩, answers.2.2.1,
      answers.2.2.2⟩
  · cases answers

/-- A run of the request up to the answer of its callback. -/
structure MeasuredOutcome (forecast : Option (List ForecastPoint))
    (committed final : Service Unit) (readings : Readings) : Prop where
  reached : Transition.run
    (Service.step executorSettings .least AppState.epochOnly)
    (Service.new executorSettings [1, 2, 2, 2] 0) scheduledRun =
      some committed
  estimated : ∃ assignment tracked,
    Estimated executorSettings committed 1 assignment tracked
        (plainEstimate 30) (plainEstimate 60) ∧
      assignment.flavourDuration = 30 ∧ tracked.baselineDuration = 60
  ran : Transition.run
    (watchedStep executorSettings .least AppState.epochOnly 1)
    (committed, .unread) (measuredRun forecast) = some (final, readings)
  keeps : Transition.Guarded
    (Service.step executorSettings .least AppState.epochOnly)
    (KeepsCommit executorSettings 1) committed (measuredRun forecast)
  measured : ∃ body answer,
    final.handlers.lookup 3 = some (.callback 1 body (.answered answer)) ∧
      Measures readings.slotActual body.executionTimeSec ⟨3, 2⟩ ∧
        Measures readings.arrivalActual body.baselineExecutionTimeSec ⟨3, 4⟩

private theorem measuredOutcome_of_computed
    (forecast : Option (List ForecastPoint))
    (check : Service Unit → Readings → Bool)
    (computed :
      ((Transition.run
          (Service.step executorSettings .least AppState.epochOnly)
          (Service.new executorSettings [1, 2, 2, 2] 0) scheduledRun).bind
            fun committed =>
        (Transition.run
          (watchedStep executorSettings .least AppState.epochOnly 1)
          (committed, .unread) (measuredRun forecast)).map fun final =>
            (committed.standsEstimated &&
              decide (Transition.Guarded
                (Service.step executorSettings .least AppState.epochOnly)
                (KeepsCommit executorSettings 1) committed
                (measuredRun forecast))) &&
              (final.1.answersMeasured final.2 && check final.1 final.2)) =
        some true) :
    ∃ committed final readings,
      MeasuredOutcome forecast committed final readings ∧
        check final readings = true := by
  obtain ⟨committed, reached, computed⟩ := Option.bind_eq_some_iff.mp computed
  obtain ⟨⟨final, readings⟩, ran, holds⟩ := Option.map_eq_some_iff.mp computed
  rw [Bool.and_eq_true, Bool.and_eq_true, Bool.and_eq_true,
    decide_eq_true_eq] at holds
  obtain ⟨⟨stands, keeps⟩, answers, checked⟩ := holds
  exact ⟨committed, final, readings,
    ⟨reached, estimated_of_stands stands, ran, keeps,
      measures_of_answers answers⟩,
    checked⟩

/-- With an unchanged forecast, the request pays what was measured. -/
theorem measuredRun_pays_measured :
    ∃ committed final readings,
      MeasuredOutcome none committed final readings ∧
        PaysMeasured executorSettings (final.costOf 1) (plainEstimate 30)
            ⟨3, 2⟩ ∧
          PaysMeasured executorSettings (final.baselineOf 1)
            (plainEstimate 60) ⟨3, 4⟩ := by
  obtain ⟨committed, final, readings, outcome, checked⟩ :=
    measuredOutcome_of_computed none
      (fun _ readings => decide (readings.slotForecast = some 1) &&
        decide (readings.arrivalForecast = some 1))
      (by decide +kernel)
  rw [Bool.and_eq_true, decide_eq_true_eq, decide_eq_true_eq] at checked
  obtain ⟨assignment, tracked, estimated, duration, baselineDuration⟩ :=
    outcome.estimated
  obtain ⟨body, answer, answered, measures, baselineMeasures⟩ :=
    outcome.measured
  obtain ⟨cost_iff, baseline_iff⟩ :=
    corrected_costs_iff executorSettings .least AppState.epochOnly
      [1, 2, 2, 2] 0 scheduledRun (measuredRun none) committed final readings
      1 3 body answer assignment tracked (plainEstimate 30)
      (plainEstimate 60) outcome.reached estimated outcome.ran answered
  refine ⟨committed, final, readings, outcome,
    (cost_iff ⟨3, 2⟩ measures outcome.keeps).mpr ?_,
    (baseline_iff ⟨3, 4⟩ baselineMeasures).mpr ?_⟩
  · rw [checked.1, duration]
    decide +kernel
  · rw [checked.2, baselineDuration]
    decide +kernel

/-- The provider doubles the forecast after the solve, and the request pays
half of what was measured, as does its baseline. -/
theorem measuredRun_underpays :
    ∃ committed final readings,
      MeasuredOutcome (some [⟨0, 2⟩]) committed final readings ∧
        ¬ PaysMeasured executorSettings (final.costOf 1) (plainEstimate 30)
            ⟨3, 2⟩ ∧
          ¬ PaysMeasured executorSettings (final.baselineOf 1)
            (plainEstimate 60) ⟨3, 4⟩ := by
  obtain ⟨committed, final, readings, outcome, checked⟩ :=
    measuredOutcome_of_computed (some [⟨0, 2⟩])
      (fun final _ =>
        !decide (PaysMeasured executorSettings (final.costOf 1)
            (plainEstimate 30) ⟨3, 2⟩) &&
          !decide (PaysMeasured executorSettings (final.baselineOf 1)
            (plainEstimate 60) ⟨3, 4⟩))
      (by decide +kernel)
  rw [Bool.and_eq_true, Bool.not_eq_true', Bool.not_eq_true',
    decide_eq_false_iff_not, decide_eq_false_iff_not] at checked
  exact ⟨committed, final, readings, outcome, checked⟩

end Service

end Carbonshift
