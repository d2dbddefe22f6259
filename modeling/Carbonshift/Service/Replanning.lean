import Carbonshift.Engine.ReplanFrame
import Carbonshift.Service.AtMostOnce

/-!
# What happens to a committed assignment

The engine knows slots and profiles, but not what has been sent to the
executor.  A committed assignment is corrected by its own callback, and with
unlocked future assignments a batch of its profile may move it as long as it
is not in the past of that batch.
-/

namespace Carbonshift

namespace Service

variable {σ : Type} {settings : ServiceSettings}
variable {numerics : NumericRuntime σ} {runtime : ServiceRuntime}
variable {service next : Service σ} {action : Action}
variable {known : List Request}

/-- A commit of a batch that may replace the assignment. -/
def Replans (settings : ServiceSettings) (service : Service σ)
    (action : Action) (assignment : Assignment) : Prop :=
  ∃ workerId worker,
    action = .work workerId .commit ∧
      service.app.engine.workers.lookup workerId = some worker ∧
      Engine.Replannable settings.engine worker.toClaimedBatch assignment

private theorem assignments_of_engineStep
    {performed : Engine.Action} (uncorrected : performed.corrects = none)
    (quiet : performed.isCommit = false)
    (taken : engineStep settings numerics service performed = some next) :
    next.app.engine.shared.assignments =
      service.app.engine.shared.assignments := by
  obtain ⟨engine, moved, rfl⟩ := Option.map_eq_some_iff.mp taken
  exact Engine.assignments_of_quiet uncorrected quiet moved

private theorem assignments_of_loopStep {move : LoopMove}
    (taken : loopStep settings numerics service move = some next) :
    next.app.engine.shared.assignments =
      service.app.engine.shared.assignments := by
  cases move with
  | readClock passedMs =>
      simp only [loopStep] at taken
      split at taken
      · cases taken
        rfl
      · cases taken
  | storeSlot =>
      simp only [loopStep] at taken
      split at taken
      · obtain ⟨stored, moved, rfl⟩ := Option.map_eq_some_iff.mp taken
        have same := assignments_of_engineStep rfl rfl moved
        exact same
      · cases taken
  | readForecast =>
      simp only [loopStep] at taken
      split at taken
      · cases taken
        rfl
      · cases taken
  | selectProfile flush =>
      simp only [loopStep] at taken
      split at taken
      · exact assignments_of_engineStep rfl rfl taken
      · cases taken
  | finish =>
      simp only [loopStep] at taken
      split at taken
      · cases taken
        rfl
      · cases taken

/-- Only a callback among the handlers touches an assignment: that of its own
request. -/
private theorem lookup_of_handlerStep
    {handlerId : ℕ} {handler : Handler} {choice : HandlerChoice}
    {moved : Handler × AppState σ}
    (found : service.handlers.lookup handlerId = some handler)
    (taken : handlerStep settings runtime service choice handler =
      some moved)
    (requestId : ℕ) :
    moved.2.engine.shared.assignments.lookup requestId =
        service.app.engine.shared.assignments.lookup requestId ∨
      CallsBack service (.handle handlerId choice) requestId := by
  cases handler with
  | submit submission phase =>
      obtain ⟨after, stepped, rfl⟩ := Option.map_eq_some_iff.mp taken
      have effect := AppState.submitStep_effect stepped
      generalize after.1 = reached, after.2 = app at effect ⊢
      cases effect with
      | quiet engine_eq _ _ => exact Or.inl (by rw [engine_eq])
      | fenced _ _ => exact Or.inl rfl
      | recorded => exact Or.inl rfl
      | queued => exact Or.inl rfl
      | marked => exact Or.inl rfl
  | callback calledId body phase =>
      obtain ⟨after, stepped, rfl⟩ := Option.map_eq_some_iff.mp taken
      by_cases here : requestId = calledId
      · rw [here]
        exact Or.inr ⟨handlerId, choice, body, phase, rfl, found⟩
      · refine Or.inl ?_
        have effect := AppState.callbackStep_effect stepped
        generalize after.2 = app at effect ⊢
        cases effect with
        | quiet => rfl
        | errorCorrected =>
            dsimp only [AppState.withShared, Engine.withShared]
            rw [SharedState.correctAssignmentError_assignments,
              Dictionary.lookup_adjust_of_ne here]
        | costCorrected =>
            dsimp only [AppState.withShared, Engine.withShared]
            rw [SharedState.correctAssignmentCarbonCost_assignments,
              Dictionary.lookup_adjust_of_ne here]
        | finished => rfl
  | advance body phase =>
      obtain ⟨after, stepped, rfl⟩ := Option.map_eq_some_iff.mp taken
      refine Or.inl ?_
      dsimp only
      rcases (AppState.advanceStep_effect stepped).2 with same | ⟨_, stored⟩
      · rw [same]
      · rw [stored]
        rfl
  | close body phase =>
      obtain ⟨after, stepped, rfl⟩ := Option.map_eq_some_iff.mp taken
      refine Or.inl ?_
      dsimp only
      rw [(AppState.closeStep_effect stepped).keeps.1]

/-- A step keeps an assignment, corrects it as its callback, or commits a batch
that may replace it. -/
theorem lookup_of_step
    (kept : (Engine.replanFramePromise settings.engine σ).Kept
      service.app.engine)
    (distinct : service.app.engine.heldIds.Nodup)
    (taken : step settings numerics runtime service action = some next)
    {requestId : ℕ} {assignment : Assignment}
    (stored : service.app.engine.shared.assignments.lookup requestId =
      some assignment) :
    next.app.engine.shared.assignments.lookup requestId = some assignment ∨
      CallsBack service action requestId ∨
        Replans settings service action assignment := by
  have of_same : next.app.engine.shared.assignments =
      service.app.engine.shared.assignments →
      next.app.engine.shared.assignments.lookup requestId =
          some assignment ∨
        CallsBack service action requestId ∨
          Replans settings service action assignment := by
    intro same
    rw [same]
    exact Or.inl stored
  cases action with
  | registerProfile profile =>
      simp only [step] at taken
      split at taken <;>
      · cases taken
        exact of_same rfl
  | replaceCapacityTiers tiers =>
      simp only [step] at taken
      split at taken
      · cases taken
        exact of_same rfl
      · exact of_same (assignments_of_engineStep rfl rfl taken)
  | submit body =>
      simp only [step, AppState.receiveSubmission] at taken
      cases validated : validateSubmission settings runtime
          service.app.qosProfiles body with
      | error error =>
          rw [validated] at taken
          cases taken
          exact of_same rfl
      | ok profile =>
          rw [validated] at taken
          cases taken
          exact of_same rfl
  | callback calledId body =>
      simp only [step] at taken
      split at taken
      · cases taken
        exact of_same rfl
      · cases taken
        exact of_same rfl
      · rename_i app claimed
        cases taken
        refine of_same ?_
        unfold AppState.claimCallback at claimed
        split at claimed
        · cases claimed
        · split at claimed
          · cases claimed
          · cases claimed
            rfl
  | advanceSlot body =>
      simp only [step] at taken
      split at taken <;>
      · cases taken
        exact of_same rfl
  | closeSlot body =>
      simp only [step] at taken
      split at taken <;>
      · cases taken
        exact of_same rfl
  | handle handlerId choice =>
      obtain ⟨handler, found, moves⟩ := Option.bind_eq_some_iff.mp taken
      obtain ⟨moved, performed, rfl⟩ := Option.map_eq_some_iff.mp moves
      rcases lookup_of_handlerStep found performed requestId with
        same | callsBack
      · exact Or.inl (same.trans stored)
      · exact Or.inr (Or.inl callsBack)
  | loop move => exact of_same (assignments_of_loopStep taken)
  | claimBatch => exact of_same (assignments_of_engineStep rfl rfl taken)
  | work workerId move =>
      cases move with
      | commit =>
          obtain ⟨engine, moved, rfl⟩ := Option.map_eq_some_iff.mp taken
          obtain ⟨worker, found, _⟩ := Option.bind_eq_some_iff.mp moved
          refine (Engine.lookup_of_committing kept distinct found moved
            stored).imp_right fun replannable => Or.inr ?_
          exact ⟨workerId, worker, rfl, found, replannable⟩
      | enter => exact of_same (assignments_of_engineStep rfl rfl taken)
      | observe => exact of_same (assignments_of_engineStep rfl rfl taken)
      | solve oracle => exact of_same (assignments_of_engineStep rfl rfl taken)
      | requeue => exact of_same (assignments_of_engineStep rfl rfl taken)
      | mergeLearned => exact of_same (assignments_of_engineStep rfl rfl taken)
  | release workerId => exact of_same (assignments_of_engineStep rfl rfl taken)
  | dispatch choice =>
      cases taken
      refine of_same ?_
      rcases dispatcherStep_tracked settings runtime choice service.app
          service.dispatcher with same | ⟨_, _, _, adjusted⟩
      · dsimp only
        rw [same]
      · dsimp only
        rw [adjusted]
        rfl

/-- In every run, the workers propose nothing that they may not replace. -/
theorem Consistent.replanFrame
    (consistent : Consistent settings numerics known service) :
    (Engine.replanFramePromise settings.engine σ).Kept service.app.engine ∧
      service.app.engine.heldIds.Nodup := by
  obtain ⟨history, received_eq, run⟩ := consistent.trace
  have unique := consistent.registered.distinct
  rw [← received_eq] at unique
  exact Engine.replanFrame_of_run unique run

/-- In every run, a committed assignment changes only by its own callback, or
by a commit of a batch strategy with unlocked future assignments, for its own
profile and for a slot that is not after it.  Without replanning, no commit
changes it. -/
theorem assignments_replanned_in_profile_and_future
    (settings : ServiceSettings) (numerics : NumericRuntime σ)
    (runtime : ServiceRuntime) (carbonForecast : List ℚ) (startedAt : ℤ)
    (actions : List Action) (service next : Service σ) (action : Action)
    (reached : Transition.run (Service.step settings numerics runtime)
      (Service.new settings carbonForecast startedAt) actions = some service)
    (taken : step settings numerics runtime service action = some next)
    (requestId : ℕ) (assignment : Assignment)
    (stored : service.app.engine.shared.assignments.lookup requestId =
      some assignment) :
    next.app.engine.shared.assignments.lookup requestId = some assignment ∨
      CallsBack service action requestId ∨
        Replans settings service action assignment := by
  obtain ⟨known, consistent⟩ := Consistent.of_run reached
  obtain ⟨kept, distinct⟩ := consistent.replanFrame
  exact lookup_of_step kept distinct taken stored

/-- Future assignments join every solve. -/
def replanningSettings : ServiceSettings :=
  { executorSettings with
    engine :=
      { executorSettings.engine with
        solver :=
          { executorSettings.engine.solver with
            dpLockFutureAssignments := false } } }

/-- A request is scheduled and dispatched in slot zero, the provider forecasts
a dirty slot zero, and another request is solved. -/
def replannedRun : List Action :=
  scheduledRun ++ dispatchTimes 8 ++
    .advanceSlot (providerMessage "announce" 0 none (some [⟨0, 9⟩])) ::
      handleTimes 2 6 ++
    .submit (plainRequest 0) :: handleTimes 3 5 ++ (solveOnce 1).take 9

/-- What the records and the engine know about a request. -/
def standing (service : Service σ) (requestId : ℕ) :
    Option (RequestStatus × ℤ) :=
  (service.app.tracked.lookup requestId).bind fun tracked =>
    (service.app.engine.shared.assignments.lookup requestId).map
      fun assignment => (tracked.status, assignment.scheduledSlot)

private theorem standing_eq_some {requestId : ℕ} {status : RequestStatus}
    {slot : ℤ} (stands : service.standing requestId = some (status, slot)) :
    ∃ tracked assignment,
      service.app.tracked.lookup requestId = some tracked ∧
      tracked.status = status ∧
      service.app.engine.shared.assignments.lookup requestId =
        some assignment ∧
      assignment.scheduledSlot = slot := by
  obtain ⟨tracked, recorded, stands⟩ := Option.bind_eq_some_iff.mp stands
  obtain ⟨assignment, stored, same⟩ := Option.map_eq_some_iff.mp stands
  cases same
  exact ⟨tracked, assignment, recorded, rfl, stored, rfl⟩

private theorem replannedRun_outcome :
    ∃ service next : Service Unit,
      Transition.run
          (Service.step replanningSettings .least AppState.epochOnly)
          (Service.new replanningSettings [1, 2, 2, 2] 0) replannedRun =
        some service ∧
      step replanningSettings .least AppState.epochOnly service
        (.work 1 .commit) = some next ∧
      service.standing 1 = some (.dispatched, 0) ∧
      next.standing 1 = some (.dispatched, 1) := by
  have computed :
      ((Transition.run
          (Service.step replanningSettings .least AppState.epochOnly)
          (Service.new replanningSettings [1, 2, 2, 2] 0) replannedRun).bind
            fun service =>
        (step replanningSettings .least AppState.epochOnly service
          (.work 1 .commit)).map fun next =>
            decide (service.standing 1 = some (.dispatched, 0)) &&
              decide (next.standing 1 = some (.dispatched, 1))) =
        some true := by
    decide +kernel
  obtain ⟨service, reached, computed⟩ := Option.bind_eq_some_iff.mp computed
  obtain ⟨next, taken, holds⟩ := Option.map_eq_some_iff.mp computed
  rw [Bool.and_eq_true, decide_eq_true_eq, decide_eq_true_eq] at holds
  exact ⟨service, next, reached, taken, holds.1, holds.2⟩

/-- The commit of the second request is a replan of the first. -/
theorem replannedRun_replans :
    ∃ service next : Service Unit, ∃ assignment,
      Transition.run
          (Service.step replanningSettings .least AppState.epochOnly)
          (Service.new replanningSettings [1, 2, 2, 2] 0) replannedRun =
        some service ∧
      step replanningSettings .least AppState.epochOnly service
        (.work 1 .commit) = some next ∧
      Replans replanningSettings service (.work 1 .commit) assignment := by
  obtain ⟨service, next, reached, taken, before, after⟩ := replannedRun_outcome
  obtain ⟨_, assignment, _, _, stored, slot⟩ := standing_eq_some before
  obtain ⟨_, moved, _, _, storedAfter, slotAfter⟩ := standing_eq_some after
  refine ⟨service, next, assignment, reached, taken, ?_⟩
  rcases assignments_replanned_in_profile_and_future replanningSettings .least
      AppState.epochOnly [1, 2, 2, 2] 0 replannedRun service next
      (.work 1 .commit) reached taken 1 assignment stored with
    same | ⟨_, _, _, _, handled, _⟩ | replans
  · rw [storedAfter, Option.some.injEq] at same
    rw [same, slot] at slotAfter
    cases slotAfter
  · cases handled
  · exact replans

/-- A dispatched request is moved to another slot. -/
theorem replannedRun_moves_dispatched :
    ∃ service next : Service Unit, ∃ tracked assignment moved,
      Transition.run
          (Service.step replanningSettings .least AppState.epochOnly)
          (Service.new replanningSettings [1, 2, 2, 2] 0) replannedRun =
        some service ∧
      service.app.tracked.lookup 1 = some tracked ∧
      tracked.status = .dispatched ∧
      service.app.engine.shared.assignments.lookup 1 = some assignment ∧
      step replanningSettings .least AppState.epochOnly service
        (.work 1 .commit) = some next ∧
      next.app.engine.shared.assignments.lookup 1 = some moved ∧
      moved.scheduledSlot ≠ assignment.scheduledSlot := by
  obtain ⟨service, next, reached, taken, before, after⟩ := replannedRun_outcome
  obtain ⟨tracked, assignment, recorded, status, stored, slot⟩ :=
    standing_eq_some before
  obtain ⟨_, moved, _, _, storedAfter, slotAfter⟩ := standing_eq_some after
  refine ⟨service, next, tracked, assignment, moved, reached, recorded, status,
    stored, taken, storedAfter, ?_⟩
  rw [slot, slotAfter]
  decide

end Service

end Carbonshift
