import Carbonshift.Service.Registration

/-!
# Closing a slot is a barrier

A close-slot request shuts the admission of its slot before it looks at the
slot.  So what its last look finds drained stays drained: nothing of the slot
is admitted any more, and locked assignments keep their slots.
-/

namespace Carbonshift

namespace Service

variable {σ : Type} {settings : ServiceSettings}
variable {numerics : NumericRuntime σ} {runtime : ServiceRuntime}
variable {service next : Service σ} {action : Action}
variable {known received : List Request}

/-- Everything that belongs to a closed slot is assigned and called back. -/
structure Drained (engineSlot : ℤ) (service : Service σ) : Prop where
  assigned : ∀ {requestId tracked},
    service.app.tracked.lookup requestId = some tracked →
    tracked.arrivalSlot ≤ engineSlot →
      requestId ∈ service.app.engine.shared.assignments
  calledBack : ∀ {requestId assignment},
    service.app.engine.shared.assignments.lookup requestId =
      some assignment →
    assignment.scheduledSlot ≤ engineSlot →
      ∃ tracked, service.app.tracked.lookup requestId = some tracked ∧
        tracked.executorCallbackReceived = true ∧
        tracked.status.isTerminal = true

/-! ## The last look -/

section Drain

variable {engineSlot : ℤ} {seen : Dictionary ℕ Assignment}
variable {tracked : Dictionary ℕ TrackedRequest}

/-- Nothing is missing when a close-slot request succeeds. -/
theorem nothing_missing_of_drainAnswer
    {body : CloseSlotBody} {timedOut : Bool} {response : CloseSlotResponse}
    (executor : settings.service.executorUrl.isSome = true)
    (answered : drainAnswer engineSlot seen tracked settings body timedOut =
      some (.ok response)) :
    unscheduledRequests engineSlot seen tracked = [] ∧
      callbacksPending engineSlot seen tracked = [] := by
  simp only [drainAnswer, executor, if_true] at answered
  split at answered
  · cases answered
  · split at answered
    · rename_i drained
      obtain ⟨unscheduled, _, pending⟩ := drained
      exact ⟨List.length_eq_zero_iff.mp unscheduled,
        List.length_eq_zero_iff.mp pending⟩
    · split at answered
      · cases answered
      · cases answered

theorem assigned_of_unscheduledRequests
    (nothing : unscheduledRequests engineSlot seen tracked = [])
    {requestId : ℕ} {request : TrackedRequest}
    (found : tracked.lookup requestId = some request)
    (arrived : request.arrivalSlot ≤ engineSlot) :
    ∃ assignment, seen.lookup requestId = some assignment := by
  by_contra unassigned
  have absent : (seen.lookup requestId).isNone = true := by
    cases looked : seen.lookup requestId with
    | none => rfl
    | some assignment => exact absurd ⟨assignment, looked⟩ unassigned
  have listed : (requestId, request) ∈
      unscheduledRequests engineSlot seen tracked := by
    refine List.mem_filter.mpr ⟨Dictionary.mem_toPairs_iff.mpr found, ?_⟩
    rw [Bool.and_eq_true]
    exact ⟨decide_eq_true arrived, absent⟩
  rw [nothing] at listed
  cases listed

theorem calledBack_of_callbacksPending
    (nothing : callbacksPending engineSlot seen tracked = [])
    {requestId : ℕ} {request : TrackedRequest} {assignment : Assignment}
    (found : tracked.lookup requestId = some request)
    (assigned : seen.lookup requestId = some assignment)
    (due : assignment.scheduledSlot ≤ engineSlot) :
    request.isCalledBack = true := by
  by_contra pending
  have listed : (requestId, assignment) ∈
      callbacksPending engineSlot seen tracked := by
    refine List.mem_filter.mpr ⟨List.mem_filter.mpr
      ⟨Dictionary.mem_toPairs_iff.mpr assigned, decide_eq_true due⟩, ?_⟩
    rw [found, Option.all_some, Bool.not_eq_true']
    exact eq_false_of_ne_true pending
  rw [nothing] at listed
  cases listed

end Drain

/-! ## Close-slot requests in progress -/

/-- Where a close-slot request of the next state comes from. -/
inductive CloseHistory (settings : ServiceSettings)
    (service next : Service σ) (handlerId : ℕ) (body : CloseSlotBody) :
    ClosePhase → Prop where
  | arrived {engineSlot : ℤ} :
      CloseHistory settings service next handlerId body
        (.translated engineSlot)
  | waited {phase : ClosePhase}
      (found : service.handlers.lookup handlerId = some (.close body phase)) :
      CloseHistory settings service next handlerId body phase
  | moved {before phase : ClosePhase}
      (found : service.handlers.lookup handlerId = some (.close body before))
      (effect : AppState.CloseEffect settings service.admissionHeld body
        service.app before phase next.app) :
      CloseHistory settings service next handlerId body phase

theorem StepEffect.closeHistory
    (effect : StepEffect settings numerics runtime service action next)
    {handlerId : ℕ} {body : CloseSlotBody} {phase : ClosePhase}
    (found : next.handlers.lookup handlerId = some (.close body phase)) :
    CloseHistory settings service next handlerId body phase := by
  cases effect.handlerHistory found with
  | arrived _ arrival =>
      generalize next.app = app at arrival
      cases arrival with
      | close _ => exact .arrived
  | waited before => exact .waited before
  | @moved earlier _ choice before taken =>
      obtain ⟨stepped, performed, moved⟩ := handlerStep_close_inv taken
      subst moved
      exact .moved before (AppState.closeStep_effect performed)

/-! ## The fence -/

/-- The admission fence moves up only, and only while no submission holds the
admission lock. -/
theorem StepEffect.closedThroughSlot
    (effect : StepEffect settings numerics runtime service action next) :
    next.app.closedThroughSlot = service.app.closedThroughSlot ∨
      (service.admissionHeld = false ∧
        service.app.closedThroughSlot ≤ next.app.closedThroughSlot) := by
  cases effect with
  | background _ records => exact Or.inl records.closedThroughSlot_eq
  | started arrival => exact Or.inl (by cases arrival <;> rfl)
  | @handled moving handler choice moved before taken =>
      cases handler with
      | submit submission phase =>
          obtain ⟨after, stepped, rfl⟩ := Option.map_eq_some_iff.mp taken
          have effect := AppState.submitStep_effect stepped
          generalize after.1 = reached, after.2 = app at effect ⊢
          cases effect with
          | quiet _ records _ => exact Or.inl records.closedThroughSlot_eq
          | fenced _ _ => exact Or.inl rfl
          | recorded => exact Or.inl rfl
          | queued => exact Or.inl rfl
          | marked => exact Or.inl rfl
      | callback requestId body phase =>
          obtain ⟨after, stepped, rfl⟩ := Option.map_eq_some_iff.mp taken
          have effect := AppState.callbackStep_effect stepped
          generalize after.2 = app at effect ⊢
          cases effect <;> exact Or.inl rfl
      | advance body phase =>
          obtain ⟨after, stepped, rfl⟩ := Option.map_eq_some_iff.mp taken
          exact Or.inl
            (AppState.advanceStep_effect stepped).1.closedThroughSlot_eq
      | close body phase =>
          obtain ⟨after, stepped, rfl⟩ := Option.map_eq_some_iff.mp taken
          have effect := AppState.closeStep_effect stepped
          generalize after.1 = reached, after.2 = app at effect ⊢
          cases effect with
          | quiet _ => exact Or.inl rfl
          | fenced free ahead => exact Or.inr ⟨free, ahead⟩
          | flushed => exact Or.inl rfl
          | looked => exact Or.inl rfl
          | answered _ => exact Or.inl rfl
          | again => exact Or.inl rfl
  | @dispatched choice =>
      refine Or.inl ?_
      dsimp only
      rcases dispatcherStep_tracked settings runtime choice service.app
          service.dispatcher with same | ⟨requestId, update, _, adjusted⟩
      · rw [same]
      · rw [adjusted]
        rfl

theorem StepEffect.closedThroughSlot_le
    (effect : StepEffect settings numerics runtime service action next) :
    service.app.closedThroughSlot ≤ next.app.closedThroughSlot := by
  rcases effect.closedThroughSlot with same | ⟨_, grows⟩
  · exact same.ge
  · exact grows

private theorem admissionHeld_of_lookup
    {handlerId : ℕ} {submission : Submission} {phase : SubmitPhase}
    {timing : RequestTiming}
    (found : service.handlers.lookup handlerId =
      some (.submit submission phase))
    (held : phase.heldTiming = some timing) :
    service.admissionHeld = true := by
  refine List.any_eq_true.mpr ⟨.submit submission phase, ?_, ?_⟩
  · exact Dictionary.mem_values_iff.mpr ⟨handlerId, found⟩
  · exact SubmitPhase.holdsAdmission_iff.mpr ⟨timing, held⟩

/-- What the admission lock and the fence guarantee together. -/
structure Fenced (service : Service σ) : Prop where
  /-- Who is being admitted has not arrived in a closed slot. -/
  admits : ∀ {handlerId submission phase timing},
    service.handlers.lookup handlerId = some (.submit submission phase) →
    phase.heldTiming = some timing →
      service.app.closedThroughSlot < timing.arrivalSlot
  closing : ∀ {handlerId body phase engineSlot},
    service.handlers.lookup handlerId = some (.close body phase) →
    phase.fencedSlot = some engineSlot →
      engineSlot ≤ service.app.closedThroughSlot
  /-- What a close-slot request has seen is still so. -/
  observed : ∀ {handlerId body engineSlot seen requestId assignment},
    service.handlers.lookup handlerId =
      some (.close body (.observed engineSlot seen)) →
    seen.lookup requestId = some assignment →
      ∃ now, service.app.engine.shared.assignments.lookup requestId =
          some now ∧ now.scheduledSlot = assignment.scheduledSlot
  drained : ∀ {handlerId body engineSlot response},
    service.handlers.lookup handlerId =
      some (.close body (.answered engineSlot (.ok response))) →
      Drained engineSlot service

namespace Fenced

theorem new (settings : ServiceSettings) (carbonForecast : List ℚ)
    (startedAt : ℤ) :
    Fenced (Service.new settings carbonForecast startedAt : Service σ) := by
  have none_started : ∀ handlerId handler,
      (Service.new settings carbonForecast startedAt :
        Service σ).handlers.lookup handlerId ≠ some handler :=
    fun handlerId handler found =>
      Option.some_ne_none handler (found.symm.trans (AList.lookup_empty _))
  exact ⟨fun found => absurd found (none_started _ _),
    fun found => absurd found (none_started _ _),
    fun found => absurd found (none_started _ _),
    fun found => absurd found (none_started _ _)⟩

private theorem admits_of_step
    (fenced : Fenced service) (manual : settings.manualClock = true)
    (effect : StepEffect settings numerics runtime service action next)
    {handlerId : ℕ} {submission : Submission} {phase : SubmitPhase}
    {timing : RequestTiming}
    (found : next.handlers.lookup handlerId = some (.submit submission phase))
    (held : phase.heldTiming = some timing) :
    next.app.closedThroughSlot < timing.arrivalSlot := by
  -- while somebody is being admitted, the fence does not move
  have unmoved : ∀ {submission phase timing},
      service.handlers.lookup handlerId = some (.submit submission phase) →
      phase.heldTiming = some timing →
        next.app.closedThroughSlot < timing.arrivalSlot := by
    intro submission phase timing before holding
    have above := fenced.admits before holding
    rcases effect.closedThroughSlot with same | ⟨free, _⟩
    · rwa [same]
    · rw [admissionHeld_of_lookup before holding] at free
      cases free
  cases effect.submitHistory found with
  | arrived _ _ _ => cases held
  | waited before => exact unmoved before held
  | @moved earlier _ before submitted =>
      generalize next.app = app at submitted unmoved ⊢
      cases submitted with
      | quiet _ _ recedes =>
          exact unmoved before (recedes.timing timing held)
      | fenced _ opened =>
          cases held
          exact opened manual
      | recorded => exact unmoved before held
      | queued => cases held
      | marked => cases held

private theorem closing_of_step
    (fenced : Fenced service)
    (effect : StepEffect settings numerics runtime service action next)
    {handlerId : ℕ} {body : CloseSlotBody} {phase : ClosePhase}
    {engineSlot : ℤ}
    (found : next.handlers.lookup handlerId = some (.close body phase))
    (closes : phase.fencedSlot = some engineSlot) :
    engineSlot ≤ next.app.closedThroughSlot := by
  have grows := effect.closedThroughSlot_le
  cases effect.closeHistory found with
  | arrived => cases closes
  | waited before => exact (fenced.closing before closes).trans grows
  | @moved earlier _ before moves =>
      generalize next.app = app at moves grows ⊢
      cases moves with
      | quiet open_ =>
          rw [open_] at closes
          cases closes
      | fenced _ _ =>
          cases closes
          exact le_rfl
      | flushed => exact (fenced.closing before closes).trans grows
      | looked => exact (fenced.closing before closes).trans grows
      | @answered slot seen timedOut answer _ =>
          cases answer with
          | error error => cases closes
          | ok response => exact (fenced.closing before closes).trans grows
      | again => exact (fenced.closing before closes).trans grows

/-- A record of a closed slot is not new. -/
theorem recorded_before
    (fenced : Fenced service) (records : RecordsMove service next)
    {engineSlot : ℤ} (closed : engineSlot ≤ service.app.closedThroughSlot)
    {requestId : ℕ} {after : TrackedRequest}
    (found : next.app.tracked.lookup requestId = some after)
    (arrived : after.arrivalSlot ≤ engineSlot) :
    ∃ before, service.app.tracked.lookup requestId = some before ∧
      before.arrivalSlot = after.arrivalSlot := by
  cases records with
  | same tracked_eq =>
      rw [tracked_eq] at found
      exact ⟨after, found, rfl⟩
  | @updated updatedId update follows tracked_eq =>
      rw [tracked_eq] at found
      by_cases here : requestId = updatedId
      · rw [here, Dictionary.lookup_adjust_self,
          Option.map_eq_some_iff] at found
        obtain ⟨before, there, rfl⟩ := found
        exact ⟨before, here ▸ there, (follows before).arrivalSlot_eq.symm⟩
      · rw [Dictionary.lookup_adjust_of_ne here] at found
        exact ⟨after, found, rfl⟩
  | @recorded _ submission timing _ _ _ costed _ tracked_eq =>
      rw [tracked_eq] at found
      by_cases here : requestId = submission.requestId
      · rw [here, AList.lookup_insert] at found
        cases found
        have above := fenced.admits costed rfl
        exact absurd (above.trans_le (arrived.trans closed)) (lt_irrefl _)
      · rw [AList.lookup_insert_ne here] at found
        exact ⟨after, found, rfl⟩

end Fenced

/-- What is drained stays drained. -/
theorem Drained.step {engineSlot : ℤ}
    (drained : Drained engineSlot service) (fenced : Fenced service)
    (closed : engineSlot ≤ service.app.closedThroughSlot)
    (locked : settings.engine.solver.dpLockFutureAssignments = true)
    (consistent : Consistent settings numerics known service)
    (effect : StepEffect settings numerics runtime service action next)
    (engine : EngineMove settings numerics service next received) :
    Drained engineSlot next := by
  have records := effect.recordsMove
  have settled := (consistent.settled locked).1
  obtain ⟨_, _, change⟩ := engine.assignmentsChange
  constructor
  · intro requestId tracked found arrived
    obtain ⟨before, recorded, arrival⟩ :=
      fenced.recorded_before records closed found arrived
    exact change.mem (drained.assigned recorded (arrival.le.trans arrived))
  · intro requestId assignment found due
    obtain ⟨tracked, recorded, arrived⟩ :=
      (consistent.move effect engine).tracked_of_assigned locked found
    obtain ⟨before, was, arrival⟩ :=
      fenced.recorded_before records closed recorded (arrived.trans due)
    have assigned := drained.assigned was
      (arrival.le.trans (arrived.trans due))
    obtain ⟨earlier, stored⟩ := Dictionary.exists_lookup_of_mem assigned
    obtain ⟨later, kept, sameSlot⟩ := settled.lookup_of_change change stored
    rw [found, Option.some.injEq] at kept
    rw [kept, sameSlot] at due
    obtain ⟨calledBack, there, ended⟩ := drained.calledBack stored due
    obtain ⟨after, followed, follows⟩ := consistent.registered.lookup records
      there
    exact ⟨after, followed, TrackedRequest.isCalledBack_iff.mp
      (follows.calledBack (TrackedRequest.isCalledBack_iff.mpr ended))⟩

/-- The last look of a successful request finds its slot drained. -/
private theorem drained_of_answer
    (fenced : Fenced service)
    (executor : settings.service.executorUrl.isSome = true)
    (locked : settings.engine.solver.dpLockFutureAssignments = true)
    (consistent : Consistent settings numerics known service)
    {handlerId : ℕ} {body : CloseSlotBody} {engineSlot : ℤ}
    {seen : Dictionary ℕ Assignment} {timedOut : Bool}
    {response : CloseSlotResponse}
    (found : service.handlers.lookup handlerId =
      some (.close body (.observed engineSlot seen)))
    (answered : drainAnswer engineSlot seen service.app.tracked settings body
      timedOut = some (.ok response)) :
    Drained engineSlot service := by
  obtain ⟨unscheduled, pending⟩ :=
    nothing_missing_of_drainAnswer executor answered
  constructor
  · intro requestId tracked recorded arrived
    obtain ⟨assignment, stored⟩ :=
      assigned_of_unscheduledRequests unscheduled recorded arrived
    obtain ⟨now, assigned, _⟩ := fenced.observed found stored
    exact Dictionary.mem_of_lookup assigned
  · intro requestId assignment assigned due
    obtain ⟨tracked, recorded, arrived⟩ :=
      consistent.tracked_of_assigned locked assigned
    obtain ⟨before, stored⟩ := assigned_of_unscheduledRequests unscheduled
      recorded (arrived.trans due)
    obtain ⟨now, assignedNow, sameSlot⟩ := fenced.observed found stored
    rw [assigned, Option.some.injEq] at assignedNow
    rw [assignedNow, sameSlot] at due
    have calledBack :=
      calledBack_of_callbacksPending pending recorded stored due
    exact ⟨tracked, recorded, TrackedRequest.isCalledBack_iff.mp calledBack⟩

namespace Fenced

private theorem observed_of_step
    (fenced : Fenced service)
    (locked : settings.engine.solver.dpLockFutureAssignments = true)
    (consistent : Consistent settings numerics known service)
    (effect : StepEffect settings numerics runtime service action next)
    (engine : EngineMove settings numerics service next received)
    {handlerId : ℕ} {body : CloseSlotBody} {engineSlot : ℤ}
    {seen : Dictionary ℕ Assignment} {requestId : ℕ} {assignment : Assignment}
    (found : next.handlers.lookup handlerId =
      some (.close body (.observed engineSlot seen)))
    (stored : seen.lookup requestId = some assignment) :
    ∃ now, next.app.engine.shared.assignments.lookup requestId = some now ∧
      now.scheduledSlot = assignment.scheduledSlot := by
  have settled := (consistent.settled locked).1
  obtain ⟨_, _, change⟩ := engine.assignmentsChange
  cases effect.closeHistory found with
  | waited before =>
      obtain ⟨earlier, assigned, sameSlot⟩ := fenced.observed before stored
      obtain ⟨now, kept, stays⟩ := settled.lookup_of_change change assigned
      exact ⟨now, kept, stays.trans sameSlot⟩
  | moved before moves =>
      generalize next.app = app at moves change ⊢
      cases moves with
      | quiet open_ => cases open_
      | looked => exact ⟨assignment, stored, rfl⟩

private theorem drained_of_step
    (fenced : Fenced service)
    (executor : settings.service.executorUrl.isSome = true)
    (locked : settings.engine.solver.dpLockFutureAssignments = true)
    (consistent : Consistent settings numerics known service)
    (effect : StepEffect settings numerics runtime service action next)
    (engine : EngineMove settings numerics service next received)
    {handlerId : ℕ} {body : CloseSlotBody} {engineSlot : ℤ}
    {response : CloseSlotResponse}
    (found : next.handlers.lookup handlerId =
      some (.close body (.answered engineSlot (.ok response)))) :
    Drained engineSlot next := by
  cases effect.closeHistory found with
  | waited before =>
      exact (fenced.drained before).step fenced (fenced.closing before rfl)
        locked consistent effect engine
  | moved before moves =>
      have drained : Drained engineSlot service := by
        clear found effect engine
        generalize next.app = app at moves
        cases moves with
        | quiet open_ => cases open_
        | answered drains =>
            exact drained_of_answer fenced executor locked consistent before
              drains
      have closed : engineSlot ≤ service.app.closedThroughSlot := by
        clear found effect engine
        generalize next.app = app at moves
        cases moves with
        | quiet open_ => cases open_
        | answered _ => exact fenced.closing before rfl
      exact drained.step fenced closed locked consistent effect engine

/-- Every step keeps the fence. -/
theorem step
    (fenced : Fenced service) (manual : settings.manualClock = true)
    (executor : settings.service.executorUrl.isSome = true)
    (locked : settings.engine.solver.dpLockFutureAssignments = true)
    (consistent : Consistent settings numerics known service)
    (effect : StepEffect settings numerics runtime service action next)
    (engine : EngineMove settings numerics service next received) :
    Fenced next where
  admits := fenced.admits_of_step manual effect
  closing := fenced.closing_of_step effect
  observed := fenced.observed_of_step locked consistent effect engine
  drained := fenced.drained_of_step executor locked consistent effect engine

end Fenced

/-! ## The barrier -/

/-- Consistent records behind the fence. -/
private structure Guarded (settings : ServiceSettings)
    (numerics : NumericRuntime σ) (service : Service σ) : Prop where
  consistent : ∃ known, Consistent settings numerics known service
  fenced : Fenced service

private theorem guarded_of_run
    (manual : settings.manualClock = true)
    (executor : settings.service.executorUrl.isSome = true)
    (locked : settings.engine.solver.dpLockFutureAssignments = true)
    {actions : List Action} (guarded : Guarded settings numerics service)
    (reached : Transition.run (Service.step settings numerics runtime) service
      actions = some next) :
    Guarded settings numerics next := by
  refine Transition.run_induction
    (fun _ state => Guarded settings numerics state) guarded ?_ reached
  rintro _ state action after ⟨⟨known, consistent⟩, fenced⟩ taken
  obtain ⟨received, engine, follows⟩ := consistent.step taken
  exact ⟨⟨_, follows⟩, fenced.step manual executor locked consistent
    (step_effect taken) engine⟩

/-- What has happened to a closed slot since it was closed. -/
private structure SinceClosed (closed final : Service σ) (handlerId : ℕ)
    (body : CloseSlotBody) (engineSlot : ℤ) (response : CloseSlotResponse) :
    Prop where
  answered : final.handlers.lookup handlerId =
    some (.close body (.answered engineSlot (.ok response)))
  nothingNew : ∀ {requestId tracked},
    final.app.tracked.lookup requestId = some tracked →
    tracked.arrivalSlot ≤ engineSlot →
      requestId ∈ closed.app.tracked

private theorem sinceClosed_of_run
    (manual : settings.manualClock = true)
    (executor : settings.service.executorUrl.isSome = true)
    (locked : settings.engine.solver.dpLockFutureAssignments = true)
    {actions : List Action} (guarded : Guarded settings numerics service)
    {handlerId : ℕ} {body : CloseSlotBody} {engineSlot : ℤ}
    {response : CloseSlotResponse}
    (answered : service.handlers.lookup handlerId =
      some (.close body (.answered engineSlot (.ok response))))
    (reached : Transition.run (Service.step settings numerics runtime) service
      actions = some next) :
    SinceClosed service next handlerId body engineSlot response := by
  have kept := Transition.run_induction
    (fun _ state => Guarded settings numerics state ∧
      SinceClosed service state handlerId body engineSlot response)
    ⟨guarded, answered, fun found _ => Dictionary.mem_of_lookup found⟩
    ?_ reached
  · exact kept.2
  · rintro _ state action after
      ⟨⟨⟨known, consistent⟩, fenced⟩, ⟨standing, nothingNew⟩⟩ taken
    obtain ⟨received, engine, follows⟩ := consistent.step taken
    have effect := step_effect taken
    refine ⟨⟨⟨_, follows⟩, fenced.step manual executor locked consistent
      effect engine⟩,
      consistent.registered.lookup_of_idle effect standing fun _ _ => rfl,
      ?_⟩
    intro requestId tracked found arrived
    obtain ⟨before, was, arrival⟩ := fenced.recorded_before
      effect.recordsMove (fenced.closing standing rfl) found arrived
    exact nothingNew was (arrival.le.trans arrived)

/-- Once a close-slot request has succeeded, its slot stays drained in every
later state, no request of the slot is admitted any more, and the admission
fence never moves back. -/
theorem close_slot_is_barrier
    (settings : ServiceSettings) (numerics : NumericRuntime σ)
    (runtime : ServiceRuntime) (carbonForecast : List ℚ) (startedAt : ℤ)
    (earlier later : List Action) (closed final : Service σ)
    (manual : settings.manualClock = true)
    (executor : settings.service.executorUrl.isSome = true)
    (locked : settings.engine.solver.dpLockFutureAssignments = true)
    (before : Transition.run (Service.step settings numerics runtime)
      (Service.new settings carbonForecast startedAt) earlier = some closed)
    (after : Transition.run (Service.step settings numerics runtime) closed
      later = some final) :
    closed.app.closedThroughSlot ≤ final.app.closedThroughSlot ∧
      ∀ handlerId body engineSlot response,
        closed.handlers.lookup handlerId =
            some (.close body (.answered engineSlot (.ok response))) →
          Drained engineSlot final ∧
            (∀ requestId tracked,
              final.app.tracked.lookup requestId = some tracked →
              tracked.arrivalSlot ≤ engineSlot →
                requestId ∈ closed.app.tracked) ∧
            ∀ submitId submission phase timing,
              final.handlers.lookup submitId =
                some (.submit submission phase) →
              phase.heldTiming = some timing →
                engineSlot < timing.arrivalSlot := by
  have guarded : Guarded settings numerics closed :=
    guarded_of_run manual executor locked
      ⟨⟨[], .new settings numerics carbonForecast startedAt⟩,
        .new settings carbonForecast startedAt⟩ before
  have finally_ := guarded_of_run manual executor locked guarded after
  refine ⟨?_, fun handlerId body engineSlot response answered => ?_⟩
  · exact Transition.run_induction
      (fun _ state => closed.app.closedThroughSlot ≤
        state.app.closedThroughSlot) le_rfl
      (fun _ _ _ _ grown taken =>
        grown.trans (step_effect taken).closedThroughSlot_le) after
  · have since := sinceClosed_of_run manual executor locked guarded answered
      after
    refine ⟨finally_.fenced.drained since.answered,
      fun _ _ found arrived => since.nothingNew found arrived, ?_⟩
    intro submitId submission phase timing found held
    exact (finally_.fenced.closing since.answered rfl).trans_lt
      (finally_.fenced.admits found held)

/-! ## A day of one request -/

/-- A manual clock with four slots of one minute, and an executor. -/
def executorSettings : ServiceSettings :=
  { AppState.manualSettings with
    engine :=
      { Config.default with
        totalSlots := 4
        solver := { SolverConfig.default with batchSize := 1 } }
    service :=
      { AppState.manualSettings.service with
        executorUrl := some "http://executor:9000" } }

/-- The provider's message about one of its slots. -/
def providerMessage (kind : String) (slot : ℤ)
    (observed : Option ObservedPoint) (forecast : Option (List ForecastPoint)) :
    AdvanceSlotBody where
  source := "provider"
  kind := kind
  currentSlot := some slot
  slotStartUtc := none
  slotMinutes := some 1
  observed := observed
  forecast := forecast

/-- A request with a slack in seconds. -/
def plainRequest (deadlineSeconds : ℚ) : SubmitRequestPayload where
  deadlineSeconds := deadlineSeconds
  callbackUrl := none
  payload := .null
  qosProfileId := none
  taskKind := none
  arrivalSlotGlobal := none

/-- So many steps of one handler. -/
def handleTimes (handlerId steps : ℕ) : List Action :=
  List.replicate steps (.handle handlerId ⟨0, false⟩)

/-- So many steps of a dispatcher whose messages are accepted. -/
def dispatchTimes (steps : ℕ) : List Action :=
  List.replicate steps (.dispatch ⟨0, .entryOrder, .accepted⟩)

/-- One pass of the main loop, and the worker it spawns. -/
def solveOnce (workerId : ℕ) : List Action :=
  [.loop (.readClock 0), .loop .storeSlot, .loop .readForecast,
    .loop (.selectProfile true), .claimBatch, .loop .finish,
    .work workerId .enter, .work workerId .observe,
    .work workerId (.solve .steady), .work workerId .commit,
    .release workerId]

/-- The slot is announced, and a request without slack is scheduled. -/
def scheduledRun : List Action :=
  .advanceSlot (providerMessage "announce" 0 none none) :: handleTimes 0 6 ++
    .submit (plainRequest 0) :: handleTimes 1 5 ++ solveOnce 0 ++
    handleTimes 1 2

/-- The request is run at once, and the slot is closed. -/
def closedRun : List Action :=
  scheduledRun ++ dispatchTimes 8 ++
    .callback 1 ⟨true, .object [], none⟩ :: handleTimes 2 6 ++
    .closeSlot ⟨0, 1⟩ :: handleTimes 3 5

/-- The next slot is entered, and another request is scheduled. -/
def nextSlotRun : List Action :=
  .advanceSlot (providerMessage "rollover" 1 none none) :: handleTimes 4 8 ++
    .submit (plainRequest 0) :: handleTimes 5 5 ++ solveOnce 1

/-- The slot that a handler has closed. -/
def closedSlot (service : Service σ) (handlerId : ℕ) : Option ℤ :=
  match service.handlers.lookup handlerId with
  | some (.close _ (.answered engineSlot (.ok _))) => some engineSlot
  | _ => none

private theorem lookup_of_closedSlot {handlerId : ℕ} {engineSlot : ℤ}
    (closes : closedSlot service handlerId = some engineSlot) :
    ∃ body response, service.handlers.lookup handlerId =
      some (.close body (.answered engineSlot (.ok response))) := by
  unfold closedSlot at closes
  split at closes
  · rename_i body slot response found
    cases closes
    exact ⟨body, response, found⟩
  · cases closes

private theorem closedRun_outcome :
    ∃ closed final,
      Transition.run (Service.step executorSettings .least AppState.epochOnly)
          (Service.new executorSettings [1, 2, 2, 2] 0) closedRun =
        some closed ∧
      closedSlot closed 3 = some 0 ∧
      Transition.run (Service.step executorSettings .least AppState.epochOnly)
          closed nextSlotRun = some final ∧
      final.app.engine.shared.assignments.keys.length = 2 := by
  have computed :
      ((Transition.run
          (Service.step executorSettings .least AppState.epochOnly)
          (Service.new executorSettings [1, 2, 2, 2] 0) closedRun).bind
            fun closed =>
        (Transition.run
          (Service.step executorSettings .least AppState.epochOnly)
          closed nextSlotRun).map fun final =>
            decide (closedSlot closed 3 = some 0) &&
              decide (final.app.engine.shared.assignments.keys.length = 2)) =
        some true := by
    decide +kernel
  obtain ⟨closed, reached, computed⟩ := Option.bind_eq_some_iff.mp computed
  obtain ⟨final, continued, holds⟩ := Option.map_eq_some_iff.mp computed
  rw [Bool.and_eq_true, decide_eq_true_eq, decide_eq_true_eq] at holds
  exact ⟨closed, final, reached, holds.1, continued, holds.2⟩

/-- The first slot of the run stays drained after the second request. -/
theorem closedRun_is_barrier :
    ∃ closed final : Service Unit,
      Transition.run (Service.step executorSettings .least AppState.epochOnly)
          (Service.new executorSettings [1, 2, 2, 2] 0) closedRun =
        some closed ∧
      Transition.run (Service.step executorSettings .least AppState.epochOnly)
          closed nextSlotRun = some final ∧
      closedSlot closed 3 = some 0 ∧ Drained 0 final := by
  obtain ⟨closed, final, reached, closes, continued, _⟩ := closedRun_outcome
  obtain ⟨body, response, answered⟩ := lookup_of_closedSlot closes
  have barrier := close_slot_is_barrier executorSettings .least
    AppState.epochOnly [1, 2, 2, 2] 0 closedRun nextSlotRun closed final rfl
    rfl rfl reached continued
  exact ⟨closed, final, reached, continued, closes,
    (barrier.2 3 body 0 response answered).1⟩

end Service

end Carbonshift
