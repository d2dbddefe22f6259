import Carbonshift.Engine.Arrivals
import Carbonshift.Service.Records

/-!
# Registered requests

Every request that the engine has received was admitted once: it has a record
with its arrival slot, and no two submissions share an identifier.  So a run
of the service is a run of the engine on distinct requests.
-/

namespace Carbonshift

namespace Service

variable {σ : Type} {settings : ServiceSettings}
variable {numerics : NumericRuntime σ} {runtime : ServiceRuntime}
variable {service next : Service σ} {action : Action}

/-! ## Submissions in progress -/

/-- Where a submission of the next state comes from. -/
inductive SubmitHistory (settings : ServiceSettings)
    (service next : Service σ) (handlerId : ℕ) (submission : Submission) :
    SubmitPhase → Prop where
  | arrived
      (fresh : handlerId = service.started)
      (allocated : submission.requestId = service.app.nextId)
      (nextId_eq : next.app.nextId = service.app.nextId + 1) :
      SubmitHistory settings service next handlerId submission .received
  | waited {phase : SubmitPhase}
      (found : service.handlers.lookup handlerId =
        some (.submit submission phase)) :
      SubmitHistory settings service next handlerId submission phase
  | moved {before phase : SubmitPhase}
      (found : service.handlers.lookup handlerId =
        some (.submit submission before))
      (effect : AppState.SubmitEffect settings service.admissionHeld
        submission service.app before phase next.app) :
      SubmitHistory settings service next handlerId submission phase

theorem StepEffect.submitHistory
    (effect : StepEffect settings numerics runtime service action next)
    {handlerId : ℕ} {submission : Submission} {phase : SubmitPhase}
    (found : next.handlers.lookup handlerId =
      some (.submit submission phase)) :
    SubmitHistory settings service next handlerId submission phase := by
  cases effect.handlerHistory found with
  | arrived fresh arrival =>
      generalize reached : next.app = app at arrival
      cases arrival with
      | submit => exact .arrived fresh rfl (by rw [reached])
  | waited before => exact .waited before
  | @moved earlier _ choice before taken =>
      obtain ⟨stepped, performed, moved⟩ := handlerStep_submit_inv taken
      subst moved
      exact .moved before (AppState.submitStep_effect performed)

/-- Identifiers are only allocated, never returned. -/
theorem StepEffect.nextId_le
    (effect : StepEffect settings numerics runtime service action next) :
    service.app.nextId ≤ next.app.nextId := by
  cases effect with
  | background _ records => exact records.nextId_eq.ge
  | started arrival =>
      cases arrival with
      | submit => exact Nat.le_succ _
      | callback _ _ => exact le_rfl
      | advance _ => exact le_rfl
      | close _ => exact le_rfl
  | @handled moving handler choice moved before taken =>
      cases handler with
      | submit submission phase =>
          obtain ⟨after, stepped, rfl⟩ := Option.map_eq_some_iff.mp taken
          have effect := AppState.submitStep_effect stepped
          generalize after.1 = reached, after.2 = app at effect ⊢
          cases effect with
          | quiet _ records _ => exact records.nextId_eq.ge
          | fenced _ _ => exact le_rfl
          | recorded => exact le_rfl
          | queued => exact le_rfl
          | marked => exact le_rfl
      | callback requestId body phase =>
          obtain ⟨after, stepped, rfl⟩ := Option.map_eq_some_iff.mp taken
          have effect := AppState.callbackStep_effect stepped
          generalize after.2 = app at effect ⊢
          cases effect <;> exact le_rfl
      | advance body phase =>
          obtain ⟨after, stepped, rfl⟩ := Option.map_eq_some_iff.mp taken
          exact (AppState.advanceStep_effect stepped).1.nextId_eq.ge
      | close body phase =>
          obtain ⟨after, stepped, rfl⟩ := Option.map_eq_some_iff.mp taken
          exact (AppState.closeStep_effect stepped).keeps.2.2.ge
  | @dispatched choice =>
      rcases dispatcherStep_tracked settings runtime choice service.app
          service.dispatcher with same | ⟨requestId, update, _, adjusted⟩
      · exact (congrArg AppState.nextId same).ge
      · exact (congrArg AppState.nextId adjusted).ge

theorem StepEffect.handlers
    (effect : StepEffect settings numerics runtime service action next) :
    service.started ≤ next.started ∧
      ∀ {handlerId handler}, next.handlers.lookup handlerId = some handler →
        (∃ before, service.handlers.lookup handlerId = some before) ∨
          (handlerId = service.started ∧
            next.started = service.started + 1) := by
  cases effect with
  | background _ _ => exact ⟨le_rfl, fun found => Or.inl ⟨_, found⟩⟩
  | started _ =>
      refine ⟨Nat.le_succ _, fun {handlerId handler} found => ?_⟩
      by_cases fresh : handlerId = service.started
      · exact Or.inr ⟨fresh, rfl⟩
      · rw [start, AList.lookup_insert_ne fresh] at found
        exact Or.inl ⟨_, found⟩
  | @handled moving handler choice moved before taken =>
      refine ⟨le_rfl, fun {handlerId handler} found => ?_⟩
      by_cases own : handlerId = moving
      · exact Or.inl ⟨_, own ▸ before⟩
      · rw [AList.lookup_insert_ne own] at found
        exact Or.inl ⟨_, found⟩
  | dispatched => exact ⟨le_rfl, fun found => Or.inl ⟨_, found⟩⟩

/-! ## The invariant -/

/-- The engine's requests, the records and the submissions in progress
agree. -/
structure Registered (known : List Request) (service : Service σ) :
    Prop where
  started : ∀ {handlerId handler},
    service.handlers.lookup handlerId = some handler →
      handlerId < service.started
  allocated : ∀ {handlerId submission phase},
    service.handlers.lookup handlerId = some (.submit submission phase) →
      submission.requestId < service.app.nextId
  /-- No two submissions share an identifier. -/
  own : ∀ {left right submission other phase otherPhase},
    service.handlers.lookup left = some (.submit submission phase) →
    service.handlers.lookup right = some (.submit other otherPhase) →
    submission.requestId = other.requestId → left = right
  recorded : ∀ requestId ∈ service.app.tracked,
    requestId < service.app.nextId
  unrecorded : ∀ {handlerId submission phase},
    service.handlers.lookup handlerId = some (.submit submission phase) →
    phase.beforeRecord = true → submission.requestId ∉ service.app.tracked
  unqueued : ∀ {handlerId submission phase},
    service.handlers.lookup handlerId = some (.submit submission phase) →
    phase.beforeQueue = true → submission.requestId ∉ requestIds known
  timed : ∀ {handlerId submission timing cost},
    service.handlers.lookup handlerId =
      some (.submit submission (.tracked timing cost)) →
    ∃ tracked, service.app.tracked.lookup submission.requestId =
        some tracked ∧ tracked.arrivalSlot = timing.arrivalSlot
  admitted : ∀ request ∈ known,
    ∃ tracked, service.app.tracked.lookup request.id = some tracked ∧
      tracked.arrivalSlot = request.arrivalSlot
  distinct : (requestIds known).Nodup

namespace Registered

theorem new (settings : ServiceSettings) (carbonForecast : List ℚ)
    (startedAt : ℤ) :
    Registered [] (Service.new settings carbonForecast startedAt :
      Service σ) := by
  have none_started : ∀ handlerId handler,
      (Service.new settings carbonForecast startedAt :
        Service σ).handlers.lookup handlerId ≠ some handler :=
    fun handlerId handler found =>
      Option.some_ne_none handler (found.symm.trans (AList.lookup_empty _))
  refine ⟨fun found => absurd found (none_started _ _),
    fun found => absurd found (none_started _ _),
    fun found => absurd found (none_started _ _), ?_,
    fun found => absurd found (none_started _ _),
    fun found => absurd found (none_started _ _),
    fun found => absurd found (none_started _ _), ?_, List.nodup_nil⟩
  · intro requestId member
    exact absurd member (AList.notMem_empty requestId)
  · intro request member
    cases member

variable {known received : List Request}

theorem lookup
    (registered : Registered known service) (move : RecordsMove service next)
    {requestId : ℕ} {tracked : TrackedRequest}
    (found : service.app.tracked.lookup requestId = some tracked) :
    ∃ after, next.app.tracked.lookup requestId = some after ∧
      TrackedRequest.Follows tracked after :=
  move.lookup (fun costed => registered.unrecorded costed rfl) found

private theorem timed_of_lookup
    (registered : Registered known service) (move : RecordsMove service next)
    {requestId : ℕ} {slot : ℤ}
    (recorded : ∃ tracked, service.app.tracked.lookup requestId =
      some tracked ∧ tracked.arrivalSlot = slot) :
    ∃ tracked, next.app.tracked.lookup requestId = some tracked ∧
      tracked.arrivalSlot = slot := by
  obtain ⟨tracked, found, arrival⟩ := recorded
  obtain ⟨after, followed, follows⟩ := registered.lookup move found
  exact ⟨after, followed, follows.arrivalSlot_eq.trans arrival⟩

/-- A submission without a record gets one by its own step only. -/
private theorem unrecorded_of_move
    (registered : Registered known service) (move : RecordsMove service next)
    {handlerId : ℕ} {submission : Submission} {phase after : SubmitPhase}
    (found : service.handlers.lookup handlerId =
      some (.submit submission phase))
    (early : phase.beforeRecord = true)
    (afterwards : next.handlers.lookup handlerId =
      some (.submit submission after))
    (stillEarly : after.beforeRecord = true) :
    submission.requestId ∉ next.app.tracked := by
  have absent := registered.unrecorded found early
  cases move with
  | same tracked_eq => rwa [tracked_eq]
  | updated _ tracked_eq =>
      rw [tracked_eq, Dictionary.mem_adjust_iff]
      exact absent
  | @recorded recorder other _ _ _ _ costed recordedAfter tracked_eq =>
      rw [tracked_eq, AList.mem_insert]
      rintro (same | present)
      · have here := registered.own found costed same
        rw [here, recordedAfter] at afterwards
        cases afterwards
        cases stillEarly
      · exact absent present

private theorem recorded_of_move
    (registered : Registered known service) (move : RecordsMove service next)
    (grows : service.app.nextId ≤ next.app.nextId) :
    ∀ requestId ∈ next.app.tracked, requestId < next.app.nextId := by
  intro requestId member
  cases move with
  | same tracked_eq =>
      rw [tracked_eq] at member
      exact (registered.recorded requestId member).trans_le grows
  | updated _ tracked_eq =>
      rw [tracked_eq, Dictionary.mem_adjust_iff] at member
      exact (registered.recorded requestId member).trans_le grows
  | recorded costed _ tracked_eq =>
      rw [tracked_eq, AList.mem_insert] at member
      rcases member with rfl | present
      · exact (registered.allocated costed).trans_le grows
      · exact (registered.recorded requestId present).trans_le grows

/-- A submission of the next state was there before, or has just arrived. -/
private theorem submission_of_next
    (effect : StepEffect settings numerics runtime service action next)
    {handlerId : ℕ} {submission : Submission} {phase : SubmitPhase}
    (found : next.handlers.lookup handlerId =
      some (.submit submission phase)) :
    (∃ before, service.handlers.lookup handlerId =
        some (.submit submission before)) ∨
      (handlerId = service.started ∧
        submission.requestId = service.app.nextId ∧
        next.app.nextId = service.app.nextId + 1) := by
  cases effect.submitHistory found with
  | arrived fresh allocated nextId_eq => exact Or.inr ⟨fresh, allocated, nextId_eq⟩
  | waited before => exact Or.inl ⟨_, before⟩
  | moved before _ => exact Or.inl ⟨_, before⟩

private theorem own_of_step
    (registered : Registered known service)
    (effect : StepEffect settings numerics runtime service action next)
    {left right : ℕ} {submission other : Submission}
    {phase otherPhase : SubmitPhase}
    (first : next.handlers.lookup left = some (.submit submission phase))
    (second : next.handlers.lookup right = some (.submit other otherPhase))
    (same : submission.requestId = other.requestId) :
    left = right := by
  rcases submission_of_next effect first with
      ⟨before, found⟩ | ⟨fresh, allocated, _⟩ <;>
    rcases submission_of_next effect second with
      ⟨otherBefore, otherFound⟩ | ⟨otherFresh, otherAllocated, _⟩
  · exact registered.own found otherFound same
  · have below := registered.allocated found
    omega
  · have below := registered.allocated otherFound
    omega
  · rw [fresh, otherFresh]

theorem step
    (registered : Registered known service)
    (effect : StepEffect settings numerics runtime service action next)
    (engine : EngineMove settings numerics service next received) :
    Registered (known ++ received) next := by
  have records := effect.recordsMove
  have grows := effect.nextId_le
  obtain ⟨moreStarted, before⟩ := effect.handlers
  -- the identifiers handed over come from one submission past its record
  have handed : ∀ requestId ∈ requestIds received,
      ∃ handlerId submission timing cost,
        submission.requestId = requestId ∧
        service.handlers.lookup handlerId =
          some (.submit submission (.tracked timing cost)) ∧
        next.handlers.lookup handlerId =
          some (.submit submission (.polling cost)) := by
    intro requestId member
    cases engine with
    | same _ => cases member
    | acted _ _ => cases member
    | queued found after _ =>
        rw [requestIds, List.map_singleton, List.mem_singleton] at member
        exact ⟨_, _, _, _, member.symm, found, after⟩
  refine ⟨?_, ?_, own_of_step registered effect,
    registered.recorded_of_move records grows, ?_, ?_, ?_, ?_, ?_⟩
  · intro handlerId handler found
    rcases before found with ⟨earlier, there⟩ | ⟨fresh, startedMore⟩
    · exact (registered.started there).trans_le moreStarted
    · omega
  · intro handlerId submission phase found
    rcases submission_of_next effect found with ⟨earlier, there⟩ | fresh
    · exact (registered.allocated there).trans_le grows
    · omega
  · intro handlerId submission phase found early
    cases effect.submitHistory found with
    | arrived _ allocated nextId_eq =>
        intro member
        have below := registered.recorded_of_move records grows _ member
        have tracked : submission.requestId ∈ service.app.tracked := by
          cases records with
          | same tracked_eq => rwa [tracked_eq] at member
          | updated _ tracked_eq =>
              rwa [tracked_eq, Dictionary.mem_adjust_iff] at member
          | recorded costed _ tracked_eq =>
              rw [tracked_eq, AList.mem_insert] at member
              rcases member with same | present
              · have old := registered.allocated costed
                omega
              · exact present
        have old := registered.recorded _ tracked
        omega
    | waited there =>
        exact registered.unrecorded_of_move records there early found early
    | moved there submitted =>
        exact registered.unrecorded_of_move records there
          (submitted.beforeRecord early) found early
  · intro handlerId submission phase found early
    rw [requestIds, List.map_append, List.mem_append]
    rintro (old | new)
    · cases effect.submitHistory found with
      | arrived _ allocated _ =>
          obtain ⟨request, member, same⟩ := List.mem_map.mp old
          obtain ⟨tracked, recorded, _⟩ := registered.admitted request member
          have below := registered.recorded _
            (Dictionary.mem_of_lookup recorded)
          omega
      | waited there => exact registered.unqueued there early old
      | moved there submitted =>
          exact registered.unqueued there (submitted.beforeQueue early) old
    · obtain ⟨queuer, queued, timing, cost, same, there, after⟩ :=
        handed _ new
      have here := own_of_step registered effect found after same.symm
      rw [here, after] at found
      cases found
      cases early
  · intro handlerId submission timing cost found
    cases effect.submitHistory found with
    | waited there =>
        exact registered.timed_of_lookup records (registered.timed there)
    | moved there submitted =>
        obtain ⟨accurate, payload, _, inserted⟩ := submitted.tracked_inv
        refine ⟨submission.trackedRequest payload timing accurate cost, ?_, rfl⟩
        rw [inserted, AList.lookup_insert]
  · intro request member
    rcases List.mem_append.mp member with old | new
    · exact registered.timed_of_lookup records (registered.admitted request old)
    · cases engine with
      | same _ => cases new
      | acted _ _ => cases new
      | queued there _ _ =>
          rw [List.mem_singleton] at new
          subst new
          exact registered.timed_of_lookup records (registered.timed there)
  · rw [requestIds, List.map_append, List.nodup_append]
    refine ⟨registered.distinct, ?_, ?_⟩
    · cases engine with
      | same _ => exact List.nodup_nil
      | acted _ _ => exact List.nodup_nil
      | queued _ _ _ => exact List.nodup_singleton _
    · intro old member new there same
      obtain ⟨_, submission, timing, cost, handedId, found, _⟩ := handed new there
      refine registered.unqueued found rfl ?_
      rw [handedId, ← same]
      exact member

/-- A handler stays where it is if the step is not its own, or if it has
nothing left to do. -/
theorem lookup_of_idle
    (registered : Registered known service)
    (effect : StepEffect settings numerics runtime service action next)
    {handlerId : ℕ} {handler : Handler}
    (found : service.handlers.lookup handlerId = some handler)
    (idle : ∀ choice, action = .handle handlerId choice →
      handlerStep settings runtime service choice handler = none) :
    next.handlers.lookup handlerId = some handler := by
  cases effect with
  | background _ _ => exact found
  | started _ =>
      have earlier := (registered.started found).ne
      rw [start, AList.lookup_insert_ne earlier]
      exact found
  | @handled moving _ choice _ before taken =>
      have other : handlerId ≠ moving := by
        rintro rfl
        rw [found] at before
        cases before
        rw [idle choice rfl] at taken
        cases taken
      rw [AList.lookup_insert_ne other]
      exact found
  | dispatched => exact found

end Registered

/-! ## Runs of the engine inside the service -/

/-- The engine has been run on the known requests, and the records agree with
them. -/
structure Consistent (settings : ServiceSettings)
    (numerics : NumericRuntime σ) (known : List Request)
    (service : Service σ) : Prop where
  trace : ∃ actions,
    Engine.receivedBy actions = known ∧
      Transition.run (Engine.step settings.engine numerics)
        (Engine.new settings.engine) actions = some service.app.engine
  registered : Registered known service

namespace Consistent

variable {known : List Request}

theorem new (settings : ServiceSettings) (numerics : NumericRuntime σ)
    (carbonForecast : List ℚ) (startedAt : ℤ) :
    Consistent settings numerics []
      (Service.new settings carbonForecast startedAt) :=
  ⟨⟨[], rfl, rfl⟩, .new settings carbonForecast startedAt⟩

theorem move
    (consistent : Consistent settings numerics known service)
    (effect : StepEffect settings numerics runtime service action next)
    {received : List Request}
    (engine : EngineMove settings numerics service next received) :
    Consistent settings numerics (known ++ received) next := by
  refine ⟨?_, consistent.registered.step effect engine⟩
  obtain ⟨actions, received_eq, reached⟩ := consistent.trace
  cases engine with
  | same engine_eq =>
      refine ⟨actions, ?_, ?_⟩
      · rw [received_eq, List.append_nil]
      · rw [reached, engine_eq]
  | @acted action nothing taken =>
      refine ⟨actions ++ [action], ?_, ?_⟩
      · rw [Engine.receivedBy_concat, received_eq, nothing]
      · exact Transition.run_concat_eq_some_iff.mpr ⟨_, reached, taken⟩
  | queued _ _ taken =>
      refine ⟨_, ?_, Transition.run_concat_eq_some_iff.mpr
        ⟨_, reached, taken⟩⟩
      rw [Engine.receivedBy_concat, received_eq]
      rfl

/-- Every step keeps the agreement, with the requests it hands over. -/
theorem step
    (consistent : Consistent settings numerics known service)
    {action : Action}
    (taken : Service.step settings numerics runtime service action =
      some next) :
    ∃ received, EngineMove settings numerics service next received ∧
      Consistent settings numerics (known ++ received) next := by
  have effect := step_effect taken
  obtain ⟨received, engine⟩ := effect.engineMove
  exact ⟨received, engine, consistent.move effect engine⟩

theorem of_run
    {carbonForecast : List ℚ} {startedAt : ℤ} {actions : List Action}
    (reached : Transition.run (Service.step settings numerics runtime)
      (Service.new settings carbonForecast startedAt) actions =
        some service) :
    ∃ known, Consistent settings numerics known service :=
  Transition.run_induction
    (fun _ state => ∃ known, Consistent settings numerics known state)
    ⟨[], .new settings numerics carbonForecast startedAt⟩
    (fun _ _ _ _ ⟨_, consistent⟩ taken =>
      ⟨_, (consistent.step taken).choose_spec.2⟩)
    reached

/-- With locked future assignments, the engine is settled. -/
theorem settled
    (consistent : Consistent settings numerics known service)
    (locked : settings.engine.solver.dpLockFutureAssignments = true) :
    Engine.Settled settings.engine known service.app.engine ∧
      Engine.ServesKnown known service.app.engine := by
  obtain ⟨actions, received_eq, reached⟩ := consistent.trace
  have distinct := consistent.registered.distinct
  rw [← received_eq] at distinct ⊢
  exact Engine.servesKnown_of_run locked distinct reached

/-- The record of an assigned request, which has arrived by its slot. -/
theorem tracked_of_assigned
    (consistent : Consistent settings numerics known service)
    (locked : settings.engine.solver.dpLockFutureAssignments = true)
    {requestId : ℕ} {assignment : Assignment}
    (found : service.app.engine.shared.assignments.lookup requestId =
      some assignment) :
    ∃ tracked, service.app.tracked.lookup requestId = some tracked ∧
      tracked.arrivalSlot ≤ assignment.scheduledSlot := by
  obtain ⟨settled, serves⟩ := consistent.settled locked
  have sameId := settled.conserved.keyed found
  obtain ⟨request, isKnown, servesId, arrived⟩ :=
    serves assignment (Dictionary.mem_values_iff.mpr ⟨_, found⟩)
  obtain ⟨tracked, recorded, arrival⟩ :=
    consistent.registered.admitted request isKnown
  refine ⟨tracked, ?_, arrival.le.trans arrived⟩
  rw [← sameId, servesId]
  exact recorded

end Consistent

end Service

end Carbonshift
