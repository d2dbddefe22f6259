import Carbonshift.Service.Barrier

/-!
# Admitting a request

An admission takes one lock, and updates the baseline counts, the records and
the queue under it.  The executor payload of the caller is changed in between,
and a payload that is neither an object nor null makes that change panic.
-/

namespace Carbonshift

/-- What an admission gives the submission. -/
inductive AdmissionOutcome where
  | admitted (baselineCarbonCost : ℚ)
  | refused (error : String)
  | panicked
  deriving DecidableEq, Repr

/-- Where the submission goes on. -/
def AdmissionOutcome.phase : AdmissionOutcome → SubmitPhase
  | .admitted baselineCarbonCost => .polling baselineCarbonCost
  | .refused error => .answered (.error (.conflict error))
  | .panicked => .panicked

/-- Can a task be inserted into the payload? -/
def Json.takesTask : Json → Bool
  | .object _ => true
  | .null => true
  | _ => false

theorem withTask_isSome (taskKind : TaskKindId) (payload : Json) :
    (withTask taskKind payload).isSome = payload.takesTask := by
  cases payload with
  | object fields =>
      simp only [withTask]
      split <;> rfl
  | _ => rfl

theorem baselineFlavour_eq_none_iff {profile : QosProfile} :
    baselineFlavour profile = none ↔ profile.flavours = [] :=
  List.argmin_eq_none

namespace AppState

variable {σ : Type}

/-- Admit a request, from the lock to its release. -/
def admitRequest (settings : ServiceSettings) (now : ℚ)
    (submission : Submission) (timing : RequestTiming) (state : AppState σ) :
    AdmissionOutcome × AppState σ :=
  if state.admissionPoisoned then
    (.panicked, state)
  else if settings.manualClock = true ∧
      timing.arrivalSlot ≤ state.closedThroughSlot then
    (.refused
      ("arrival slot " ++ toString timing.arrivalSlot ++
        " has already been closed"),
      state)
  else
    let reserved := state.reserveBaselinePosition timing.arrivalSlot
    match baselineFlavour submission.profile with
    | none => (.panicked, reserved.2.poisonAdmission)
    | some accurate =>
        let baselineCarbonCost := baselineCost settings
          (state.engine.shared.capacityTiers.getD [])
          ((slotEntry state.carbonForecast timing.arrivalSlot).getD 0)
          reserved.1 accurate
        match withTask submission.profile.taskKind submission.body.payload with
        | none => (.panicked, reserved.2.poisonAdmission)
        | some payload =>
            let recorded :=
              { reserved.2 with
                tracked :=
                  state.tracked.insert submission.requestId
                    (submission.trackedRequest payload timing accurate
                      baselineCarbonCost) }
            (.admitted baselineCarbonCost,
              recorded.withShared
                (state.engine.shared.addRequest
                  (submission.engineRequest now timing)))

/-- So many steps of a submission without interruption. -/
def submitSteps (settings : ServiceSettings) (choice : HandlerChoice)
    (submission : Submission) :
    ℕ → SubmitPhase × AppState σ → SubmitPhase × AppState σ
  | 0, progress => progress
  | steps + 1, progress =>
      match progress.2.submitStep settings false choice submission
          progress.1 with
      | none => progress
      | some next => submitSteps settings choice submission steps next

/-- Without interruption, the critical sections are the admission. -/
theorem submitSteps_eq_admitRequest
    (settings : ServiceSettings) (choice : HandlerChoice)
    (submission : Submission) (timing : RequestTiming) (state : AppState σ) :
    submitSteps settings choice submission 4 (.timed timing, state) =
      ((state.admitRequest settings choice.now submission timing).1.phase,
        (state.admitRequest settings choice.now submission timing).2) := by
  unfold admitRequest
  simp only [submitSteps, submitStep]
  by_cases poisoned : state.admissionPoisoned = true
  · simp [poisoned, AdmissionOutcome.phase]
  · by_cases closed : settings.manualClock = true ∧
        timing.arrivalSlot ≤ state.closedThroughSlot
    · simp [poisoned, closed, AdmissionOutcome.phase]
    · simp only [poisoned, closed, if_false, Bool.false_eq_true]
      cases baselineFlavour submission.profile with
      | none => rfl
      | some accurate =>
          dsimp only
          cases withTask submission.profile.taskKind
              submission.body.payload with
          | none => rfl
          | some payload => rfl

/-! ## Atomicity -/

/-- The request is registered once: one record, one place at the end of the
queue, and one position of its arrival slot. -/
structure Registers (submission : Submission) (timing : RequestTiming)
    (before after : AppState σ) : Prop where
  absent : submission.requestId ∉ before.tracked
  recorded : ∃ tracked, tracked.arrivalSlot = timing.arrivalSlot ∧
    after.tracked = before.tracked.insert submission.requestId tracked
  queued : ∃ request, request.id = submission.requestId ∧
    after.engine.shared.pending = before.engine.shared.pending ++ [request]
  counted : ∀ slot,
    after.baselineSlotCounts.getD slot 0 =
      before.baselineSlotCounts.getD slot 0 +
        if slot = timing.arrivalSlot then 1 else 0

/-- Records, queue and baseline counts agree. -/
structure SameAdmissions (before after : AppState σ) : Prop where
  tracked_eq : after.tracked = before.tracked
  pending_eq : after.engine.shared.pending = before.engine.shared.pending
  baselineSlotCounts_eq :
    after.baselineSlotCounts = before.baselineSlotCounts

/-- The request is registered or refused without a trace, and the lock can be
taken again. -/
def AdmitsAtomically (settings : ServiceSettings) (now : ℚ)
    (submission : Submission) (timing : RequestTiming) (state : AppState σ) :
    Prop :=
  let admission := state.admitRequest settings now submission timing
  admission.2.admissionPoisoned = false ∧
    match admission.1 with
    | .admitted _ => Registers submission timing state admission.2
    | .refused _ => SameAdmissions state admission.2
    | .panicked => False

/-- The lock is sound, and the slot is closed or nothing panics: the profile
has a flavour, and the payload takes a task. -/
def AdmitsPayload (settings : ServiceSettings) (submission : Submission)
    (timing : RequestTiming) (state : AppState σ) : Prop :=
  state.admissionPoisoned = false ∧
    ((settings.manualClock = true ∧
        timing.arrivalSlot ≤ state.closedThroughSlot) ∨
      (submission.profile.flavours ≠ [] ∧
        submission.body.payload.takesTask = true))

/-- An admission of a request without a record is atomic exactly when nothing
in it panics. -/
theorem admitsAtomically_iff
    {settings : ServiceSettings} {now : ℚ} {submission : Submission}
    {timing : RequestTiming} {state : AppState σ}
    (absent : submission.requestId ∉ state.tracked) :
    AdmitsAtomically settings now submission timing state ↔
      AdmitsPayload settings submission timing state := by
  unfold AdmitsAtomically AdmitsPayload admitRequest
  by_cases poisoned : state.admissionPoisoned = true
  · simp [poisoned]
  · have sound : state.admissionPoisoned = false := by simpa using poisoned
    by_cases closed : settings.manualClock = true ∧
        timing.arrivalSlot ≤ state.closedThroughSlot
    · have same : SameAdmissions state state := ⟨rfl, rfl, rfl⟩
      simp [sound, closed, same]
    · rw [if_neg poisoned, if_neg closed]
      have takes := withTask_isSome submission.profile.taskKind
        submission.body.payload
      cases flavour : baselineFlavour submission.profile with
      | none =>
          have nothing := baselineFlavour_eq_none_iff.mp flavour
          refine iff_of_false (fun atomic => atomic.2) ?_
          rintro ⟨_, late | ⟨offered, _⟩⟩
          · exact closed late
          · exact offered nothing
      | some accurate =>
          have offered : submission.profile.flavours ≠ [] := by
            intro nothing
            rw [baselineFlavour_eq_none_iff.mpr nothing] at flavour
            cases flavour
          cases inserted : withTask submission.profile.taskKind
              submission.body.payload with
          | none =>
              rw [inserted] at takes
              refine iff_of_false (fun atomic => atomic.2) ?_
              rintro ⟨_, late | ⟨_, taken⟩⟩
              · exact closed late
              · rw [← takes] at taken
                cases taken
          | some payload =>
              rw [inserted] at takes
              refine iff_of_true ⟨sound, absent, ⟨_, rfl, rfl⟩, ⟨_, rfl, rfl⟩,
                fun slot => ?_⟩ ⟨sound, Or.inr ⟨offered, takes.symm⟩⟩
              dsimp only [withShared, reserveBaselinePosition]
              by_cases here : slot = timing.arrivalSlot
              · rw [here, Dictionary.getD_insert, if_pos rfl]
              · rw [Dictionary.getD_insert_of_ne here, if_neg here, add_zero]

end AppState

namespace Service

variable {σ : Type}

/-- In every state of a run, the admission of a request is atomic and leaves
the lock usable exactly when the lock is sound and, unless the slot is closed,
the profile has a flavour and the payload is an object or null. -/
theorem admission_is_atomic_iff
    (settings : ServiceSettings) (numerics : NumericRuntime σ)
    (runtime : ServiceRuntime) (carbonForecast : List ℚ) (startedAt : ℤ)
    (actions : List Action) (service : Service σ) (handlerId : ℕ)
    (submission : Submission) (timing : RequestTiming) (now : ℚ)
    (reached : Transition.run (Service.step settings numerics runtime)
      (Service.new settings carbonForecast startedAt) actions = some service)
    (admitting : service.handlers.lookup handlerId =
      some (.submit submission (.timed timing))) :
    service.app.AdmitsAtomically settings now submission timing ↔
      service.app.AdmitsPayload settings submission timing := by
  obtain ⟨known, consistent⟩ := Consistent.of_run reached
  exact AppState.admitsAtomically_iff
    (consistent.registered.unrecorded admitting rfl)

/-- A request without slack and with the given payload. -/
def requestWith (payload : Json) : SubmitRequestPayload :=
  { plainRequest 0 with payload := payload }

/-- The slot is announced, and a submission is about to be admitted. -/
def admittingRun (payload : Json) : List Action :=
  .advanceSlot (providerMessage "announce" 0 none none) :: handleTimes 0 6 ++
    .submit (requestWith payload) :: handleTimes 1 1

/-- The submission that a handler is about to admit. -/
def admittingSubmission (service : Service σ) (handlerId : ℕ) :
    Option (Submission × RequestTiming) :=
  match service.handlers.lookup handlerId with
  | some (.submit submission (.timed timing)) => some (submission, timing)
  | _ => none

private theorem lookup_of_admitting {service : Service σ} {handlerId : ℕ}
    {submission : Submission} {timing : RequestTiming}
    (admits : service.admittingSubmission handlerId =
      some (submission, timing)) :
    service.handlers.lookup handlerId =
      some (.submit submission (.timed timing)) := by
  unfold admittingSubmission at admits
  split at admits
  · rename_i found
    cases admits
    exact found
  · cases admits

/-- A null payload is admitted. -/
theorem admittingRun_admits :
    ∃ (service : Service Unit) (submission : Submission)
        (timing : RequestTiming),
      Transition.run (Service.step executorSettings .least AppState.epochOnly)
          (Service.new executorSettings [1, 2, 2, 2] 0)
          (admittingRun .null) = some service ∧
        service.app.AdmitsAtomically executorSettings 0 submission timing := by
  have computed :
      ((Transition.run
          (Service.step executorSettings .least AppState.epochOnly)
          (Service.new executorSettings [1, 2, 2, 2] 0 : Service Unit)
          (admittingRun .null)).bind fun service =>
        (service.admittingSubmission 1).map fun admitting =>
          !service.app.admissionPoisoned &&
            (!admitting.1.profile.flavours.isEmpty &&
              admitting.1.body.payload.takesTask)) = some true := by
    decide +kernel
  obtain ⟨service, reached, computed⟩ := Option.bind_eq_some_iff.mp computed
  obtain ⟨⟨submission, timing⟩, admits, holds⟩ :=
    Option.map_eq_some_iff.mp computed
  rw [Bool.and_eq_true, Bool.and_eq_true, Bool.not_eq_true',
    Bool.not_eq_true', List.isEmpty_eq_false_iff] at holds
  refine ⟨service, submission, timing, reached, ?_⟩
  exact (admission_is_atomic_iff executorSettings .least AppState.epochOnly
    [1, 2, 2, 2] 0 (admittingRun .null) service 1 submission timing 0 reached
    (lookup_of_admitting admits)).mpr
      ⟨holds.1, Or.inr ⟨holds.2.1, holds.2.2⟩⟩

/-- A text as payload panics after the baseline count has been raised, and the
admission lock is lost. -/
theorem admittingRun_panics :
    ∃ (service : Service Unit) (submission : Submission)
        (timing : RequestTiming),
      Transition.run (Service.step executorSettings .least AppState.epochOnly)
          (Service.new executorSettings [1, 2, 2, 2] 0)
          (admittingRun (.string "text")) = some service ∧
        service.handlers.lookup 1 =
          some (.submit submission (.timed timing)) ∧
        ¬ service.app.AdmitsAtomically executorSettings 0 submission
          timing := by
  have computed :
      ((Transition.run
          (Service.step executorSettings .least AppState.epochOnly)
          (Service.new executorSettings [1, 2, 2, 2] 0 : Service Unit)
          (admittingRun (.string "text"))).bind fun service =>
        (service.admittingSubmission 1).map fun admitting =>
          (service.app.admitRequest executorSettings 0 admitting.1
            admitting.2).2.admissionPoisoned) = some true := by
    decide +kernel
  obtain ⟨service, reached, computed⟩ := Option.bind_eq_some_iff.mp computed
  obtain ⟨⟨submission, timing⟩, admits, poisoned⟩ :=
    Option.map_eq_some_iff.mp computed
  refine ⟨service, submission, timing, reached, lookup_of_admitting admits,
    fun atomic => ?_⟩
  have sound := atomic.1
  rw [poisoned] at sound
  cases sound

end Service

end Carbonshift
