import Carbonshift.Execution.Deliveries

/-!
# Completed requests have been run

A request is completed by the callback of its job alone, as long as nobody else
speaks for the executor.  So its job was run once, for what the client has
submitted, and the record shows what the run has measured.
-/

namespace Carbonshift

namespace Executor

namespace ExecutorState

variable {ι κ ω : Type} {state next : ExecutorState ι κ ω}
variable {journal : Journal ι κ} {finished : List String}

/-- The worker has finished jobs that it has taken up, each of them once, and
not the one at hand. -/
structure FinishesOnce (state : ExecutorState ι κ ω) (journal : Journal ι κ)
    (finished : List String) : Prop where
  started : ∀ requestId ∈ finished, requestId ∈ journal.started
  nodup : finished.Nodup
  running : ∀ reference, state.worker = .running reference →
    ∃ data, state.queue.data[reference]? = some data ∧
      data.requestId ∈ journal.started ∧ data.requestId ∉ finished

theorem finishesOnce_new (clock : VirtualClock) :
    FinishesOnce (new clock : ExecutorState ι κ ω) ⟨[], []⟩ [] where
  started _ member := nomatch member
  nodup := List.nodup_nil
  running _ hand := nomatch hand

section Steps

variable [BEq ι] [BEq κ] [EmptyCollection κ] {formats : Formats}
variable {action : Action ι κ ω}

/-- A job that the worker runs has been at hand before. -/
theorem worker_of_running {reference : ℕ}
    (taken : step formats state action = some next)
    (running : next.worker = .running reference) :
    state.worker = .running reference ∨ state.worker = .popped reference := by
  cases action with
  | submit dispatch generated wall =>
      cases taken
      exact Or.inl running
  | enqueue submissionId wall =>
      simp only [step] at taken
      split at taken <;> cases taken
      exact Or.inl running
  | advanceSlot body =>
      simp only [step] at taken
      split at taken <;> cases taken <;> exact Or.inl running
  | readClock wall =>
      simp only [step] at taken
      split at taken <;> cases taken
      cases running
  | pop =>
      simp only [step] at taken
      split at taken
      · split at taken <;> cases taken <;> cases running
      · cases taken
  | wake =>
      simp only [step] at taken
      split at taken <;> cases taken
      cases running
  | start wall =>
      simp only [step] at taken
      split at taken
      · rename_i popped hand
        cases taken
        cases running
        exact Or.inr hand
      · cases taken
  | finish outcome wall =>
      simp only [step] at taken
      split at taken <;> cases taken
      cases running

private theorem getElem?_of_prefix {β : Type} {before after : List β}
    (more : before <+: after) {place : ℕ} {entry : β}
    (stored : before[place]? = some entry) : after[place]? = some entry := by
  obtain ⟨inside, same⟩ := List.getElem?_eq_some_iff.mp stored
  rw [List.prefix_iff_getElem?.mp more place inside, same]

/-- A step finishes nothing twice. -/
theorem FinishesOnce.step (once : FinishesOnce state journal finished)
    (orderly : Orderly state journal)
    (taken : ExecutorState.step formats state action = some next) :
    FinishesOnce next (observe formats state action journal) finished := by
  have more := (step_calls taken).data_grows
  unfold observe
  rw [taken]
  refine ⟨fun requestId member =>
    List.mem_append_left _ (once.started requestId member), once.nodup,
    fun reference running => ?_⟩
  rcases worker_of_running taken running with before | hand
  · obtain ⟨data, stored, started, unfinished⟩ :=
      once.running reference before
    exact ⟨data, getElem?_of_prefix more stored,
      List.mem_append_left _ started, unfinished⟩
  · obtain ⟨data, stored⟩ : ∃ data, state.queue.data[reference]? = some data :=
      ⟨_, List.getElem?_eq_getElem (orderly.inside reference (Or.inr hand))⟩
    have fresh := orderly.fresh reference data (Or.inr hand) stored
    have still := getElem?_of_prefix more stored
    refine ⟨data, still, List.mem_append_right _ ?_,
      fun done => fresh (once.started _ done)⟩
    unfold takenUp
    rw [hand, running]
    dsimp only
    rw [still]
    exact List.mem_singleton_self _

/-- The worker finishes the job at hand. -/
theorem FinishesOnce.finish (once : FinishesOnce state journal finished)
    (orderly : Orderly state journal) {outcome : Except String ω} {wall : ℤ}
    {reference : ℕ} {data : JobData ι κ}
    (running : state.worker = .running reference)
    (stored : state.queue.data[reference]? = some data)
    (taken : ExecutorState.step formats state (.finish outcome wall) =
      some next) :
    FinishesOnce next (observe formats state (.finish outcome wall) journal)
      (finished ++ [data.requestId]) := by
  have moved := once.step orderly taken
  obtain ⟨own, held, started, unfinished⟩ := once.running reference running
  rw [stored, Option.some.injEq] at held
  subst held
  refine ⟨fun requestId member => ?_, ?_, fun other again => ?_⟩
  · rcases List.mem_append.mp member with earlier | last
    · exact moved.started requestId earlier
    · rw [List.mem_singleton.mp last]
      unfold observe
      rw [taken]
      exact List.mem_append_left _ started
  · exact List.nodup_append.mpr ⟨once.nodup, List.nodup_singleton _,
      fun left member right last => by
        rintro rfl
        exact unfinished (List.mem_singleton.mp last ▸ member)⟩
  · simp only [ExecutorState.step, running] at taken
    cases taken
    cases again

end Steps

end ExecutorState

end Executor

open Executor (Dispatch JobData TaskKind TaskOutcome)

namespace Execution

namespace System

variable {σ ι : Type} [DecidableEq ι] {setup : Setup σ ι}
variable {system next : System σ ι} {action : Action ι}

/-! ## Where jobs come from -/

/-- Nobody else speaks for the two programs: other clients of the executor do
not name the callbacks of the service, and other callbacks are turned away. -/
def Trusted (setup : Setup σ ι) : Action ι → Prop
  | .executor (.submit dispatch _ _) =>
      ∀ requestId, dispatch.callbackUrl ≠
        some (callbackAddress setup.settings requestId)
  | .callback token _ _ => requireHeader setup.executorToken token = false
  | _ => True

/-- A call or a job with a callback of the service stands for a message of its
request. -/
structure Traced (setup : Setup σ ι) (system : System σ ι) : Prop where
  due : ∀ {submissionId dispatch named executeAt},
    system.executor.submissions.lookup submissionId =
        some (.arrived dispatch named executeAt) →
      (dispatch.executeAt.all fun provided => executeAt == provided) = true
  calls : ∀ {submissionId dispatch named executeAt requestId},
    system.executor.submissions.lookup submissionId =
        some (.arrived dispatch named executeAt) →
      dispatch.callbackUrl =
          some (callbackAddress setup.settings requestId) →
        named = toString requestId ∧ system.Asked setup requestId dispatch
  jobs : ∀ {data requestId}, data ∈ system.executor.queue.data →
    data.callbackUrl = some (callbackAddress setup.settings requestId) →
      data.requestId = toString requestId ∧
        ∃ dispatch, system.Asked setup requestId dispatch ∧
          data.sameDispatch dispatch = true

omit [DecidableEq ι] in
theorem callbackUrl_of_read {message : ExecutorDispatchPayload}
    {dispatch : Dispatch ι JobContext}
    (read : dispatchFromCarbonshift setup.reading message = .ok dispatch) :
    dispatch.callbackUrl = some message.callbackUrl := by
  unfold dispatchFromCarbonshift at read
  split at read
  · rename_i fields executeAt _ _
    dsimp only at read
    split at read
    · cases read
    · cases executeAt with
      | naive => cases read
      | aware instant =>
          cases read
          rfl
  · cases read

namespace Traced

theorem new (setup : Setup σ ι) (carbonForecast : List ℚ) (startedAt : ℤ)
    (clock : Executor.VirtualClock) :
    Traced setup (System.new setup carbonForecast startedAt clock) where
  due found := absurd (found.symm.trans (AList.lookup_empty _))
    (Option.some_ne_none _)
  calls found := absurd (found.symm.trans (AList.lookup_empty _))
    (Option.some_ne_none _)
  jobs member := nomatch member

/-- The service only asks for more. -/
private theorem of_service (traced : Traced setup system)
    {service : Service σ}
    (more : system.service.exchange <+: service.exchange) :
    Traced setup { system with service := service } := by
  have extends_ : Extends system { system with service := service } :=
    ⟨more, List.prefix_refl _⟩
  refine ⟨traced.due, fun found names => ?_, fun member names => ?_⟩
  · obtain ⟨same, asked⟩ := traced.calls found names
    exact ⟨same, asked.of_extends extends_⟩
  · obtain ⟨same, dispatch, asked, stands⟩ := traced.jobs member names
    exact ⟨same, dispatch, asked.of_extends extends_, stands⟩

/-- A step of the executor; a submission with a callback of the service has to
stand for a message. -/
private theorem of_executor (traced : Traced setup system)
    {performed : Executor.Action ι JobContext Json}
    {executor : Executor.ExecutorState ι JobContext Json}
    (own : ∀ dispatch generated wall requestId,
      performed = .submit dispatch generated wall →
        dispatch.callbackUrl =
            some (callbackAddress setup.settings requestId) →
          dispatch.requestIdOr generated = toString requestId ∧
            system.Asked setup requestId dispatch)
    (calls : Executor.ExecutorState.CallEffect setup.formats system.executor
      performed executor) :
    Traced setup (system.withExecutor setup performed executor) := by
  cases calls with
  | same submissions_eq _ data_eq =>
      refine ⟨fun found => ?_, fun found names => ?_, fun member names => ?_⟩
      · exact traced.due (submissions_eq ▸ found)
      · exact traced.calls (submissions_eq ▸ found) names
      · exact traced.jobs (data_eq ▸ member) names
  | @arrived dispatch generated wall =>
      have given : (dispatch.executeAt.all fun provided =>
          dispatch.executeAt.getD (system.executor.clock.now wall) ==
            provided) = true := by
        cases dispatch.executeAt with
        | none => rfl
        | some provided => exact beq_self_eq_true provided
      refine ⟨fun {submissionId _ _ _} found => ?_,
        fun {submissionId _ _ _ _} found names => ?_, traced.jobs⟩
      · by_cases last : submissionId = system.executor.received
        · subst last
          cases (AList.lookup_insert _).symm.trans found
          exact given
        · exact traced.due
            ((AList.lookup_insert_ne last).symm.trans found)
      · by_cases last : submissionId = system.executor.received
        · subst last
          cases (AList.lookup_insert _).symm.trans found
          exact own dispatch generated wall _ rfl names
        · exact traced.calls
            ((AList.lookup_insert_ne last).symm.trans found) names
  | @answered answeredId wall dispatch named executeAt there =>
      refine ⟨fun {submissionId _ _ _} found => ?_,
        fun {submissionId _ _ _ _} found names => ?_,
        fun member names => ?_⟩
      · by_cases same : submissionId = answeredId
        · subst same
          cases (AList.lookup_insert _).symm.trans found
        · exact traced.due ((AList.lookup_insert_ne same).symm.trans found)
      · by_cases same : submissionId = answeredId
        · subst same
          cases (AList.lookup_insert _).symm.trans found
        · exact traced.calls
            ((AList.lookup_insert_ne same).symm.trans found) names
      · rcases Executor.JobQueue.mem_data_of_submit (traced.due there)
          member with earlier | ⟨called, names_eq, stands⟩
        · exact traced.jobs earlier names
        · obtain ⟨same, asked⟩ :=
            traced.calls there (names_eq.symm.trans names)
          exact ⟨called.trans same, dispatch, asked, stands⟩

/-- Every trusted step keeps the traces. -/
theorem step (traced : Traced setup system)
    (speaks : Service.SendsRecorded setup.settings system.service)
    (trusted : Trusted setup action)
    (effect : Effect setup system action next) : Traced setup next := by
  cases effect with
  | refused => exact traced
  | service _ taken =>
      exact traced.of_service (Service.step_effect taken).exchange_grows
  | calledBack _ taken =>
      exact traced.of_service (Service.step_effect taken).exchange_grows
  | executor _ taken =>
      refine traced.of_executor ?_ (Executor.ExecutorState.step_calls taken)
      rintro dispatch generated wall requestId rfl names
      exact absurd names (trusted requestId)
  | @delivered place generated wall message dispatch executor sent read
      taken =>
      have moved := traced.of_executor ?_
        (Executor.ExecutorState.step_calls taken)
      · exact ⟨moved.due, moved.calls, moved.jobs⟩
      · rintro submitted _ _ requestId ⟨⟩ names
        have posted := List.mem_of_getElem? sent
        rw [callbackUrl_of_read read, Option.some.injEq,
          (speaks.sent posted).callbackUrl_eq] at names
        have same := callbackAddress_injective names
        rw [requestIdOr_dispatch read, same]
        exact ⟨rfl, message, posted, same, read⟩
  | finished _ _ taken =>
      have moved := traced.of_executor (fun _ _ _ _ same => by cases same)
        (Executor.ExecutorState.step_calls taken)
      exact ⟨moved.due, moved.calls, moved.jobs⟩

end Traced

/-! ## The invariant -/

/-- The worker has posted the callback to the request. -/
def Posted (setup : Setup σ ι) (system : System σ ι) (requestId : ℕ)
    (body : ExecutorCallbackPayload) : Prop :=
  ∃ run ∈ system.runs,
    run.callbackUrl = some (callbackAddress setup.settings requestId) ∧
      body = run.callbackPayload

/-- The identifiers of the jobs that the worker has finished. -/
def finishedIds (system : System σ ι) : List String :=
  system.runs.map fun run => run.data.requestId

structure Accounted (setup : Setup σ ι) (system : System σ ι) : Prop where
  linked : Linked setup system
  traced : Traced setup system
  finishes : system.executor.FinishesOnce system.journal system.finishedIds
  finished : ∀ run ∈ system.runs, run.data ∈ system.executor.queue.data
  shows_ : Service.ShowsPosted (system.Posted setup) system.service

namespace Accounted

theorem new (setup : Setup σ ι) (carbonForecast : List ℚ) (startedAt : ℤ)
    (clock : Executor.VirtualClock) :
    Accounted setup (System.new setup carbonForecast startedAt clock) where
  linked := .new setup carbonForecast startedAt clock
  traced := .new setup carbonForecast startedAt clock
  finishes := Executor.ExecutorState.finishesOnce_new clock
  finished _ member := nomatch member
  shows_ := .new setup.settings carbonForecast startedAt

/-- Every trusted step keeps the account. -/
theorem step (accounted : Accounted setup system)
    (speaks : Service.SendsRecorded setup.settings system.service)
    (claimed : Service.CallbacksClaimed system.service)
    (trusted : Trusted setup action)
    (effect : Effect setup system action next) : Accounted setup next := by
  have linked := accounted.linked.step effect
  have traced := accounted.traced.step speaks trusted effect
  have more := effect.extends.data
  have orderly := accounted.linked.orderly
  cases effect with
  | refused => exact accounted
  | @service performed after permitted taken =>
      refine ⟨linked, traced, accounted.finishes, accounted.finished, ?_⟩
      refine accounted.shows_.step claimed (fun requestId body called => ?_)
        taken
      rw [called] at permitted
      cases permitted
  | calledBack arrives taken =>
      refine ⟨linked, traced, accounted.finishes, accounted.finished, ?_⟩
      refine accounted.shows_.step claimed (fun requestId body called => ?_)
        taken
      cases called
      cases arrives with
      | report posted address _ => exact ⟨_, posted, address, rfl⟩
      | other passes =>
          rw [Trusted] at trusted
          rw [trusted] at passes
          cases passes
  | executor _ taken =>
      exact ⟨linked, traced, accounted.finishes.step orderly taken,
        fun run member => more.subset (accounted.finished run member),
        accounted.shows_⟩
  | delivered _ _ taken =>
      exact ⟨linked, traced, accounted.finishes.step orderly taken,
        fun run member => more.subset (accounted.finished run member),
        accounted.shows_⟩
  | @finished outcome wall reference data executor running stored taken =>
      refine ⟨linked, traced, ?_, fun run member => ?_,
        accounted.shows_.mono fun requestId body posted => ?_⟩
      · unfold finishedIds
        rw [List.map_append]
        exact accounted.finishes.finish orderly running stored taken
      · rcases List.mem_append.mp member with earlier | last
        · exact more.subset (accounted.finished run earlier)
        · cases List.mem_singleton.mp last
          exact more.subset (List.mem_of_getElem? stored)
      · obtain ⟨run, member, address, same⟩ := posted
        exact ⟨run, List.mem_append_left _ member, address, same⟩

theorem of_run {carbonForecast : List ℚ} {startedAt : ℤ}
    {clock : Executor.VirtualClock} {actions : List (Action ι)}
    (trusted : ∀ action ∈ actions, Trusted setup action)
    (reached : Transition.run (System.step setup)
      (System.new setup carbonForecast startedAt clock) actions =
        some system) :
    Accounted setup system := by
  refine Transition.run_induction_of_forall (Trusted setup)
    (fun _ state => Accounted setup state)
    (.new setup carbonForecast startedAt clock) ?_ trusted reached
  intro history state action next before _ accounted allowed taken
  obtain ⟨performed, ran⟩ := exists_service_run before
  exact accounted.step (Service.SendsRecorded.of_run ran)
    (Service.calledBackOnce_of_run ran).1 allowed (step_effect taken)

end Accounted

/-! ## The result -/

/-- The job of a completed request: it was queued, started and finished once,
for a message with the payload of the record, and the record shows what it has
measured. -/
structure RanOnce (setup : Setup σ ι) (system : System σ ι) (requestId : ℕ)
    (tracked : TrackedRequest) (data : JobData ι JobContext)
    {task : TaskKind} (outcome : TaskOutcome task) : Prop where
  finished : ⟨data, .ok ⟨task, outcome⟩⟩ ∈ system.runs
  own : data.requestId = toString requestId
  asked : ∃ message dispatch,
    .sent message ∈ system.service.exchange ∧
      message.requestId = requestId ∧ message.payload = tracked.payload ∧
        dispatchFromCarbonshift setup.reading message = .ok dispatch ∧
          data.sameDispatch dispatch = true
  queuedOnce : (system.executor.queue.data.map JobData.requestId).count
    (toString requestId) = 1
  startedOnce : system.journal.started.count (toString requestId) = 1
  finishedOnce : system.finishedIds.count (toString requestId) = 1
  executionTimeSec_eq : tracked.executionTimeSec =
    some outcome.executionTimeSec
  actualErrorPct_eq : tracked.actualErrorPct = outcome.actualErrorPct
  baselineExecutionTimeSec_eq : tracked.baselineExecutionTimeSec =
    outcome.baselineExecutionTimeSec.or
      (if asciiLowercase data.flavour = "accurate" then
        some outcome.executionTimeSec
      else
        none)

/-- A number that may be missing is read as it was written. -/
private theorem asF64_orNull_number (value : Option ℚ) :
    (orNull .number value : Json).asF64 = value := by
  cases value <;> rfl

omit [DecidableEq ι] in
/-- What the service reads from the callback of a run that did not fail. -/
theorem callbackPayload_ok (data : JobData ι JobContext) {task : TaskKind}
    (outcome : TaskOutcome task) :
    let body := (⟨data, .ok ⟨task, outcome⟩⟩ : JobRun ι).callbackPayload
    body.executionTimeSec = some outcome.executionTimeSec ∧
      body.actualErrorPct = outcome.actualErrorPct ∧
        body.baselineExecutionTimeSec =
          outcome.baselineExecutionTimeSec.or
            (if asciiLowercase data.flavour = "accurate" then
              some outcome.executionTimeSec
            else
              none) := by
  refine ⟨rfl, asF64_orNull_number outcome.actualErrorPct, ?_⟩
  have baseline := asF64_orNull_number outcome.baselineExecutionTimeSec
  exact congrArg
    (fun measured : Option ℚ => measured.or
      (if asciiLowercase data.flavour = "accurate" then
        some outcome.executionTimeSec
      else
        none)) baseline

/-- In every run in which nobody else speaks for the two programs, the job of
a completed request has been run once. -/
theorem completed_request_ran_once
    (setup : Setup σ ι) (carbonForecast : List ℚ) (startedAt : ℤ)
    (clock : Executor.VirtualClock) (actions : List (Action ι))
    (system : System σ ι) (requestId : ℕ) (tracked : TrackedRequest)
    (trusted : ∀ action ∈ actions, Trusted setup action)
    (reached : Transition.run (step setup)
      (new setup carbonForecast startedAt clock) actions = some system)
    (recorded : system.service.app.tracked.lookup requestId = some tracked)
    (completed : tracked.status = .completed) :
    ∃ (data : JobData ι JobContext) (task : TaskKind)
      (outcome : TaskOutcome task),
      system.RanOnce setup requestId tracked data outcome := by
  have accounted := Accounted.of_run trusted reached
  obtain ⟨performed, ran⟩ := exists_service_run reached
  obtain ⟨body, ⟨⟨data, outcome⟩, member, address, rfl⟩, shows_⟩ :=
    accounted.shows_.completed recorded completed
  have success := shows_.success
  cases outcome with
  | error error => cases success
  | ok run =>
      obtain ⟨task, outcome⟩ := run
      have names := (Option.filter_eq_some_iff.mp address).1
      have queued := accounted.finished _ member
      obtain ⟨own, dispatch, ⟨message, sent, same, read⟩, stands⟩ :=
        accounted.traced.jobs queued names
      obtain ⟨carried, found, payload_eq⟩ :=
        ((Service.SendsRecorded.of_run ran).sent sent).recorded
      rw [same, recorded, Option.some.injEq] at found
      have finished : data.requestId ∈ system.finishedIds :=
        List.mem_map.mpr ⟨_, member, rfl⟩
      have orderly := accounted.linked.orderly
      obtain ⟨time_eq, error_eq, baseline_eq⟩ :=
        callbackPayload_ok data outcome
      refine ⟨data, task, outcome, member, own,
        ⟨message, dispatch, sent, same, ?_, read, stands⟩, ?_, ?_, ?_,
        shows_.executionTimeSec_eq.trans time_eq,
        shows_.actualErrorPct_eq.trans error_eq,
        shows_.baselineExecutionTimeSec_eq.trans baseline_eq⟩
      · rw [found]
        exact payload_eq.symm
      · rw [← own]
        exact List.count_eq_one_of_mem orderly.indexed.nodup
          (List.mem_map.mpr ⟨data, queued, rfl⟩)
      · rw [← own]
        exact List.count_eq_one_of_mem orderly.started_nodup
          (accounted.finishes.started _ finished)
      · rw [← own]
        exact List.count_eq_one_of_mem accounted.finishes.nodup finished

/-! ## A callback that is posted twice -/

/-- Neither another client of the executor nor somebody else who posts
callbacks takes the step. -/
def byTheTwo : Action ι → Bool
  | .executor (.submit _ _ _) => false
  | .callback _ _ _ => false
  | _ => true

omit [DecidableEq ι] in
theorem trusted_of_byTheTwo (own : byTheTwo action = true) :
    Trusted setup action := by
  cases action with
  | executor taken =>
      cases taken with
      | submit => cases own
      | _ => trivial
  | callback => cases own
  | _ => trivial

/-- The job of the two messages is run, and its callback arrives twice. -/
def reportedTwice : List (Action (List String)) :=
  deliveredTwice ++
    [.executor (.readClock 0), .executor .pop, .executor (.start 0),
      .finish
        (.ok ⟨.textGeneration,
          { output := .generated "and so on"
            model := "gpt2"
            confidence := some (2 / 5)
            qualityScore := none
            actualErrorPct := some 50
            executionTimeSec := 1
            baselineExecutionTimeSec := some 2
            baselineModel := some "gpt2-medium" }⟩) 0,
      .report 0 1, .report 0 1] ++
    (Service.handleTimes 2 7).map .service

/-- One run of the job is recorded, with the time that it took. -/
theorem completed_request_ran_once_reportedTwice :
    ∃ system tracked,
      Transition.run (step epochSetup) justStarted reportedTwice =
          some system ∧
        tracked.executionTimeSec = some 1 ∧
          ∃ (data : JobData (List String) JobContext) (task : Executor.TaskKind)
            (outcome : Executor.TaskOutcome task),
            system.RanOnce epochSetup 1 tracked data outcome := by
  have computed :
      (Transition.run (step epochSetup) justStarted reportedTwice).map
          (fun system => (system.service.app.tracked.lookup 1).map
            fun tracked => (tracked.status, tracked.executionTimeSec)) =
        some (some (.completed, some 1)) := by
    decide +kernel
  obtain ⟨system, reached, seen⟩ := Option.map_eq_some_iff.mp computed
  obtain ⟨tracked, recorded, shown⟩ := Option.map_eq_some_iff.mp seen
  obtain ⟨completed, time⟩ := Prod.mk.inj shown
  have own : reportedTwice.all byTheTwo = true := by decide
  exact ⟨system, tracked, reached, time,
    completed_request_ran_once epochSetup [1, 2, 2, 2] 0
      Executor.ExecutorState.frozenAtMidnight reportedTwice system 1 tracked
      (fun action member =>
        trusted_of_byTheTwo (List.all_eq_true.mp own action member))
      reached recorded completed⟩

end System

end Execution

end Carbonshift
