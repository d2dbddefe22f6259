import Carbonshift.Execution.Steps
import Carbonshift.Executor.Calls
import Carbonshift.Executor.MeasuredError
import Carbonshift.Service.Messages

/-!
# One job for an accepted request

Whatever is lost, late or repeated between the two programs, a message that is
accepted has one job in the executor, which runs once at most.
-/

namespace Carbonshift

open Executor (Dispatch JobData)

namespace Execution

namespace System

variable {σ ι : Type} [DecidableEq ι] {setup : Setup σ ι}
variable {system next : System σ ι} {action : Action ι}

/-- A message that the dispatcher has sent for the request asks for the
dispatch. -/
def Asked (setup : Setup σ ι) (system : System σ ι) (requestId : ℕ)
    (dispatch : Dispatch ι JobContext) : Prop :=
  ∃ message, .sent message ∈ system.service.exchange ∧
    message.requestId = requestId ∧
      dispatchFromCarbonshift setup.reading message = .ok dispatch

/-- A job of the executor stands for a message of the request. -/
def JobOf (setup : Setup σ ι) (system : System σ ι) (requestId : ℕ) : Prop :=
  ∃ dispatch, system.Asked setup requestId dispatch ∧
    system.executor.queue.HasJob (toString requestId) dispatch

/-- Neither the exchange nor the jobs ever lose anything. -/
structure Extends (system next : System σ ι) : Prop where
  exchange : system.service.exchange <+: next.service.exchange
  data : system.executor.queue.data <+: next.executor.queue.data

omit [DecidableEq ι] in
theorem Asked.of_extends {requestId : ℕ} {dispatch : Dispatch ι JobContext}
    (asked : system.Asked setup requestId dispatch)
    (more : Extends system next) : next.Asked setup requestId dispatch := by
  obtain ⟨message, sent, own, read⟩ := asked
  exact ⟨message, more.exchange.subset sent, own, read⟩

theorem JobOf.of_extends {requestId : ℕ}
    (job : system.JobOf setup requestId) (more : Extends system next) :
    next.JobOf setup requestId := by
  obtain ⟨dispatch, asked, data, member, stands⟩ := job
  exact ⟨dispatch, asked.of_extends more, data, more.data.subset member,
    stands⟩

theorem Effect.extends (effect : Effect setup system action next) :
    Extends system next := by
  cases effect with
  | refused => exact ⟨List.prefix_refl _, List.prefix_refl _⟩
  | service _ taken =>
      exact ⟨(Service.step_effect taken).exchange_grows, List.prefix_refl _⟩
  | calledBack _ taken =>
      exact ⟨(Service.step_effect taken).exchange_grows, List.prefix_refl _⟩
  | executor _ taken =>
      exact ⟨List.prefix_refl _,
        (Executor.ExecutorState.step_calls taken).data_grows⟩
  | delivered _ _ taken =>
      exact ⟨List.prefix_refl _,
        (Executor.ExecutorState.step_calls taken).data_grows⟩
  | finished _ _ taken =>
      exact ⟨List.prefix_refl _,
        (Executor.ExecutorState.step_calls taken).data_grows⟩

/-! ## The invariant -/

/-- The call that a delivered message led to submits what it asks for. -/
def Submits (setup : Setup σ ι) (system : System σ ι)
    (place submissionId : ℕ) : Prop :=
  ∃ message dispatch,
    system.service.exchange[place]? = some (.sent message) ∧
      dispatchFromCarbonshift setup.reading message = .ok dispatch ∧
        system.executor.Answers submissionId (toString message.requestId)
          dispatch

structure Linked (setup : Setup σ ι) (system : System σ ι) : Prop where
  orderly : system.executor.Orderly system.journal
  numbered : system.executor.Numbered
  awaits : Service.AwaitsLast system.service
  delivered : ∀ delivery ∈ system.deliveries,
    system.Submits setup delivery.1 delivery.2
  accepted : ∀ requestId, .accepted requestId ∈ system.service.exchange →
    system.JobOf setup requestId

omit [DecidableEq ι] in
/-- The identifier that a message of the service is submitted with. -/
theorem requestIdOr_dispatch {message : ExecutorDispatchPayload}
    {dispatch : Dispatch ι JobContext}
    (read : dispatchFromCarbonshift setup.reading message = .ok dispatch)
    (generated : String) :
    dispatch.requestIdOr generated = toString message.requestId := by
  have named : toString message.requestId ≠ "" := Nat.repr_ne_empty
  unfold dispatchFromCarbonshift at read
  split at read
  · rename_i fields executeAt _ _
    dsimp only at read
    split at read
    · cases read
    · cases executeAt with
      | naive => cases read
      | aware instant =>
          cases read
          exact if_neg named
  · cases read

namespace Linked

theorem new (setup : Setup σ ι) (carbonForecast : List ℚ) (startedAt : ℤ)
    (clock : Executor.VirtualClock) :
    Linked setup (System.new setup carbonForecast startedAt clock) where
  orderly := Executor.ExecutorState.orderly_new clock
  numbered _ member := nomatch member
  awaits _ _ waiting := nomatch waiting
  delivered _ member := nomatch member
  accepted _ member := nomatch member

/-- The last message has been submitted, and its call answers with a job. -/
theorem jobOf_of_confirmed (linked : Linked setup system) {requestId : ℕ}
    (waits : system.service.awaited = some requestId)
    (confirmed : system.confirmed = true) : system.JobOf setup requestId := by
  obtain ⟨delivery, member, checks⟩ := List.any_eq_true.mp confirmed
  rw [Bool.and_eq_true, decide_eq_true_eq] at checks
  obtain ⟨last, answered⟩ := checks
  obtain ⟨message, dispatch, sent, read, answers⟩ :=
    linked.delivered delivery member
  unfold Service.awaited at waits
  split at waits
  · rename_i awaited rest waiting
    cases waits
    obtain ⟨earlier, exchange_eq⟩ := linked.awaits awaited rest waiting
    have place : delivery.1 = earlier.length := by
      rw [exchange_eq, List.length_append, List.length_singleton] at last
      omega
    rw [exchange_eq, place, List.getElem?_concat_length] at sent
    cases sent
    refine ⟨dispatch, ⟨message, ?_, rfl, read⟩, ?_⟩
    · rw [exchange_eq]
      exact List.mem_append_right _ (List.mem_singleton_self _)
    · cases answers with
      | arrived found _ =>
          rw [found] at answered
          cases answered
      | @answered answer found job =>
          rw [found] at answered
          cases answer with
          | error error => cases answered
          | ok reference => exact job reference rfl
  · cases waits

/-- A step of the service keeps the links. -/
private theorem of_service (linked : Linked setup system)
    {performed : Service.Action} {service : Service σ}
    (permitted : ∀ choice, performed = .dispatch choice →
      choice.outcome = .accepted → system.service.awaited.isSome →
        system.confirmed = true)
    (taken : Service.step setup.settings setup.numerics setup.runtime
      system.service performed = some service) :
    Linked setup { system with service := service } := by
  have effect := Service.step_effect taken
  have more : Extends system { system with service := service } :=
    ⟨effect.exchange_grows, List.prefix_refl _⟩
  refine ⟨linked.orderly, linked.numbered, linked.awaits.step effect,
    fun delivery member => ?_, fun requestId accepted => ?_⟩
  · obtain ⟨message, dispatch, sent, read, answers⟩ :=
      linked.delivered delivery member
    obtain ⟨bound, same⟩ := List.getElem?_eq_some_iff.mp sent
    refine ⟨message, dispatch, ?_, read, answers⟩
    rw [List.prefix_iff_getElem?.mp more.exchange delivery.1 bound, same]
  · rcases effect.accepted accepted with
      earlier | ⟨choice, dispatches, outcome, waits⟩
    · exact (linked.accepted requestId earlier).of_extends more
    · have confirmed := permitted choice dispatches outcome
        (Option.isSome_of_eq_some waits)
      exact (linked.jobOf_of_confirmed waits confirmed).of_extends more

/-- A step of the executor keeps the links. -/
private theorem of_executor (linked : Linked setup system)
    {performed : Executor.Action ι JobContext Json}
    {executor : Executor.ExecutorState ι JobContext Json}
    (taken : Executor.ExecutorState.step setup.formats system.executor
      performed = some executor) :
    Linked setup (system.withExecutor setup performed executor) := by
  have calls := Executor.ExecutorState.step_calls taken
  have more : Extends system (system.withExecutor setup performed executor) :=
    ⟨List.prefix_refl _, calls.data_grows⟩
  refine ⟨?_, linked.numbered.step calls, linked.awaits,
    fun delivery member => ?_, fun requestId accepted =>
      (linked.accepted requestId accepted).of_extends more⟩
  · have jobs := Executor.ExecutorState.step_jobs taken
    unfold withExecutor Executor.ExecutorState.observe
    rw [taken]
    exact linked.orderly.of_effect jobs
  · obtain ⟨message, dispatch, sent, read, answers⟩ :=
      linked.delivered delivery member
    exact ⟨message, dispatch, sent, read,
      answers.step linked.orderly.indexed linked.numbered calls⟩

/-- Every step keeps the links. -/
theorem step (linked : Linked setup system)
    (effect : Effect setup system action next) : Linked setup next := by
  cases effect with
  | refused => exact linked
  | service permitted taken =>
      refine linked.of_service (fun choice dispatches outcome waits => ?_) taken
      subst dispatches
      exact of_decide_eq_true permitted outcome waits
  | calledBack _ taken =>
      exact linked.of_service (fun _ dispatches => by cases dispatches) taken
  | executor _ taken => exact linked.of_executor taken
  | @delivered place generated wall message dispatch executor sent read
      taken =>
      have moved := linked.of_executor taken
      refine ⟨moved.orderly, moved.numbered, moved.awaits,
        fun delivery member => ?_, moved.accepted⟩
      rcases List.mem_append.mp member with earlier | last
      · exact moved.delivered delivery earlier
      · cases List.mem_singleton.mp last
        refine ⟨message, dispatch, sent, read, ?_⟩
        rw [← requestIdOr_dispatch read generated]
        exact Executor.ExecutorState.answers_of_submit taken
  | finished _ _ taken =>
      have moved := linked.of_executor taken
      exact ⟨moved.orderly, moved.numbered, moved.awaits, moved.delivered,
        moved.accepted⟩

theorem of_run {carbonForecast : List ℚ} {startedAt : ℤ}
    {clock : Executor.VirtualClock} {actions : List (Action ι)}
    (reached : Transition.run (System.step setup)
      (System.new setup carbonForecast startedAt clock) actions =
        some system) :
    Linked setup system :=
  Transition.run_induction (fun _ state => Linked setup state)
    (.new setup carbonForecast startedAt clock)
    (fun _ _ _ _ linked taken => linked.step (step_effect taken)) reached

end Linked

/-! ## The result -/

/-- There is one job for the request, it stands for a message of the request,
and the worker has taken it up once at most. -/
structure HasOneJob (setup : Setup σ ι) (system : System σ ι)
    (requestId : ℕ) : Prop where
  job : system.JobOf setup requestId
  single : (system.executor.queue.data.map JobData.requestId).count
    (toString requestId) = 1
  taken : system.journal.started.count (toString requestId) ≤ 1

/-- In every run, a request whose message has been accepted, or whose record
says that it is dispatched, has one job. -/
theorem accepted_request_has_one_job
    (setup : Setup σ ι) (carbonForecast : List ℚ) (startedAt : ℤ)
    (clock : Executor.VirtualClock) (actions : List (Action ι))
    (system : System σ ι) (requestId : ℕ)
    (somewhere : setup.settings.service.executorUrl ≠ none)
    (reached : Transition.run (step setup)
      (new setup carbonForecast startedAt clock) actions = some system)
    (acknowledged : .accepted requestId ∈ system.service.exchange ∨
      ∃ tracked, system.service.app.tracked.lookup requestId = some tracked ∧
        tracked.status = .dispatched) :
    system.HasOneJob setup requestId := by
  have linked := Linked.of_run reached
  have accepted : .accepted requestId ∈ system.service.exchange := by
    rcases acknowledged with event | ⟨tracked, recorded, dispatched⟩
    · exact event
    · obtain ⟨performed, ran⟩ := exists_service_run reached
      exact Service.dispatchesAccepted_of_run somewhere ran requestId tracked
        recorded dispatched
  have job := linked.accepted requestId accepted
  obtain ⟨dispatch, asked, data, member, own, stands⟩ := job
  have listed : toString requestId ∈
      system.executor.queue.data.map JobData.requestId :=
    List.mem_map.mpr ⟨data, member, own⟩
  exact
    { job := ⟨dispatch, asked, data, member, own, stands⟩
      single := List.count_eq_one_of_mem linked.orderly.indexed.nodup listed
      taken := List.nodup_iff_count_le_one.mp linked.orderly.started_nodup _ }

/-! ## A message that is sent twice -/

/-- The epoch is the only time that is read, and an input is read by the names
of its fields. -/
def epochReading : MessageReading (List String) where
  python := Executor.asciiPython
  reprJson value := value.asStr.elim "None" Executor.asciiPython.repr
  readDatetime text :=
    if text = "1970-01-01T00:00:00.000Z" then some (.aware 0) else none
  input
    | .object fields => fields.map Prod.fst
    | _ => []

def epochSetup : Setup Unit (List String) where
  settings := Service.executorSettings
  numerics := .least
  runtime := AppState.epochOnly
  formats := Executor.ExecutorState.midnightForms
  reading := epochReading
  executorToken := none

def justStarted : System Unit (List String) :=
  .new epochSetup [1, 2, 2, 2] 0 Executor.ExecutorState.frozenAtMidnight

/-- The dispatcher gives up its wait for an answer and sends again. -/
def sentTwice : List Service.Action :=
  Service.unpolledRun ++ Service.handleTimes 1 2 ++
    List.replicate 7 (.dispatch ⟨0, .entryOrder, .failed "timed out"⟩) ++
    List.replicate 7 (.dispatch ⟨100, .entryOrder, .accepted⟩)

/-- Both messages arrive, the first of them late, and the answer to the second
one is not lost. -/
def deliveredTwice : List (Action (List String)) :=
  sentTwice.map .service ++
    [.deliver 0 "" 0, .executor (.enqueue 0 0), .deliver 2 "" 0,
      .executor (.enqueue 1 0),
      .service (.dispatch ⟨100, .entryOrder, .accepted⟩)]

/-- The two messages have one job. -/
theorem accepted_request_has_one_job_deliveredTwice :
    ∃ system,
      Transition.run (step epochSetup) justStarted deliveredTwice =
          some system ∧
        system.deliveries = [(0, 0), (2, 1)] ∧
          system.HasOneJob epochSetup 1 := by
  have computed :
      (Transition.run (step epochSetup) justStarted deliveredTwice).map
          (fun system =>
            (system.deliveries,
              (system.service.app.tracked.lookup 1).map
                TrackedRequest.status)) =
        some ([(0, 0), (2, 1)], some .dispatched) := by
    decide +kernel
  obtain ⟨system, reached, seen⟩ := Option.map_eq_some_iff.mp computed
  obtain ⟨delivered, status⟩ := Prod.mk.inj seen
  obtain ⟨tracked, recorded, dispatched⟩ := Option.map_eq_some_iff.mp status
  exact ⟨system, reached, delivered,
    accepted_request_has_one_job epochSetup [1, 2, 2, 2] 0
      Executor.ExecutorState.frozenAtMidnight deliveredTwice system 1
      (by decide) reached (Or.inr ⟨tracked, recorded, dispatched⟩)⟩

end System

end Execution

end Carbonshift
