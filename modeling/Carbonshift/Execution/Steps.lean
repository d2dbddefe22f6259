import Carbonshift.Execution.Exchange

/-!
# What one step of the two programs can do

One inversion lemma for the pair.  The invariants are derived from it and from
the inversion lemmas of the programs.
-/

namespace Carbonshift

open Executor (Dispatch JobData)

namespace Execution

namespace System

variable {σ ι : Type} [DecidableEq ι]

/-- A callback that passes the check of its credential. -/
inductive Arrives (setup : Setup σ ι) (system : System σ ι) :
    Action ι → ℕ → ExecutorCallbackPayload → Prop where
  | report {place requestId : ℕ} {run : JobRun ι}
      (posted : run ∈ system.runs)
      (address : run.callbackUrl =
        some (callbackAddress setup.settings requestId))
      (passes : requireHeader setup.executorToken none = true) :
      Arrives setup system (.report place requestId) requestId
        run.callbackPayload
  | other {token : Option String} {requestId : ℕ}
      {body : ExecutorCallbackPayload}
      (passes : requireHeader setup.executorToken token = true) :
      Arrives setup system (.callback token requestId body) requestId body

/-- The executor after its step. -/
def withExecutor (setup : Setup σ ι) (system : System σ ι)
    (action : Executor.Action ι JobContext Json)
    (executor : Executor.ExecutorState ι JobContext Json) : System σ ι :=
  { system with
    executor := executor
    journal :=
      Executor.ExecutorState.observe setup.formats system.executor action
        system.journal }

inductive Effect (setup : Setup σ ι) (system : System σ ι) :
    Action ι → System σ ι → Prop where
  /-- A message that is not understood, or a callback that is turned away. -/
  | refused {action : Action ι} : Effect setup system action system
  | service {action : Service.Action} {next : Service σ}
      (permitted : system.permits action = true)
      (taken : Service.step setup.settings setup.numerics setup.runtime
        system.service action = some next) :
      Effect setup system (.service action) { system with service := next }
  | calledBack {action : Action ι} {requestId : ℕ}
      {body : ExecutorCallbackPayload} {next : Service σ}
      (arrives : Arrives setup system action requestId body)
      (taken : Service.step setup.settings setup.numerics setup.runtime
        system.service (.callback requestId body) = some next) :
      Effect setup system action { system with service := next }
  | executor {action : Executor.Action ι JobContext Json}
      {executor : Executor.ExecutorState ι JobContext Json}
      (unfinished : ∀ outcome wall, action ≠ .finish outcome wall)
      (taken : Executor.ExecutorState.step setup.formats system.executor
        action = some executor) :
      Effect setup system (.executor action)
        (system.withExecutor setup action executor)
  | delivered {place : ℕ} {generated : String} {wall : ℤ}
      {message : ExecutorDispatchPayload} {dispatch : Dispatch ι JobContext}
      {executor : Executor.ExecutorState ι JobContext Json}
      (sent : system.service.exchange[place]? = some (.sent message))
      (read : dispatchFromCarbonshift setup.reading message = .ok dispatch)
      (taken : Executor.ExecutorState.step setup.formats system.executor
        (.submit dispatch generated wall) = some executor) :
      Effect setup system (.deliver place generated wall)
        { system.withExecutor setup (.submit dispatch generated wall)
            executor with
          deliveries :=
            system.deliveries ++ [(place, system.executor.received)] }
  | finished {outcome : RunOutcome} {wall : ℤ} {reference : ℕ}
      {data : JobData ι JobContext}
      {executor : Executor.ExecutorState ι JobContext Json}
      (running : system.executor.worker = .running reference)
      (stored : system.executor.queue.data[reference]? = some data)
      (taken : Executor.ExecutorState.step setup.formats system.executor
        (.finish (outcome.map fun run => outputJson run.2.output) wall) =
          some executor) :
      Effect setup system (.finish outcome wall)
        { system.withExecutor setup
            (.finish (outcome.map fun run => outputJson run.2.output) wall)
            executor with
          runs := system.runs ++ [⟨data, outcome⟩] }

variable {setup : Setup σ ι} {system next : System σ ι}

private theorem effect_of_receiveCallback {action : Action ι}
    {token : Option String} {requestId : ℕ} {body : ExecutorCallbackPayload}
    (arrives : requireHeader setup.executorToken token = true →
      Arrives setup system action requestId body)
    (taken : system.receiveCallback setup token requestId body = some next) :
    Effect setup system action next := by
  unfold receiveCallback at taken
  split at taken
  · rename_i passes
    obtain ⟨service, stepped, rfl⟩ := Option.map_eq_some_iff.mp taken
    exact .calledBack (arrives passes) stepped
  · cases taken
    exact .refused

private theorem effect_of_executorStep
    {action : Executor.Action ι JobContext Json}
    (unfinished : ∀ outcome wall, action ≠ .finish outcome wall)
    (taken : system.executorStep setup action = some next) :
    Effect setup system (.executor action) next := by
  obtain ⟨executor, stepped, rfl⟩ := Option.map_eq_some_iff.mp taken
  exact .executor unfinished stepped

theorem step_effect {action : Action ι}
    (taken : step setup system action = some next) :
    Effect setup system action next := by
  cases action with
  | service performed =>
      simp only [step] at taken
      split at taken
      · rename_i permitted
        obtain ⟨service, stepped, rfl⟩ := Option.map_eq_some_iff.mp taken
        exact .service permitted stepped
      · cases taken
  | deliver place generated wall =>
      simp only [step] at taken
      split at taken
      · rename_i message sent
        split at taken
        · cases taken
          exact .refused
        · rename_i dispatch read
          obtain ⟨after, moved, rfl⟩ := Option.map_eq_some_iff.mp taken
          obtain ⟨executor, stepped, rfl⟩ := Option.map_eq_some_iff.mp moved
          exact .delivered sent read stepped
      · cases taken
  | executor performed =>
      cases performed with
      | finish outcome wall => cases taken
      | _ =>
          refine effect_of_executorStep (fun _ _ same => ?_) taken
          cases same
  | finish outcome wall =>
      simp only [step] at taken
      split at taken
      · rename_i reference running
        obtain ⟨data, stored, moved⟩ := Option.bind_eq_some_iff.mp taken
        obtain ⟨after, performed, rfl⟩ := Option.map_eq_some_iff.mp moved
        obtain ⟨executor, stepped, rfl⟩ := Option.map_eq_some_iff.mp performed
        exact .finished running stored stepped
      · cases taken
  | report place requestId =>
      simp only [step] at taken
      split at taken
      · rename_i run posted
        split at taken
        · rename_i address
          exact effect_of_receiveCallback
            (.report (List.mem_of_getElem? posted) address) taken
        · cases taken
      · cases taken
  | callback token requestId body =>
      exact effect_of_receiveCallback .other taken

/-- A step leaves the service, or is one of its steps. -/
theorem Effect.service_step {action : Action ι}
    (effect : Effect setup system action next) :
    next.service = system.service ∨
      ∃ performed, Service.step setup.settings setup.numerics setup.runtime
        system.service performed = some next.service := by
  cases effect with
  | refused => exact Or.inl rfl
  | service _ taken => exact Or.inr ⟨_, taken⟩
  | calledBack _ taken => exact Or.inr ⟨_, taken⟩
  | executor _ _ => exact Or.inl rfl
  | delivered _ _ _ => exact Or.inl rfl
  | finished _ _ _ => exact Or.inl rfl

/-- The service of a run has a run of its own. -/
theorem exists_service_run {carbonForecast : List ℚ} {startedAt : ℤ}
    {clock : Executor.VirtualClock} {actions : List (Action ι)}
    (reached : Transition.run (step setup)
      (new setup carbonForecast startedAt clock) actions = some system) :
    ∃ performed,
      Transition.run
          (Service.step setup.settings setup.numerics setup.runtime)
          (Service.new setup.settings carbonForecast startedAt) performed =
        some system.service := by
  refine Transition.run_induction
    (fun _ state => ∃ performed,
      Transition.run
          (Service.step setup.settings setup.numerics setup.runtime)
          (Service.new setup.settings carbonForecast startedAt) performed =
        some state.service) ⟨[], rfl⟩ ?_ reached
  rintro _ state action next ⟨performed, before⟩ taken
  rcases (step_effect taken).service_step with same | ⟨own, moved⟩
  · exact ⟨performed, same ▸ before⟩
  · exact ⟨performed ++ [own],
      Transition.run_concat_eq_some_iff.mpr ⟨_, before, moved⟩⟩

end System

end Execution

end Carbonshift
