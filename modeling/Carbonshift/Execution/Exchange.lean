import Carbonshift.Executor.Inference
import Carbonshift.Executor.JobRuns
import Carbonshift.Service.Messages
import Carbonshift.Service.ProfileApi

/-!
# The service and its executor

The dispatcher posts the due requests to the executor, which queues a job for
each of them.  The worker posts what became of a job to the callback of the
service.  On their way messages and callbacks are late, arrive more than once
or are lost, and so is the answer to a message.
-/

namespace Carbonshift

open Executor (Dispatch JobData Journal PythonText TaskKind TaskOutcome TaskOutput)

namespace Execution

/-! ## Messages -/

/-- A date and time, with its time zone or without one. -/
inductive Timestamp where
  | aware (instant : ℤ)
  | naive
  deriving DecidableEq, Repr

/-- How the executor reads a message.  An input stands for the values that
Python takes for equal. -/
structure MessageReading (ι : Type) where
  python : PythonText
  /-- The printed form of a value in an error text. -/
  reprJson : Json → String
  readDatetime : String → Option Timestamp
  input : Json → ι

/-- What the executor keeps of the assignment. -/
inductive JobContext where
  | empty
  | dispatched (scheduledSlot : ℤ) (carbonCost : ℚ)
  deriving DecidableEq, Repr

instance : EmptyCollection JobContext := ⟨.empty⟩

/-- A message that is answered with 422: its fields have the wrong types, or
the endpoint says what it misses. -/
inductive Unprocessable where
  | validation
  | detail (text : String)
  deriving DecidableEq, Repr

def allTasks : List String :=
  [TaskKind.textGeneration, .ner, .questionAnswering].map TaskKind.name

/-- The task of a payload, if it is a supported one. -/
def supportedTask (task : Json) : Option String :=
  task.asStr.filter fun name => decide (name ∈ allTasks)

def unknownTask {ι : Type} (reading : MessageReading ι) (task : Json) :
    String :=
  "payload.task must be one of [" ++
    ", ".intercalate (allTasks.map reading.python.repr) ++ "], got " ++
    reading.reprJson task

def toUtcExecuteAt (field : String) : Timestamp → Except Unprocessable ℤ
  | .aware instant => .ok instant
  | .naive => .error (.detail (field ++ " must include a timezone"))

/-- The submission that a message of the service stands for. -/
def dispatchFromCarbonshift {ι : Type} (reading : MessageReading ι)
    (body : ExecutorDispatchPayload) :
    Except Unprocessable (Dispatch ι JobContext) :=
  match body.payload, reading.readDatetime body.executeAt with
  | .object fields, some executeAt =>
      let task := (fields.lookup "task").getD .null
      match supportedTask task with
      | none => .error (.detail (unknownTask reading task))
      | some task =>
          (toUtcExecuteAt "execute_at" executeAt).map fun instant =>
            { task := task
              flavour := reading.python.lower body.flavour
              input :=
                reading.input ((fields.lookup "input").getD (.object []))
              executeAt := some instant
              callbackUrl := some body.callbackUrl
              requestId := some (toString body.requestId)
              context :=
                some (.dispatched body.scheduledSlot body.carbonCost) }
  | _, _ => .error .validation

/-! ## Callbacks -/

/-- A value that may be missing. -/
def orNull {β : Type} (write : β → Json) (value : Option β) : Json :=
  value.elim .null write

def entityJson (entity : Executor.ScoredEntity) : Json :=
  .object
    [("text", .string entity.text),
      ("label", orNull .string entity.label),
      ("score", .number entity.score),
      ("start", orNull (fun place : ℤ => .number place) entity.start),
      ("end", orNull (fun place : ℤ => .number place) entity.end_)]

def outputJson {task : TaskKind} : TaskOutput task → Json
  | .generated generatedText =>
      .object [("generated_text", .string generatedText)]
  | .entities entities =>
      .object [("entities", .array (entities.map entityJson))]
  | .answer answer start end_ =>
      .object
        [("answer", .string answer),
          ("start", orNull (fun place : ℤ => .number place) start),
          ("end", orNull (fun place : ℤ => .number place) end_)]

/-- A finished run of a task, or the error it raised. -/
abbrev RunOutcome :=
  Except String ((task : TaskKind) × TaskOutcome task)

/-- A job that the worker has finished. -/
structure JobRun (ι : Type) where
  data : JobData ι JobContext
  outcome : RunOutcome

namespace JobRun

variable {ι : Type} (run : JobRun ι)

/-- What is posted of a run that did not fail. -/
def resultJson {task : TaskKind} (outcome : TaskOutcome task) : Json :=
  .object
    [("task", .string run.data.task),
      ("flavour", .string run.data.flavour),
      ("model", .string outcome.model),
      ("output", outputJson outcome.output),
      ("confidence", orNull .number outcome.confidence),
      ("quality_score", orNull .number outcome.qualityScore),
      ("actual_error_pct", orNull .number outcome.actualErrorPct),
      ("execution_time_sec", .number outcome.executionTimeSec),
      ("baseline_execution_time_sec",
        orNull .number outcome.baselineExecutionTimeSec),
      ("baseline_model", orNull .string outcome.baselineModel)]

/-- What is posted of a run that failed. -/
def failureJson : Json :=
  .object
    [("task", .string run.data.task),
      ("flavour", .string run.data.flavour),
      ("model", .null),
      ("output", .null),
      ("confidence", .null),
      ("quality_score", .null),
      ("actual_error_pct", .null),
      ("execution_time_sec", .number 0),
      ("baseline_execution_time_sec", .null),
      ("baseline_model", .null)]

/-- The body of the callback. -/
def callbackPayload : ExecutorCallbackPayload :=
  match run.outcome with
  | .ok ⟨_, outcome⟩ => ⟨true, run.resultJson outcome, none⟩
  | .error error => ⟨false, run.failureJson, some error⟩

/-- Where the callback is posted, if the job asked for one. -/
def callbackUrl : Option String :=
  run.data.callbackUrl.filter fun url => decide (url ≠ "")

end JobRun

/-! ## The two programs and what is between them -/

/-- What both programs and their libraries are set up with. -/
structure Setup (σ ι : Type) where
  settings : ServiceSettings
  numerics : NumericRuntime σ
  runtime : ServiceRuntime
  formats : Executor.ExecutorState.Formats
  reading : MessageReading ι
  /-- The credential that callbacks have to present. -/
  executorToken : Option String

structure System (σ ι : Type) where
  service : Service σ
  executor : Executor.ExecutorState ι JobContext Json
  journal : Journal ι JobContext
  /-- Places of the messages that have arrived, each with the call of `submit`
  that it led to. -/
  deliveries : List (ℕ × ℕ)
  /-- The jobs that the worker has finished, in order. -/
  runs : List (JobRun ι)

inductive Action (ι : Type) where
  /-- A step of the service. -/
  | service (action : Service.Action)
  /-- A message of the dispatcher arrives. -/
  | deliver (place : ℕ) (generated : String) (wall : ℤ)
  /-- A step of the executor, or a submission of another client. -/
  | executor (action : Executor.Action ι JobContext Json)
  /-- The worker finishes its job and posts the callback. -/
  | finish (outcome : RunOutcome) (wall : ℤ)
  /-- A callback of the worker arrives. -/
  | report (place requestId : ℕ)
  /-- Somebody else posts a callback. -/
  | callback (token : Option String) (requestId : ℕ)
      (body : ExecutorCallbackPayload)

namespace System

variable {σ ι : Type}

/-- Both programs have just been started. -/
def new (setup : Setup σ ι) (carbonForecast : List ℚ) (startedAt : ℤ)
    (clock : Executor.VirtualClock) : System σ ι where
  service := .new setup.settings carbonForecast startedAt
  executor := .new clock
  journal := ⟨[], []⟩
  deliveries := []
  runs := []

variable (system : System σ ι)

/-- The executor has taken the message that was sent last. -/
def confirmed : Bool :=
  system.deliveries.any fun delivery =>
    decide (delivery.1 + 1 = system.service.exchange.length) &&
      match system.executor.submissions.lookup delivery.2 with
      | some (.answered (.ok _)) => true
      | _ => false

/-- The dispatcher gets a good answer from the executor alone, and callbacks
have their own actions. -/
def permits : Service.Action → Bool
  | .callback _ _ => false
  | .dispatch choice =>
      decide (choice.outcome = .accepted → system.service.awaited.isSome →
        system.confirmed = true)
  | _ => true

variable [DecidableEq ι] (setup : Setup σ ι)

def serviceStep (action : Service.Action) : Option (System σ ι) :=
  (Service.step setup.settings setup.numerics setup.runtime system.service
    action).map fun next => { system with service := next }

def executorStep (action : Executor.Action ι JobContext Json) :
    Option (System σ ι) :=
  (Executor.ExecutorState.step setup.formats system.executor action).map
    fun next =>
      { system with
        executor := next
        journal :=
          Executor.ExecutorState.observe setup.formats system.executor action
            system.journal }

/-- A callback passes the check of its credential, or is turned away. -/
def receiveCallback (token : Option String) (requestId : ℕ)
    (body : ExecutorCallbackPayload) : Option (System σ ι) :=
  if requireHeader setup.executorToken token then
    system.serviceStep setup (.callback requestId body)
  else
    some system

def step (system : System σ ι) : Action ι → Option (System σ ι)
  | .service action =>
      if system.permits action then
        system.serviceStep setup action
      else
        none
  | .deliver place generated wall =>
      match system.service.exchange[place]? with
      | some (.sent message) =>
          match dispatchFromCarbonshift setup.reading message with
          | .error _ => some system
          | .ok dispatch =>
              (system.executorStep setup (.submit dispatch generated wall)).map
                fun next =>
                  { next with
                    deliveries :=
                      next.deliveries ++ [(place, system.executor.received)] }
      | _ => none
  | .executor (.finish _ _) => none
  | .executor action => system.executorStep setup action
  | .finish outcome wall =>
      match system.executor.worker with
      | .running reference =>
          system.executor.queue.data[reference]?.bind fun data =>
            (system.executorStep setup
              (.finish (outcome.map fun run => outputJson run.2.output)
                wall)).map fun next =>
              { next with runs := next.runs ++ [⟨data, outcome⟩] }
      | _ => none
  | .report place requestId =>
      match system.runs[place]? with
      | some run =>
          if run.callbackUrl =
              some (callbackAddress setup.settings requestId) then
            -- The worker presents no credential.
            system.receiveCallback setup none requestId run.callbackPayload
          else
            none
      | none => none
  | .callback token requestId body =>
      system.receiveCallback setup token requestId body

end System

end Execution

end Carbonshift
