import Carbonshift.Executor.VirtualClock
import Carbonshift.Library.Transition

/-!
# The executor's job queue

Jobs wait in one list per second of their due time, and a single worker runs
the earliest due one.  A submission that was retried meets the job it created.

Job objects are shared by reference, so they live in a list of their own and a
reference is a position in it.  Inputs, contexts and outputs are those of the
models; only their equality is used.
-/

namespace Carbonshift

namespace Executor

inductive JobStatus where
  | queued
  | running
  | completed
  | failed
  deriving DecidableEq, Repr

/-- What a job is created with. -/
structure JobData (ι κ : Type) where
  requestId : String
  task : String
  flavour : String
  input : ι
  executeAt : ℤ
  callbackUrl : Option String
  context : κ
  queuedAt : ℤ

structure Job (ι κ ω : Type) extends JobData ι κ where
  startedAt : Option ℤ
  finishedAt : Option ℤ
  status : JobStatus
  result : Option ω
  error : Option String

/-- The arguments of a submission. -/
structure Dispatch (ι κ : Type) where
  task : String
  flavour : String
  input : ι
  executeAt : Option ℤ
  callbackUrl : Option String
  requestId : Option String
  context : Option κ

variable {ι κ ω : Type}

/-- A new job waits. -/
def Job.new (data : JobData ι κ) : Job ι κ ω where
  toJobData := data
  startedAt := none
  finishedAt := none
  status := .queued
  result := none
  error := none

/-- The identifier of a dispatch; a generated one stands in for none and for
the empty one. -/
def Dispatch.requestIdOr (dispatch : Dispatch ι κ) (generated : String) :
    String :=
  match dispatch.requestId with
  | none => generated
  | some requestId => if requestId = "" then generated else requestId

def Dispatch.normalizedContext [EmptyCollection κ] (dispatch : Dispatch ι κ) :
    κ :=
  dispatch.context.getD ∅

/-- Is this the dispatch that created the job? -/
def JobData.sameDispatch [BEq ι] [BEq κ] [EmptyCollection κ]
    (existing : JobData ι κ) (dispatch : Dispatch ι κ) : Bool :=
  existing.task == dispatch.task && existing.flavour == dispatch.flavour &&
    existing.input == dispatch.input &&
    existing.callbackUrl == dispatch.callbackUrl &&
    existing.context == dispatch.normalizedContext &&
    dispatch.executeAt.all fun provided => existing.executeAt == provided

/-- The second of a due time. -/
def slotKey (executeAt : ℤ) : ℤ :=
  executeAt - executeAt % 1000000

/-- Text of a `DuplicateRequestIdError`. -/
def duplicateRequestId (repr : String → String) (requestId : String) :
    String :=
  "request_id " ++ repr requestId ++
    " is already queued with different dispatch data"

/-! ## The queue -/

structure JobQueue (ι κ ω : Type) where
  /-- Every job object there is, in the order of their creation. -/
  jobs : List (Job ι κ ω)
  slots : Dictionary ℤ (List ℕ)
  jobsById : Dictionary String ℕ
  wakeup : Bool

namespace JobQueue

def new : JobQueue ι κ ω where
  jobs := []
  slots := ∅
  jobsById := ∅
  wakeup := false

variable (queue : JobQueue ι κ ω)

/-- The references in the queue. -/
def waiting : List ℕ :=
  queue.slots.values.flatten

/-- The job object of an identifier, with its reference. -/
def existingJob (requestId : String) : Option (ℕ × Job ι κ ω) :=
  (queue.jobsById.lookup requestId).bind fun reference =>
    queue.jobs[reference]?.map fun job => (reference, job)

/-- Create a job and append it to the list of its second. -/
def append (data : JobData ι κ) : JobQueue ι κ ω where
  jobs := queue.jobs ++ [.new data]
  slots := queue.slots.upsert (slotKey data.executeAt) [] fun references =>
    references ++ [queue.jobs.length]
  jobsById := queue.jobsById.insert data.requestId queue.jobs.length
  wakeup := true

/-- The critical section of `submit`: the answer, and the queue after it. -/
def submit [BEq ι] [BEq κ] [EmptyCollection κ] (repr : String → String)
    (dispatch : Dispatch ι κ) (requestId : String) (executeAt now : ℤ) :
    Except String ℕ × JobQueue ι κ ω :=
  match queue.existingJob requestId with
  | some (reference, existing) =>
      if existing.sameDispatch dispatch then
        (.ok reference, queue)
      else
        (.error (duplicateRequestId repr requestId), queue)
  | none =>
      (.ok queue.jobs.length,
        queue.append
          { requestId := requestId
            task := dispatch.task
            flavour := dispatch.flavour
            input := dispatch.input
            executeAt := executeAt
            callbackUrl := dispatch.callbackUrl
            context := dispatch.normalizedContext
            queuedAt := now })

/-- The critical section of `_pop_next_due`; `none` is an exception. -/
def popNextDue (now : ℤ) : Option (Option ℕ × JobQueue ι κ ω) :=
  match queue.slots.keys.min? with
  | none => some (none, queue)
  | some earliest =>
      if now < earliest then
        some (none, queue)
      else
        match queue.slots.getD earliest [] with
        | [] => none
        | reference :: rest =>
            some
              (some reference,
                { queue with
                  slots :=
                    if rest.isEmpty then
                      queue.slots.erase earliest
                    else
                      queue.slots.insert earliest rest })

/-- Write to a job object. -/
def updateJob (reference : ℕ) (update : Job ι κ ω → Job ι κ ω) :
    JobQueue ι κ ω :=
  { queue with jobs := queue.jobs.modify reference update }

end JobQueue

/-- The worker takes a job up. -/
def Job.start (now : ℤ) (job : Job ι κ ω) : Job ι κ ω :=
  { job with status := .running, startedAt := some now }

/-- The worker is done with a job; the outcome is an output or an error. -/
def Job.finish (outcome : Except String ω) (now : ℤ) (job : Job ι κ ω) :
    Job ι κ ω :=
  match outcome with
  | .ok output =>
      { job with
        finishedAt := some now
        status := .completed
        result := some output
        error := none }
  | .error error =>
      { job with
        finishedAt := some now
        status := .failed
        result := none
        error := some error }

/-! ## Parties -/

/-- How far a call of `submit` is. -/
inductive SubmitPhase (ι κ : Type) where
  | arrived (dispatch : Dispatch ι κ) (requestId : String) (executeAt : ℤ)
  | answered (answer : Except String ℕ)

/-- How far the worker thread is. -/
inductive WorkerPhase where
  | idle
  | clocked (now : ℤ)
  | waiting
  | popped (reference : ℕ)
  | running (reference : ℕ)
  | crashed
  deriving DecidableEq, Repr

/-- The executor and the calls that are in progress. -/
structure ExecutorState (ι κ ω : Type) where
  clock : VirtualClock
  queue : JobQueue ι κ ω
  submissions : Dictionary ℕ (SubmitPhase ι κ)
  /-- Number of calls so far. -/
  received : ℕ
  worker : WorkerPhase

/-- One critical section of some party.  Where the clock is not manual, the
time is the wall clock's. -/
inductive Action (ι κ ω : Type) where
  | submit (dispatch : Dispatch ι κ) (generated : String) (wall : ℤ)
  | enqueue (submissionId : ℕ) (wall : ℤ)
  | advanceSlot (body : AdvanceSlotBody)
  | readClock (wall : ℤ)
  | pop
  | wake
  | start (wall : ℤ)
  | finish (outcome : Except String ω) (wall : ℤ)

def VirtualClock.now (clock : VirtualClock) (wall : ℤ) : ℤ :=
  if clock.manual then clock.virtualNow else wall

namespace ExecutorState

def new (clock : VirtualClock) : ExecutorState ι κ ω where
  clock := clock
  queue := .new
  submissions := ∅
  received := 0
  worker := .idle

/-- How values and times are written in messages. -/
structure Formats where
  iso : Provider.IsoFormat
  showFloat : ℚ → String
  repr : String → String

variable [BEq ι] [BEq κ] [EmptyCollection κ]

def step (formats : Formats) (state : ExecutorState ι κ ω) :
    Action ι κ ω → Option (ExecutorState ι κ ω)
  | .submit dispatch generated wall =>
      some
        { state with
          submissions :=
            state.submissions.insert state.received
              (.arrived dispatch (dispatch.requestIdOr generated)
                (dispatch.executeAt.getD (state.clock.now wall)))
          received := state.received + 1 }
  | .enqueue submissionId wall =>
      match state.submissions.lookup submissionId with
      | some (.arrived dispatch requestId executeAt) =>
          let submitted := state.queue.submit formats.repr dispatch requestId
            executeAt (state.clock.now wall)
          some
            { state with
              queue := submitted.2
              submissions :=
                state.submissions.insert submissionId
                  (.answered submitted.1) }
      | _ => none
  | .advanceSlot body =>
      match advanceSlot formats.iso formats.showFloat body state.clock with
      | (.error _, clock) => some { state with clock := clock }
      | (.ok _, clock) =>
          some
            { state with
              clock := clock
              queue := { state.queue with wakeup := true } }
  | .readClock wall =>
      match state.worker with
      | .idle =>
          some { state with worker := .clocked (state.clock.now wall) }
      | _ => none
  | .pop =>
      match state.worker with
      | .clocked now =>
          match state.queue.popNextDue now with
          | none => some { state with worker := .crashed }
          | some (none, queue) =>
              some { state with queue := queue, worker := .waiting }
          | some (some reference, queue) =>
              some
                { state with queue := queue, worker := .popped reference }
      | _ => none
  | .wake =>
      match state.worker with
      | .waiting =>
          some
            { state with
              queue := { state.queue with wakeup := false }
              worker := .idle }
      | _ => none
  | .start wall =>
      match state.worker with
      | .popped reference =>
          some
            { state with
              queue :=
                state.queue.updateJob reference
                  (Job.start (state.clock.now wall))
              worker := .running reference }
      | _ => none
  | .finish outcome wall =>
      match state.worker with
      | .running reference =>
          some
            { state with
              queue :=
                state.queue.updateJob reference
                  (Job.finish outcome (state.clock.now wall))
              worker := .idle }
      | _ => none

end ExecutorState

end Executor

end Carbonshift
