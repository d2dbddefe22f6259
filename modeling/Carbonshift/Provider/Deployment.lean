import Carbonshift.Executor.VirtualClock
import Carbonshift.Provider.AdvanceSlot
import Carbonshift.Service.TimeKeeping

/-!
# The provider and its peers

The provider, CarbonShift and the executor keep a clock each.  A post of the
provider may be lost on its way, and so may the answer of a peer that has
acted on it.
-/

namespace Carbonshift

namespace Provider

/-- How the services of an emulation are started. -/
structure Setup where
  provider : Settings
  source : CarbonSource
  iso : IsoFormat
  carbonshift : ServiceSettings
  runtime : ServiceRuntime
  /-- The printed form of a number in a text of the executor. -/
  showFloat : ℚ → String

/-- The provider, the state of CarbonShift and what its main loop has read,
and the executor's clock. -/
structure Deployment (setup : Setup) (σ : Type) where
  provider : Service setup.provider.grid
  carbonshift : AppState σ
  executor : Executor.VirtualClock
  /-- The virtual clock as the main loop has read it; its slot is not stored
  yet. -/
  loopReading : Option ℕ
  /-- The peer has confirmed the post in progress, but its answer was lost. -/
  confirmedUnheard : Bool

/-- Who answers at a path. -/
inductive Destination where
  | carbonshift
  | closing
  | executor
  | client
  deriving DecidableEq, Repr

def Peer.destination (peer : Peer) : Destination :=
  if peer.path = "/v1/admin/advance-slot" then
    .carbonshift
  else if peer.path = "/v1/admin/close-slot" then
    .closing
  else if peer.path = "/admin/advance-slot" then
    .executor
  else
    .client

/-- What the network does with a post. -/
inductive Fate where
  | requestLost (text : String)
  | responseLost (text : String)
  /-- The peer is heard.  Clients, and a slot that is being closed, may give
  any answer. -/
  | answered (reply : PostOutcome)

/-- The post reaches its peer. -/
def Fate.delivers : Fate → Bool
  | .requestLost _ => false
  | _ => true

namespace Deployment

variable {σ : Type}

/-! ## Answers of the peers -/

/-- A slot number that fits the messages of CarbonShift. -/
def fitsI64 (slot : ℤ) : Bool :=
  decide (-2 ^ 63 ≤ slot) && decide (slot < 2 ^ 63)

/-- The message can be read by CarbonShift. -/
def readable (body : AdvanceSlotBody) : Bool :=
  body.currentSlot.all fitsI64 &&
    body.observed.all (fun point =>
      fitsI64 point.slot && fitsI64 point.observedAtSlot) &&
      (body.forecast.getD []).all fun point => fitsI64 point.slot

/-- A body that cannot be read. -/
def unprocessable : PostOutcome :=
  .response 422 (.error
    "Failed to deserialize the JSON body into the target type")

/-- An error answer of CarbonShift. -/
def carbonshiftError (error : ApiError) : PostOutcome :=
  .response error.status (.ok (.object [("error", .string error.error)]))

/-- An error answer of the executor. -/
def executorError (error : ApiError) : PostOutcome :=
  .response error.status (.ok (.object [("detail", .string error.error)]))

/-- CarbonShift starts to close the slot. -/
def startsClosing (settings : ServiceSettings) (runtime : ServiceRuntime)
    (body : CloseSlotBody) (state : AppState σ) : Except ApiError Unit :=
  match closingSlot settings runtime state.slotEpochOffset body with
  | .error error => .error error
  | .ok engineSlot =>
      if state.currentSlot = engineSlot then
        .ok ()
      else
        .error (.conflict
          ("cannot close engine slot " ++ toString engineSlot ++
            "; CarbonShift is at " ++ toString state.currentSlot))

section Steps

variable (setup : Setup)

/-- The answer of the peer that a message reaches, and what it has done. -/
def handle (peer : Peer) (message : Message) (reply : PostOutcome)
    (deployment : Deployment setup σ) : PostOutcome × Deployment setup σ :=
  match peer.destination, message with
  | .carbonshift, .tick body =>
      if readable body then
        let handled := deployment.carbonshift.advanceSlot setup.carbonshift
          setup.runtime body
        (match handled.1 with
          | .error error => carbonshiftError error
          | .ok slot =>
              .response 200 (.ok (.object [("current_slot", .number slot)])),
          { deployment with carbonshift := handled.2 })
      else
        (unprocessable, deployment)
  | .closing, .close payload =>
      if fitsI64 payload.currentSlot then
        (match startsClosing setup.carbonshift setup.runtime
            { currentSlot := payload.currentSlot
              slotMinutes := payload.slotMinutes }
            deployment.carbonshift with
          | .error error => carbonshiftError error
          | .ok () => reply,
          deployment)
      else
        (unprocessable, deployment)
  | .executor, .tick body =>
      let handled := Executor.advanceSlot setup.iso setup.showFloat body
        deployment.executor
      (match handled.1 with
        | .error error => executorError error
        | .ok newTime =>
            .response 200 (.ok (.object
              [("current_time", .string (setup.iso.isoformat newTime))])),
        { deployment with executor := handled.2 })
  | _, _ => (reply, deployment)

/-- What the provider hears of a post, what the peer has done, and whether it
has confirmed. -/
def transmit (peer : Peer) (message : Message) (fate : Fate)
    (deployment : Deployment setup σ) :
    PostOutcome × Deployment setup σ × Bool :=
  match fate with
  | .requestLost text => (.requestException text, deployment, false)
  | .responseLost text =>
      let handled := handle setup peer message (.response 200 (.ok .null))
        deployment
      (.requestException text, handled.2,
        acknowledges peer message handled.1)
  | .answered reply =>
      let handled := handle setup peer message reply deployment
      (handled.1, handled.2, acknowledges peer message handled.1)

/-! ## Steps -/

inductive Action (σ : Type) where
  | receive (id : ℕ) (request : AdvanceRequest)
  | enter (index : ℕ)
  /-- The next post of the provider. -/
  | post (fate : Fate)
  /-- The main loop of CarbonShift reads the virtual clock. -/
  | readClock
  /-- The main loop stores the slot of the clock it has read. -/
  | storeSlot
  /-- Everything else in CarbonShift leaves its clock alone. -/
  | work (state : AppState σ)

/-- The peer and the message of the next post. -/
def nextPost (deployment : Deployment setup σ) : Option (Peer × Message) :=
  match deployment.provider.holder with
  | none => none
  | some (_, advance) =>
      advance.fanout.pending.head?.map fun peer => (peer, advance.message)

/-- The post in progress is tried again. -/
def retrying {grid : SlotGrid} (provider : Service grid) : Bool :=
  provider.holder.any fun held => 1 < held.2.fanout.attempt

/-- A step of the provider on its own. -/
def providerStep (action : Service.Action) (deployment : Deployment setup σ) :
    Option (Deployment setup σ) :=
  (Service.step setup.provider setup.source setup.iso deployment.provider
    action).map fun provider => { deployment with provider := provider }

def step (deployment : Deployment setup σ) :
    Action σ → Option (Deployment setup σ)
  | .receive id request => providerStep setup (.receive id request) deployment
  | .enter index =>
      providerStep setup (.enter index)
        { deployment with confirmedUnheard := false }
  | .post fate =>
      (nextPost setup deployment).bind fun (peer, message) =>
        let sent := transmit setup peer message fate deployment
        (providerStep setup (.post sent.1) sent.2.1).map fun next =>
          { next with
            confirmedUnheard :=
              retrying next.provider &&
                (deployment.confirmedUnheard || sent.2.2) }
  | .readClock =>
      match deployment.loopReading with
      | none =>
          some
            { deployment with
              loopReading := some deployment.carbonshift.virtualElapsedMs }
      | some _ => none
  | .storeSlot =>
      deployment.loopReading.map fun elapsedMs =>
        { deployment with
          carbonshift :=
            deployment.carbonshift.withShared
              (deployment.carbonshift.engine.shared.setCurrentSlot
                (slotOfClock setup.carbonshift elapsedMs))
          loopReading := none }
  | .work state =>
      if deployment.carbonshift.SameTime state then
        some { deployment with carbonshift := state }
      else
        none

/-- All services have just started; the executor's clock may show any time. -/
def start (instant : ℤ) (carbonForecast : List ℚ) (startedAt : ℤ)
    (executor : Executor.VirtualClock) : Deployment setup σ where
  provider := .start setup.provider.grid instant
  carbonshift := .new setup.carbonshift carbonForecast startedAt
  executor := executor
  loopReading := none
  confirmedUnheard := false

end Steps

end Deployment

end Provider

end Carbonshift
