import Carbonshift.Library.Transition
import Carbonshift.Provider.Notifications

/-!
# Advancing the slot at the provider

An advance announces the first slot, closes the active one, moves the clock,
and notifies the peers of the next.  A lock is held from the first check to
the answer; every post is a step, so that requests arrive between them.
-/

namespace Carbonshift

namespace Provider

/-- Where the carbon values come from. -/
structure CarbonSource where
  name : String
  /-- The reading of the slot that has been entered, if it has settled. -/
  observe : ℤ → Option ObservedPoint
  /-- So many values from a slot on. -/
  forecast : ℤ → ℕ → List ForecastPoint

/-- Outcome of one rollover. -/
structure RolloverReport where
  tick : Option SlotTick
  deliveries : List DeliveryResult
  deriving DecidableEq, Repr

structure AdvanceRequest where
  /-- Refuse the advance in any other slot. -/
  expectSlot : Option ℤ
  notifyPeers : Bool
  deriving DecidableEq, Repr

structure AdvanceResponse where
  currentSlot : ℤ
  slotStartUtc : String
  localStep : ℕ
  source : String
  notified : Bool
  allOk : Bool
  deliveries : List DeliveryResult
  deriving DecidableEq, Repr

/-- The answer to an advance. -/
inductive AdvanceAnswer where
  | advanced (response : AdvanceResponse)
  /-- 409, with the text. -/
  | conflict (detail : String)
  /-- 503: an earlier rollover failed. -/
  | refusedDesynced (report : RolloverReport)
  /-- 503: the announcement failed. -/
  | announcementFailed (deliveries : List DeliveryResult)
  /-- 503: the slot could not be closed. -/
  | slotCloseFailed (currentSlot : ℤ) (deliveries : List DeliveryResult)
  /-- 503: the clock has moved, but a peer has not followed. -/
  | desynced (report : RolloverReport)
  /-- 500: there is no peer called carbonshift. -/
  | noCarbonshiftPeer
  deriving DecidableEq, Repr

/-- Which notification of an advance is in progress, and what is known before
it. -/
inductive Stage where
  | announceConsumers
  | announceProducers (consumers : List DeliveryResult)
  | close (announcement : List DeliveryResult)
  | rollover (announcement close : List DeliveryResult) (tick : SlotTick)
  deriving DecidableEq, Repr

/-- An advance between two posts. -/
structure Advance where
  request : AdvanceRequest
  stage : Stage
  message : Message
  fanout : Fanout

inductive Progress where
  | posting (advance : Advance)
  | answered (answer : AdvanceAnswer)

/-- The variables of the service. -/
structure Globals (grid : SlotGrid) where
  clock : ProviderClock grid
  observedReadings : Dictionary ℤ ObservedPoint
  /-- The report of the rollover that failed. -/
  desynced : Option RolloverReport

section Handler

variable (settings : Settings) (source : CarbonSource) (iso : IsoFormat)

/-- Take the reading of the current slot. -/
def takeReading (state : Globals settings.grid) : Globals settings.grid :=
  match source.observe state.clock.currentSlot with
  | none => state
  | some reading =>
      { state with
        observedReadings :=
          state.observedReadings.insert state.clock.currentSlot reading }

/-- The body pushed to every peer. -/
def buildRolloverPayload (kind : String) (clock : ProviderClock settings.grid) :
    AdvanceSlotBody where
  source := source.name
  kind := kind
  currentSlot := some clock.currentSlot
  slotStartUtc :=
    some (iso.isoformat (settings.grid.slotStart clock.currentSlot))
  slotMinutes := some settings.grid.slotMinutes
  observed := source.observe clock.currentSlot
  forecast :=
    some (source.forecast clock.currentSlot settings.forecastHorizonSlots)

/-- The peer that closes a slot. -/
def closePeer (carbonshift : Peer) : Peer where
  name := "carbonshift-close-slot"
  baseUrl := carbonshift.baseUrl
  path := "/v1/admin/close-slot"
  order := 10
  role := .consumer
  ackSlotField := some "current_slot"

/-- Remember the first report of a failed rollover. -/
def markDesynced (report : RolloverReport) (state : Globals settings.grid) :
    Globals settings.grid :=
  { state with desynced := some (state.desynced.getD report) }

/-- Answer after the rollover. -/
def finishRollover (request : AdvanceRequest)
    (announcement close : List DeliveryResult) (tick : SlotTick)
    (deliveries : List DeliveryResult) (state : Globals settings.grid) :
    Globals settings.grid × Progress :=
  let complete : RolloverReport :=
    { tick := some tick
      deliveries := announcement ++ close ++ deliveries }
  if request.notifyPeers && anyFailed deliveries then
    (markDesynced settings complete state, .answered (.desynced complete))
  else
    (state, .answered (.advanced
      { currentSlot := tick.globalSlot
        slotStartUtc := iso.isoformat tick.startedAtUtc
        localStep := tick.localStep
        source := source.name
        notified := request.notifyPeers
        allOk := allOk complete.deliveries
        deliveries := complete.deliveries }))

/-- Move the clock, take the reading, and notify the peers. -/
def rollover (request : AdvanceRequest)
    (announcement close : List DeliveryResult) (state : Globals settings.grid) :
    Globals settings.grid × Progress :=
  let moved := state.clock.advance
  let entered := takeReading settings source { state with clock := moved.2 }
  match if request.notifyPeers then
      notifyPeers (peersFromSettings settings)
    else
      .finished [] with
  | .posting fanout =>
      (entered, .posting
        { request := request
          stage := .rollover announcement close moved.1
          message := .tick
            (buildRolloverPayload settings source iso "rollover" moved.2)
          fanout := fanout })
  | .finished deliveries =>
      finishRollover settings source iso request announcement close moved.1
        deliveries entered

/-- The slot was closed, or not. -/
def finishClose (request : AdvanceRequest)
    (announcement close : List DeliveryResult) (state : Globals settings.grid) :
    Globals settings.grid × Progress :=
  if request.notifyPeers && anyFailed close then
    (state, .answered (.slotCloseFailed state.clock.currentSlot close))
  else
    rollover settings source iso request announcement close state

/-- Ask CarbonShift to flush and drain the slot. -/
def closeCurrentSlot (request : AdvanceRequest)
    (announcement : List DeliveryResult) (state : Globals settings.grid) :
    Globals settings.grid × Progress :=
  if request.notifyPeers then
    match (peersFromSettings settings).find? (·.name = "carbonshift") with
    | none => (state, .answered .noCarbonshiftPeer)
    | some carbonshift =>
        (state, .posting
          { request := request
            stage := .close announcement
            message := .close
              { currentSlot := state.clock.currentSlot
                slotMinutes := settings.grid.slotMinutes }
            fanout :=
              { pending := [closePeer carbonshift]
                attempt := 1
                results := [] } })
  else
    finishClose settings source iso request announcement [] state

/-- The first slot was announced, or not. -/
def finishAnnounce (request : AdvanceRequest)
    (announcement : List DeliveryResult) (state : Globals settings.grid) :
    Globals settings.grid × Progress :=
  if request.notifyPeers && anyFailed announcement then
    (state, .answered (.announcementFailed announcement))
  else
    closeCurrentSlot settings source iso request announcement state

/-- The peers of one role. -/
def peersOf (role : Role) : List Peer :=
  (peersFromSettings settings).filter fun peer => peer.role = role

/-- Announce to the producers once all consumers have confirmed. -/
def announceProducers (request : AdvanceRequest)
    (consumers : List DeliveryResult) (state : Globals settings.grid) :
    Globals settings.grid × Progress :=
  if consumers.all DeliveryResult.ok then
    match notifyPeers (peersOf settings .producer) with
    | .posting fanout =>
        (state, .posting
          { request := request
            stage := .announceProducers consumers
            message := .tick
              (buildRolloverPayload settings source iso "announce" state.clock)
            fanout := fanout })
    | .finished producers =>
        finishAnnounce settings source iso request (consumers ++ producers)
          state
  else
    finishAnnounce settings source iso request consumers state

/-- Tell every peer in which slot the provider is. -/
def announce (request : AdvanceRequest) (state : Globals settings.grid) :
    Globals settings.grid × Progress :=
  let read := takeReading settings source state
  if request.notifyPeers then
    match notifyPeers (peersOf settings .consumer) with
    | .posting fanout =>
        (read, .posting
          { request := request
            stage := .announceConsumers
            message := .tick
              (buildRolloverPayload settings source iso "announce" read.clock)
            fanout := fanout })
    | .finished consumers =>
        announceProducers settings source iso request consumers read
  else
    finishAnnounce settings source iso request [] read

/-- The checks, and everything up to the first post. -/
def begin (request : AdvanceRequest) (state : Globals settings.grid) :
    Globals settings.grid × Progress :=
  if settings.manualClock = false then
    (state, .answered (.conflict "PROVIDER_MANUAL_CLOCK is not enabled"))
  else
    match state.desynced with
    | some report => (state, .answered (.refusedDesynced report))
    | none =>
        if request.expectSlot.all (· = state.clock.currentSlot) then
          if state.clock.localStep = 0 then
            announce settings source iso request state
          else
            closeCurrentSlot settings source iso request [] state
        else
          (state, .answered (.conflict ("slot mismatch: expected " ++
            showSlot request.expectSlot ++ ", provider is at " ++
            toString state.clock.currentSlot)))

/-- Go on with the results of a notification. -/
def finish (advance : Advance) (results : List DeliveryResult)
    (state : Globals settings.grid) : Globals settings.grid × Progress :=
  match advance.stage with
  | .announceConsumers =>
      announceProducers settings source iso advance.request results state
  | .announceProducers consumers =>
      finishAnnounce settings source iso advance.request (consumers ++ results)
        state
  | .close announcement =>
      finishClose settings source iso advance.request announcement results
        state
  | .rollover announcement close tick =>
      finishRollover settings source iso advance.request announcement close
        tick results state

/-- One post and what follows from its outcome. -/
def resume (advance : Advance) (outcome : PostOutcome)
    (state : Globals settings.grid) : Globals settings.grid × Progress :=
  match advance.fanout.post settings.notifyMaxAttempts advance.message
      outcome with
  | .posting fanout => (state, .posting { advance with fanout := fanout })
  | .finished results => finish settings source iso advance results state

end Handler

/-! ## Requests under the lock -/

/-- The service with its requests; at most one of them holds the lock. -/
structure Service (grid : SlotGrid) where
  globals : Globals grid
  waiting : List (ℕ × AdvanceRequest)
  holder : Option (ℕ × Advance)
  answered : List (ℕ × AdvanceAnswer)

namespace Service

/-- A provider that has just started. -/
def start (grid : SlotGrid) (instant : ℤ) : Service grid where
  globals :=
    { clock := .startAt grid instant
      observedReadings := ∅
      desynced := none }
  waiting := []
  holder := none
  answered := []

/-- The requests that have arrived. -/
def known {grid : SlotGrid} (service : Service grid) : List ℕ :=
  service.waiting.map Prod.fst ++
    service.holder.toList.map Prod.fst ++ service.answered.map Prod.fst

inductive Action where
  /-- A new request arrives and waits for the lock. -/
  | receive (id : ℕ) (request : AdvanceRequest)
  /-- One of the waiting requests takes the lock. -/
  | enter (index : ℕ)
  /-- The next post of the request that holds the lock. -/
  | post (outcome : PostOutcome)

section Steps

variable (settings : Settings) (source : CarbonSource) (iso : IsoFormat)

/-- Keep the lock for the next post, or answer and release it. -/
def proceed (id : ℕ) (handled : Globals settings.grid × Progress)
    (service : Service settings.grid) : Service settings.grid :=
  match handled.2 with
  | .posting advance =>
      { service with
        globals := handled.1
        holder := some (id, advance) }
  | .answered answer =>
      { service with
        globals := handled.1
        holder := none
        answered := service.answered ++ [(id, answer)] }

/-- One step; `none` is an action that cannot be taken. -/
def step (service : Service settings.grid) :
    Action → Option (Service settings.grid)
  | .receive id request =>
      if id ∈ service.known then
        none
      else
        some { service with waiting := service.waiting ++ [(id, request)] }
  | .enter index =>
      match service.holder, service.waiting[index]? with
      | none, some (id, request) =>
          some (proceed settings id
            (begin settings source iso request service.globals)
            { service with waiting := service.waiting.eraseIdx index })
      | _, _ => none
  | .post outcome =>
      service.holder.map fun held =>
        proceed settings held.1
          (resume settings source iso held.2 outcome service.globals) service

end Steps

end Service

end Provider

end Carbonshift
