import Carbonshift.Provider.Clock
import Carbonshift.Service.Clock
import Mathlib.Data.List.DropRight

/-!
# Notifications of the provider

A message goes to the peers in their order, each with a bounded number of
attempts.  The fan-out stops at the first peer that fails all of them.
-/

namespace Carbonshift

namespace Provider

/-! ## Peers -/

/-- Consumers follow the clock, producers submit work for a slot. -/
inductive Role where
  | consumer
  | producer
  deriving DecidableEq, Repr

/-- A component that is notified. -/
structure Peer where
  name : String
  baseUrl : String
  path : String
  order : ℕ
  role : Role
  /-- Field of the answer that has to confirm the slot. -/
  ackSlotField : Option String
  deriving DecidableEq, Repr

def Peer.url (peer : Peer) : String :=
  String.ofList (peer.baseUrl.toList.rdropWhile (· = '/')) ++ peer.path

/-- Settings of the provider that the advance of a slot reads. -/
structure Settings where
  grid : SlotGrid
  manualClock : Bool
  forecastHorizonSlots : ℕ
  notifyMaxAttempts : ℕ
  carbonshiftUrl : String
  /-- The executor is optional: a blank address leaves it out. -/
  executorUrl : String
  clientUrls : List String

def carbonshiftPeer (settings : Settings) : Peer where
  name := "carbonshift"
  baseUrl := settings.carbonshiftUrl
  path := "/v1/admin/advance-slot"
  order := 10
  role := .consumer
  ackSlotField := none

def executorPeer (settings : Settings) : Peer where
  name := "executor"
  baseUrl := settings.executorUrl
  path := "/admin/advance-slot"
  order := 20
  role := .consumer
  ackSlotField := none

/-- The client with this index, counted from zero. -/
def clientPeer (firstOrder index : ℕ) (baseUrl : String) : Peer where
  name := if index = 0 then "client" else "client-" ++ toString (index + 1)
  baseUrl := baseUrl
  path := "/v1/tick"
  order := firstOrder + index * 10
  role := .producer
  ackSlotField := some "slot"

/-- The clock consumers: CarbonShift, and the executor if there is one. -/
def consumersFromSettings (settings : Settings) : List Peer :=
  carbonshiftPeer settings ::
    if settings.executorUrl.toList.all Char.isWhitespace then
      []
    else
      [executorPeer settings]

/-- All peers, in the order of the policy. -/
def peersFromSettings (settings : Settings) : List Peer :=
  let consumers := consumersFromSettings settings
  consumers ++
    settings.clientUrls.mapIdx (clientPeer ((consumers.length + 1) * 10))

/-- The peers of a notification, lowest order first. -/
def notifyOrder (peers : List Peer) : List Peer :=
  peers.insertionSort fun left right => left.order ≤ right.order

/-! ## Messages and answers -/

/-- The slot that clients have finished. -/
structure CloseSlotMessage where
  currentSlot : ℤ
  slotMinutes : ℚ
  deriving DecidableEq, Repr

inductive Message where
  | tick (payload : AdvanceSlotBody)
  | close (payload : CloseSlotMessage)

/-- The slot that a message is about. -/
def Message.currentSlot : Message → Option ℤ
  | .tick payload => payload.currentSlot
  | .close payload => some payload.currentSlot

/-- What an attempt to post brings back; a response may carry no JSON. -/
inductive PostOutcome where
  | response (status : ℕ) (json : Except String Json)
  | requestException (text : String)

/-- A JSON value equals a slot number, as Python compares them. -/
def equalsSlot (value : Option Json) (slot : Option ℤ) : Bool :=
  match value, slot with
  | some (.number number), some slot => decide (number = slot)
  | some (.bool flag), some slot => decide ((if flag then 1 else 0) = slot)
  | some .null, none => true
  | none, none => true
  | _, _ => false

structure DeliveryResult where
  peer : String
  url : String
  ok : Bool
  attempts : ℕ
  statusCode : Option ℕ
  error : Option String
  deriving DecidableEq, Repr

def confirmed (peer : Peer) (attempt status : ℕ) : DeliveryResult where
  peer := peer.name
  url := peer.url
  ok := true
  attempts := attempt
  statusCode := some status
  error := none

/-- The answer of a peer whose own manual clock is disabled. -/
def refused (peer : Peer) (attempt : ℕ) : DeliveryResult where
  peer := peer.name
  url := peer.url
  ok := false
  attempts := attempt
  statusCode := some 409
  error := some "peer refused: its manual clock is not enabled (409)"

def exhausted (peer : Peer) (maxAttempts : ℕ) (lastError : String) :
    DeliveryResult where
  peer := peer.name
  url := peer.url
  ok := false
  attempts := maxAttempts
  statusCode := none
  error := some lastError

/-- The printed form of the slot of a message. -/
def showSlot : Option ℤ → String
  | none => "None"
  | some slot => toString slot

/-- Check the acknowledgement of a successful response. -/
def checkAcknowledgement (peer : Peer) (message : Message)
    (json : Except String Json) : Option String :=
  match peer.ackSlotField with
  | none => none
  | some field =>
      match json with
      | .error text => some ("invalid JSON acknowledgement: " ++ text)
      | .ok (.object fields) =>
          if equalsSlot (fields.lookup field) message.currentSlot then
            none
          else
            some ("acknowledgement did not confirm slot " ++
              showSlot message.currentSlot)
      | .ok _ =>
          some ("acknowledgement did not confirm slot " ++
            showSlot message.currentSlot)

/-- What one attempt decides: a result, or an error after which the delivery
may be tried again. -/
def judge (peer : Peer) (message : Message) (attempt : ℕ) :
    PostOutcome → DeliveryResult ⊕ String
  | .requestException text => .inr text
  | .response status json =>
      if status = 409 then
        .inl (refused peer attempt)
      else if 200 ≤ status ∧ status < 300 then
        match checkAcknowledgement peer message json with
        | none => .inl (confirmed peer attempt status)
        | some error => .inr error
      else
        .inr ("unexpected status " ++ toString status)

/-- The peer confirms the message. -/
def acknowledges (peer : Peer) (message : Message) : PostOutcome → Bool
  | .requestException _ => false
  | .response status json =>
      decide (200 ≤ status ∧ status < 300) &&
        (checkAcknowledgement peer message json).isNone

/-- A delivery succeeds exactly where the peer confirms. -/
theorem judge_cases (peer : Peer) (message : Message) (attempt : ℕ)
    (outcome : PostOutcome) :
    (acknowledges peer message outcome = true ∧
        ∃ result, judge peer message attempt outcome = .inl result ∧
          result.ok = true) ∨
      (acknowledges peer message outcome = false ∧
        ((∃ result, judge peer message attempt outcome = .inl result ∧
            result.ok = false) ∨
          ∃ error, judge peer message attempt outcome = .inr error)) := by
  cases outcome with
  | requestException text => exact Or.inr ⟨rfl, Or.inr ⟨text, rfl⟩⟩
  | response status json =>
      simp only [judge, acknowledges]
      by_cases conflict : status = 409
      · rw [if_pos conflict, conflict]
        exact Or.inr ⟨rfl, Or.inl ⟨_, rfl, rfl⟩⟩
      · rw [if_neg conflict]
        by_cases success : 200 ≤ status ∧ status < 300
        · rw [if_pos success, decide_eq_true success, Bool.true_and]
          cases checkAcknowledgement peer message json with
          | none => exact Or.inl ⟨rfl, _, rfl, rfl⟩
          | some error => exact Or.inr ⟨rfl, Or.inr ⟨error, rfl⟩⟩
        · rw [if_neg success, decide_eq_false success, Bool.false_and]
          exact Or.inr ⟨rfl, Or.inr ⟨_, rfl⟩⟩

/-! ## Fan-out -/

/-- A notification in progress: the first of the pending peers is being
notified. -/
structure Fanout where
  pending : List Peer
  attempt : ℕ
  results : List DeliveryResult

/-- More to post, or the results. -/
inductive FanoutProgress where
  | posting (fanout : Fanout)
  | finished (results : List DeliveryResult)

/-- Turn to the next peer, if there is one. -/
def Fanout.next (pending : List Peer) (results : List DeliveryResult) :
    FanoutProgress :=
  if pending.isEmpty then
    .finished results
  else
    .posting { pending := pending, attempt := 1, results := results }

/-- Notify these peers, in their order. -/
def notifyPeers (peers : List Peer) : FanoutProgress :=
  Fanout.next (notifyOrder peers) []

/-- The outcome of the next attempt. -/
def Fanout.post (maxAttempts : ℕ) (message : Message) (fanout : Fanout)
    (outcome : PostOutcome) : FanoutProgress :=
  match fanout.pending with
  | [] => .finished fanout.results
  | peer :: rest =>
      match judge peer message fanout.attempt outcome with
      | .inl result =>
          if result.ok then
            Fanout.next rest (fanout.results ++ [result])
          else
            .finished (fanout.results ++ [result])
      | .inr error =>
          if fanout.attempt < max 1 maxAttempts then
            .posting { fanout with attempt := fanout.attempt + 1 }
          else
            .finished (fanout.results ++ [exhausted peer maxAttempts error])

/-- Some peer failed. -/
def anyFailed (deliveries : List DeliveryResult) : Bool :=
  deliveries.any fun delivery => !delivery.ok

/-- There were peers, and none of them failed. -/
def allOk (deliveries : List DeliveryResult) : Bool :=
  !deliveries.isEmpty && deliveries.all DeliveryResult.ok

end Provider

end Carbonshift
