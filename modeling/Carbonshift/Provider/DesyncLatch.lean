import Carbonshift.Library.ListFacts
import Carbonshift.Provider.HandlerSteps

/-!
# The desync latch

What happened is recorded next to the run: which close was confirmed, when the
clock moved, and which peers were notified of the new slot.  The clock moves
again only after everybody has followed its last move.
-/

namespace Carbonshift

namespace Provider

/-! ## What happened -/

/-- The clock moved under a request. -/
structure Move where
  id : ℕ
  expectSlot : Option ℤ
  before : ℤ
  after : ℤ
  deriving DecidableEq, Repr

inductive Event where
  /-- The peer confirmed that the slot is closed. -/
  | closeAcknowledged (id : ℕ) (peer : Peer) (slot : ℤ)
  | moved (move : Move)
  /-- The peer confirmed the slot that was entered. -/
  | notified (id : ℕ) (peer : Peer)
  deriving DecidableEq, Repr

def Event.move? : Event → Option Move
  | .moved move => some move
  | _ => none

def movesOf (events : List Event) : List Move :=
  events.filterMap Event.move?

namespace Service

/-- A close or an entered slot that a peer confirms. -/
def acknowledgement {grid : SlotGrid} (service : Service grid) :
    Action → List Event
  | .post outcome =>
      match service.holder with
      | none => []
      | some (id, advance) =>
          match advance.fanout.pending with
          | [] => []
          | peer :: _ =>
              if acknowledges peer advance.message outcome then
                match advance.message, advance.stage with
                | .close payload, _ =>
                    [.closeAcknowledged id peer payload.currentSlot]
                | .tick _, .rollover _ _ _ => [.notified id peer]
                | .tick _, _ => []
              else
                []
  | _ => []

/-- The request on whose behalf the action is taken. -/
def actor {grid : SlotGrid} (service : Service grid) :
    Action → Option (ℕ × Option ℤ)
  | .receive id request => some (id, request.expectSlot)
  | .enter index =>
      service.waiting[index]?.map fun waiting =>
        (waiting.1, waiting.2.expectSlot)
  | .post _ =>
      service.holder.map fun held => (held.1, held.2.request.expectSlot)

/-- The move of the clock between two states. -/
def movement {grid : SlotGrid} (service next : Service grid)
    (actor : ℕ × Option ℤ) : List Event :=
  if next.globals.clock.currentSlot = service.globals.clock.currentSlot then
    []
  else
    [.moved
      { id := actor.1
        expectSlot := actor.2
        before := service.globals.clock.currentSlot
        after := next.globals.clock.currentSlot }]

section Observation

variable (settings : Settings) (source : CarbonSource) (iso : IsoFormat)

/-- What the action adds to the record. -/
def happened (service : Service settings.grid) (action : Action) :
    List Event :=
  service.acknowledgement action ++
    match step settings source iso service action, service.actor action with
    | some next, some actor => service.movement next actor
    | _, _ => []

def record (service : Service settings.grid) (action : Action)
    (events : List Event) : List Event :=
  events ++ happened settings source iso service action

end Observation

end Service

/-! ## Records -/

/-- All peers of the fan-out have confirmed every move. -/
def Settled (settings : Settings) (events : List Event) : Prop :=
  ∀ earlier move later, events = earlier ++ .moved move :: later →
    ∀ peer ∈ peersFromSettings settings, .notified move.id peer ∈ later

/-- All peers have confirmed a move before the next one. -/
def Latched (settings : Settings) (events : List Event) : Prop :=
  ∀ earlier move middle next later,
    events = earlier ++ .moved move :: (middle ++ .moved next :: later) →
      ∀ peer ∈ peersFromSettings settings, .notified move.id peer ∈ middle

/-- The answer reports the only move under the request. -/
def Reports (events : List Event) (id : ℕ) (response : AdvanceResponse) :
    Prop :=
  ∃ move, (movesOf events).filter (fun move => move.id = id) = [move] ∧
    response.currentSlot = move.after

/-- CarbonShift has confirmed the close of every slot that was left. -/
def Closed (settings : Settings) (events : List Event) : Prop :=
  ∀ earlier move later, events = earlier ++ .moved move :: later →
    .closeAcknowledged move.id (closePeer (carbonshiftPeer settings))
      move.before ∈ earlier

section Records

variable {settings : Settings} {events : List Event} {event : Event}
variable {move : Move}

theorem mem_movesOf {events : List Event} {move : Move} :
    move ∈ movesOf events ↔ .moved move ∈ events := by
  rw [movesOf, List.mem_filterMap]
  constructor
  · rintro ⟨event, member, same⟩
    cases event with
    | moved other =>
        cases same
        exact member
    | closeAcknowledged id peer slot => cases same
    | notified id peer => cases same
  · intro member
    exact ⟨_, member, rfl⟩

@[simp]
theorem movesOf_append (earlier later : List Event) :
    movesOf (earlier ++ later) = movesOf earlier ++ movesOf later :=
  List.filterMap_append

theorem Settled.nil : Settled settings [] := by
  intro earlier move later split
  exact absurd split (by simp)

theorem Latched.nil : Latched settings [] := by
  intro earlier move middle next later split
  exact absurd split (by simp)

theorem Closed.nil : Closed settings [] := by
  intro earlier move later split
  exact absurd split (by simp)

/-- Other events leave it settled. -/
theorem Settled.concat (settled : Settled settings events)
    (quiet : event.move? = none) : Settled settings (events ++ [event]) := by
  intro earlier move later split peer member
  rcases List.concat_eq_split split with ⟨_, _, rfl⟩ | ⟨rest, rfl, before⟩
  · cases quiet
  · exact List.mem_append_left _ (settled earlier move rest before peer member)

theorem Latched.concat (latched : Latched settings events)
    (quiet : event.move? = none) : Latched settings (events ++ [event]) := by
  intro earlier move middle next later split peer member
  rw [← List.cons_append, ← List.append_assoc] at split
  rcases List.concat_eq_split split with ⟨_, _, rfl⟩ | ⟨rest, rfl, before⟩
  · cases quiet
  · rw [List.append_assoc, List.cons_append] at before
    exact latched earlier move middle next rest before peer member

theorem Closed.concat (closed : Closed settings events)
    (quiet : event.move? = none) : Closed settings (events ++ [event]) := by
  intro earlier move later split
  rcases List.concat_eq_split split with ⟨_, _, rfl⟩ | ⟨rest, rfl, before⟩
  · cases quiet
  · exact closed earlier move rest before

/-- The clock may move once everything is settled. -/
theorem Latched.concat_moved (latched : Latched settings events)
    (settled : Settled settings events) :
    Latched settings (events ++ [.moved move]) := by
  intro earlier first middle next later split peer member
  rw [← List.cons_append, ← List.append_assoc] at split
  rcases List.concat_eq_split split with ⟨_, rfl, _⟩ | ⟨rest, rfl, before⟩
  · exact settled earlier first middle rfl peer member
  · rw [List.append_assoc, List.cons_append] at before
    exact latched earlier first middle next rest before peer member

theorem Closed.concat_moved (closed : Closed settings events)
    (acknowledged : .closeAcknowledged move.id
      (closePeer (carbonshiftPeer settings)) move.before ∈ events) :
    Closed settings (events ++ [.moved move]) := by
  intro earlier other later split
  rcases List.concat_eq_split split with ⟨_, rfl, same⟩ | ⟨rest, rfl, before⟩
  · cases same
    exact acknowledged
  · exact closed earlier other rest before

/-- The last move is the only one that may be open. -/
theorem Settled.append_move {earlier later : List Event}
    (settled : Settled settings earlier) (last : movesOf later = [])
    (reached : ∀ peer ∈ peersFromSettings settings,
      .notified move.id peer ∈ later) :
    Settled settings (earlier ++ .moved move :: later) := by
  have unmoved : ∀ other, .moved other ∉ later := by
    intro other member
    rw [← mem_movesOf, last] at member
    exact List.not_mem_nil member
  intro before other after split peer member
  rcases List.append_eq_append_iff.mp split with
    ⟨between, rfl, rest⟩ | ⟨between, rfl, rest⟩
  · cases between with
    | nil =>
        cases rest
        exact reached peer member
    | cons head tail =>
        obtain ⟨_, inside⟩ := List.cons.inj rest
        refine absurd ?_ (unmoved other)
        rw [inside]
        exact List.mem_append_right _ List.mem_cons_self
  · cases between with
    | nil =>
        cases rest
        exact reached peer member
    | cons head tail =>
        obtain ⟨rfl, rfl⟩ := List.cons.inj rest
        exact List.mem_append_left _
          (settled before other tail rfl peer member)

end Records

/-- The clock moves by one slot, from a slot whose close CarbonShift has
confirmed, and only after all peers have confirmed the move before. -/
structure DesyncLatch (settings : Settings) (events : List Event)
    (service : Service settings.grid) : Prop where
  latched : Latched settings events
  closed : Closed settings events
  oneSlot : ∀ move ∈ movesOf events, move.after = move.before + 1
  answered : ∀ id response, (id, .advanced response) ∈ service.answered →
    Reports events id response
  onlyOnce : ∀ slot, ((movesOf events).filter fun move =>
    move.expectSlot = some slot).length ≤ 1

end Provider

end Carbonshift
