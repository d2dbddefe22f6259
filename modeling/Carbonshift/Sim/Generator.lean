import Carbonshift.Engine.ClockSlots
import Carbonshift.Engine.DpSolver
import Carbonshift.Engine.Requests

/-!
# Request generator

The generator follows the virtual clock.  It replays a trace, or draws the
requests of every slot, and catches up on the slots that the clock has jumped
over.
-/

namespace Carbonshift

namespace Generator

/-! ## Configuration -/

structure RequestGeneratorConfig where
  slotDurationSecs : ℚ
  slotDurationSecs_pos : 0 < slotDurationSecs
  /-- A 32-bit number. -/
  totalSlots : ℤ
  totalSlots_lt : totalSlots < 2 ^ 31
  requestsPerSlot : ℚ
  requestRateStdFactor : ℚ
  deadlineMinSlack : ℤ
  deadlineMaxSlack : ℤ
  skipEmptySlots : Bool
  realtimeChunkSize : ℕ
  prehistoryRandomSeed : ℕ

/-- The random distribution and the wall clock. -/
structure GeneratorRuntime where
  /-- A normal sample of a mean, a deviation and a seed, as an integer. -/
  sample : ℚ → ℚ → ℕ → ℤ
  /-- When the request of an identifier is made. -/
  now : ℕ → ℚ

variable (cfg : RequestGeneratorConfig) (runtime : GeneratorRuntime)
variable (scenario : Option (List (List Request)))

/-! ## Requests of a slot -/

/-- The slack follows from the identifier, so replays agree. -/
def generateRequest (arrivalSlot : ℤ) (id : ℕ) : Request :=
  let slackRange := max (cfg.deadlineMaxSlack - cfg.deadlineMinSlack) 0
  let slack := cfg.deadlineMinSlack +
    ((id : ℤ).bmod (2 ^ 32)).tmod (slackRange + 1)
  let deadlineSlot := min (arrivalSlot + slack) (cfg.totalSlots - 1)
  .new (runtime.now id) id arrivalSlot deadlineSlot

/-- How many requests are drawn for a slot. -/
def drawnCount (slot : ℤ) : ℕ :=
  let sigma := max (cfg.requestsPerSlot * cfg.requestRateStdFactor) 1
  let seed := (cfg.prehistoryRandomSeed + slot.toNat) % 2 ^ 64
  (max (runtime.sample cfg.requestsPerSlot sigma seed) 1).toNat

/-- The requests of a slot, and the next identifier. -/
def fetchRequests (slot : ℤ) (counter : ℕ) : List Request × ℕ :=
  match scenario with
  | some bySlot => (bySlot.getD slot.toNat [], counter)
  | none =>
      let num := drawnCount cfg runtime slot
      ((List.range num).map fun index =>
          generateRequest cfg runtime slot (counter + index),
        counter + num)

/-- In the order of their arrival. -/
def byArrivalTime (requests : List Request) : List Request :=
  requests.insertionSort fun left right => left.arrivalTime ≤ right.arrivalTime

/-- Pieces of a list that are not longer than the size, after the piece that
has been begun. -/
def chunksAfter {α : Type} (size : ℕ) (begun : List α) :
    List α → List (List α)
  | [] => if begun.isEmpty then [] else [begun]
  | item :: rest =>
      if size ≤ begun.length + 1 then
        (begun ++ [item]) :: chunksAfter size [] rest
      else
        chunksAfter size (begun ++ [item]) rest

def chunks {α : Type} (size : ℕ) (items : List α) : List (List α) :=
  chunksAfter size [] items

/-! ## The loop -/

/-- What the generator does to the shared state.  An addition carries the
reading of the virtual clock that it followed. -/
inductive GeneratorEvent where
  | added (elapsedMs : ℕ) (slot : ℤ) (chunk : List Request)
  | processed (slot : ℤ)

structure GeneratorState where
  lastSlot : ℤ
  /-- The next request identifier. -/
  counter : ℕ
  /-- How often the generator has looked whether it is to go on. -/
  looks : ℕ
  events : List GeneratorEvent

def GeneratorState.new : GeneratorState where
  lastSlot := -1
  counter := 0
  looks := 0
  events := []

def GeneratorState.emit (state : GeneratorState) (event : GeneratorEvent) :
    GeneratorState :=
  { state with events := state.events ++ [event] }

/-- The slot of a reading of the clock, as a 32-bit number. -/
def rawSlot (elapsedMs : ℕ) : ℤ :=
  clockSlot cfg.slotDurationSecs elapsedMs

/-- The last slot is processed even if the clock has moved past it. -/
def currentSlotOf (elapsedMs : ℕ) : ℤ :=
  min (rawSlot cfg elapsedMs) (cfg.totalSlots - 1)

/-- Answers whether the generator is to go on.  The looks that only end a
pause are left out. -/
abbrev Running :=
  ℕ → Bool

variable (running : Running)

/-- Paced emission looks before every chunk. -/
def emitPaced (elapsedMs : ℕ) (slot : ℤ) :
    List (List Request) → GeneratorState → GeneratorState
  | [], state => state
  | chunk :: rest, state =>
      let looked := { state with looks := state.looks + 1 }
      if running state.looks then
        emitPaced elapsedMs slot rest
          (looked.emit (.added elapsedMs slot chunk))
      else
        looked

def emitBurst (elapsedMs : ℕ) (slot : ℤ) (pieces : List (List Request))
    (state : GeneratorState) : GeneratorState :=
  pieces.foldl (fun state chunk => state.emit (.added elapsedMs slot chunk))
    state

/-- Emit the requests of a slot. -/
def processSlot (elapsedMs : ℕ) (state : GeneratorState) (slot : ℤ) :
    GeneratorState :=
  let fetched := fetchRequests cfg runtime scenario slot state.counter
  let requests := byArrivalTime fetched.1
  let counted := { state with counter := fetched.2 }
  let emitted :=
    if cfg.skipEmptySlots = false ∧ requests ≠ [] ∧
        slot = currentSlotOf cfg elapsedMs then
      emitPaced running elapsedMs slot
        (chunks (max cfg.realtimeChunkSize 1) requests) counted
    else
      emitBurst elapsedMs slot (chunks 50 requests) counted
  emitted.emit (.processed slot)

/-- Catch up with a reading of the clock. -/
def catchUp (elapsedMs : ℕ) (state : GeneratorState) : GeneratorState :=
  let currentSlot := currentSlotOf cfg elapsedMs
  if state.lastSlot < currentSlot then
    { (slotRange (state.lastSlot + 1) currentSlot).foldl
        (processSlot cfg runtime scenario running elapsedMs) state with
      lastSlot := currentSlot }
  else
    state

/-- How the loop stands after the readings. -/
inductive LoopEnd where
  | waiting
  | stopped
  | finished (unread : List ℕ)
  deriving DecidableEq, Repr

/-- The loop, with one reading of the clock for each pass. -/
def generatorLoop : List ℕ → GeneratorState → GeneratorState × LoopEnd
  | [], state => (state, .waiting)
  | elapsedMs :: readings, state =>
      if running state.looks then
        let passed := catchUp cfg runtime scenario running elapsedMs
          { state with looks := state.looks + 1 }
        if cfg.totalSlots ≤ rawSlot cfg elapsedMs then
          (passed, .finished readings)
        else
          generatorLoop readings passed
      else
        (state, .stopped)

end Generator

end Carbonshift
