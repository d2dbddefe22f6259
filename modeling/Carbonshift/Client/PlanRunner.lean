import Carbonshift.Client.Tracker

/-!
# Submitting the requests of a plan

A plan is submitted slot by slot.  The client asks CarbonShift to run each
request of the slot and tracks the accepted ones.
-/

namespace Carbonshift

namespace Client

open Provider (SlotGrid)

/-- One request of a plan; instants are microseconds. -/
structure PlanRequest where
  task : String
  qosProfileId : Option String
  startAt : ℤ
  deadlineAt : ℤ

/-- A batch that is submitted for one slot. -/
structure SlotBatch where
  grid : SlotGrid
  slot : ℤ
  /-- Simulated time; the wall clock if there is none. -/
  deadlineReference : Option ℤ

namespace SlotBatch

variable (batch : SlotBatch)

/-- Time that a request leaves CarbonShift, at least one second. -/
def deadlineSeconds (request : PlanRequest) (submittedAt : ℤ) : ℚ :=
  let deadlineEnd := ceilToSlotEnd batch.grid request.deadlineAt
  let deadlineNow := batch.deadlineReference.getD submittedAt
  max (secondsBetween deadlineNow deadlineEnd) 1

/-- The record of an accepted request. -/
def track (request : PlanRequest) (submittedAt : ℤ) (ack : Ack) (now : ℤ) :
    TrackedRequest :=
  .new ack.requestId request.task
    (batch.deadlineSeconds request submittedAt) submittedAt ack
    (some batch.slot) request.qosProfileId now

end SlotBatch

/-! ## The requests of a slot -/

/-- Requests by the index of their slot relative to the reference. -/
def groupBySlot (grid : SlotGrid) (reference : ℤ)
    (requests : List PlanRequest) :
    OrderedDictionary ℤ (List PlanRequest) :=
  requests.foldl (fun groups request =>
    let index := slotIndex grid request.startAt reference
    groups.insert index ((groups.lookup index).getD [] ++ [request])) ∅

/-- The requests of one index of a plan. -/
def getBatchFromSlot (grid : SlotGrid) (reference : ℤ)
    (requests : List PlanRequest) (planIndex : ℤ) : List PlanRequest :=
  ((groupBySlot grid reference requests).lookup planIndex).getD []

theorem getBatchFromSlot_eq (grid : SlotGrid) (reference : ℤ)
    (requests : List PlanRequest) (planIndex : ℤ) :
    getBatchFromSlot grid reference requests planIndex =
      requests.filter fun request =>
        slotIndex grid request.startAt reference = planIndex := by
  unfold getBatchFromSlot groupBySlot
  induction requests using List.reverseRecOn with
  | nil => rfl
  | append_singleton earlier request inductionHypothesis =>
      rw [List.foldl_append, List.foldl_cons, List.foldl_nil,
        List.filter_append]
      by_cases here : slotIndex grid request.startAt reference = planIndex
      · rw [here, OrderedDictionary.lookup_insert_self, Option.getD_some,
          inductionHypothesis, List.filter_singleton, here]
        simp
      · rw [OrderedDictionary.lookup_insert_of_ne _ _ (Ne.symm here),
          inductionHypothesis, List.filter_singleton]
        simp [here]

end Client

end Carbonshift
