import Carbonshift.Client.PlanRunner

/-!
# The plans of the client

Plans are stored, not run.  A plan knows the global slot it begins in and how
many slots it spans, so that a tick finds the plans it belongs to by a
subtraction.
-/

namespace Carbonshift

namespace Client

open Provider (SlotGrid)

structure Plan where
  grid : SlotGrid
  requests : List PlanRequest
  nonempty : requests ≠ []
  /-- Global slot of the first request. -/
  planStartSlot : ℤ
  slotCount : ℤ
  /-- Latest slot that was handled. -/
  lastProcessedSlot : Option ℤ

namespace Plan

/-- Start of the latest request. -/
def lastStart (requests : List PlanRequest) (nonempty : requests ≠ []) : ℤ :=
  (requests.map PlanRequest.startAt).foldl max
    (requests.head nonempty).startAt

def new (grid : SlotGrid) (requests : List PlanRequest)
    (nonempty : requests ≠ []) : Plan :=
  let planStartSlot :=
    slotOf grid (floorToSlot grid (requests.head nonempty).startAt)
  let lastSlot :=
    slotOf grid (floorToSlot grid (lastStart requests nonempty))
  { grid := grid
    requests := requests
    nonempty := nonempty
    planStartSlot := planStartSlot
    slotCount := lastSlot - planStartSlot + 1
    lastProcessedSlot := none }

variable (plan : Plan)

def reference : ℤ :=
  (plan.requests.head plan.nonempty).startAt

/-- Index of a global slot in the plan. -/
def indexOf (slot : ℤ) : Option ℤ :=
  let index := slot - plan.planStartSlot
  if 0 ≤ index ∧ index < plan.slotCount then some index else none

/-- Was this slot, or a later one, handled? -/
def alreadyProcessed (slot : ℤ) : Bool :=
  plan.lastProcessedSlot.any fun last => decide (slot ≤ last)

def markProcessed (slot : ℤ) : Plan :=
  { plan with lastProcessedSlot := some slot }

def batch (planIndex : ℤ) : List PlanRequest :=
  getBatchFromSlot plan.grid plan.reference plan.requests planIndex

end Plan

/-- All plans; their numbers only ever grow. -/
structure PlanStore where
  plans : OrderedDictionary ℕ Plan
  nextPlanId : ℕ
  counted : ∀ planId ∈ plans.keys, planId < nextPlanId

namespace PlanStore

def new : PlanStore where
  plans := ∅
  nextPlanId := 1
  counted _ member := absurd member List.not_mem_nil

variable (store : PlanStore)

def storePlan (grid : SlotGrid) (requests : List PlanRequest) :
    Except String (ℕ × PlanStore) :=
  if nonempty : requests ≠ [] then
    .ok (store.nextPlanId,
      { plans :=
          store.plans.insert store.nextPlanId (.new grid requests nonempty)
        nextPlanId := store.nextPlanId + 1
        counted := by
          intro planId member
          rcases OrderedDictionary.mem_keys_insert_iff.mp member with
            earlier | rfl
          · exact Nat.lt_succ_of_lt (store.counted planId earlier)
          · exact Nat.lt_succ_self _ })
  else
    .error "a plan must contain at least one request"

/-- The plans that span a slot, with its index in each. -/
def getPlanForSlot (slot : ℤ) : List (ℕ × ℤ) :=
  store.plans.pairs.filterMap fun entry =>
    (entry.2.indexOf slot).map fun index => (entry.1, index)

def isSlotAlreadyProcessed (planId : ℕ) (slot : ℤ) : Bool :=
  (store.plans.lookup planId).any fun plan => plan.alreadyProcessed slot

def markSlotProcessed (planId : ℕ) (slot : ℤ) : PlanStore where
  plans := store.plans.adjust planId fun plan => plan.markProcessed slot
  nextPlanId := store.nextPlanId
  counted := by
    intro other member
    rw [OrderedDictionary.keys_adjust] at member
    exact store.counted other member

end PlanStore

end Client

end Carbonshift
