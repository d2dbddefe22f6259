import Carbonshift.Engine.Qos

/-!
# Requests and assignments

A request carries its resolved QoS profile, or none for offline callers.  An
assignment carries the profile whose budget it contributes to.
-/

namespace Carbonshift

/-- A request that arrives at `arrivalSlot` with a deadline. -/
structure Request where
  id : ℕ
  arrivalSlot : ℤ
  deadlineSlot : ℤ
  /-- Arrival time in seconds. -/
  arrivalTime : ℚ
  qosProfile : Option QosProfile
  /-- Budget identity used for batching and error accounting. -/
  qosProfileId : QosProfileId
  deriving DecidableEq, Repr

namespace Request

def new (now : ℚ) (id : ℕ) (arrivalSlot deadlineSlot : ℤ) : Request where
  id := id
  arrivalSlot := arrivalSlot
  deadlineSlot := deadlineSlot
  arrivalTime := now
  qosProfile := none
  qosProfileId := .defaultProfile

/-- A request with a resolved QoS profile. -/
def newForQosProfile (now : ℚ) (id : ℕ) (arrivalSlot deadlineSlot : ℤ)
    (profile : QosProfile) : Request where
  id := id
  arrivalSlot := arrivalSlot
  deadlineSlot := deadlineSlot
  arrivalTime := now
  qosProfile := some profile
  qosProfileId := profile.profileId

end Request

/-- A scheduling decision for one request. -/
structure Assignment where
  requestId : ℕ
  scheduledSlot : ℤ
  flavourName : String
  carbonCost : ℚ
  error : ℚ
  /-- Duration in seconds of the assigned flavour. -/
  flavourDuration : ℚ
  arrivalSlot : Option ℤ
  deadlineSlot : Option ℤ
  qosProfileId : QosProfileId
  deriving DecidableEq, Repr

/-- An assignment that does not name a profile counts for the default one. -/
def Assignment.new (requestId : ℕ) (scheduledSlot : ℤ) (flavourName : String)
    (carbonCost error flavourDuration : ℚ)
    (arrivalSlot deadlineSlot : Option ℤ) : Assignment where
  requestId := requestId
  scheduledSlot := scheduledSlot
  flavourName := flavourName
  carbonCost := carbonCost
  error := error
  flavourDuration := flavourDuration
  arrivalSlot := arrivalSlot
  deadlineSlot := deadlineSlot
  qosProfileId := .defaultProfile

/-- The identifiers of a list of requests, in order. -/
abbrev requestIds (requests : List Request) : List ℕ :=
  requests.map Request.id

/-- The identifiers of a list of assignments, in order. -/
abbrev assignmentIds (assignments : List Assignment) : List ℕ :=
  assignments.map Assignment.requestId

end Carbonshift
