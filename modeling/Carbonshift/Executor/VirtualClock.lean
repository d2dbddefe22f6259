import Carbonshift.Provider.Clock
import Carbonshift.Service.Clock

/-!
# The executor's clock

A frozen clock that an announcement sets and every other message of the
provider moves by one slot length.
-/

namespace Carbonshift

namespace Executor

/-- The virtual time, in microseconds, and the configured slot length. -/
structure VirtualClock where
  manual : Bool
  slotMinutes : ℚ
  virtualNow : ℤ
  deriving DecidableEq, Repr

namespace VirtualClock

def advanceToNextSlot (clock : VirtualClock) : VirtualClock :=
  { clock with
    virtualNow := clock.virtualNow + Provider.timedelta clock.slotMinutes }

def forceSet (newTime : ℤ) (clock : VirtualClock) : VirtualClock :=
  { clock with virtualNow := newTime }

/-- The provider's slot is as long as ours. -/
def sameSlotLength (clock : VirtualClock) (minutes : ℚ) : Bool :=
  decide (0 < minutes) &&
    decide (|minutes - clock.slotMinutes| ≤ 1 / 1000000000)

end VirtualClock

/-- An exception that no handler catches. -/
def internalServerError : ApiError := ⟨500, "Internal Server Error"⟩

section Handler

variable (iso : Provider.IsoFormat) (showFloat : ℚ → String)

/-- Why a message of the provider is refused at once. -/
def refusal (body : AdvanceSlotBody) (clock : VirtualClock) :
    Option ApiError :=
  if clock.manual = false then
    some (.conflict "EXECUTOR_MANUAL_CLOCK is not enabled")
  else
    match body.slotMinutes with
    | none => none
    | some minutes =>
        if clock.sameSlotLength minutes then
          none
        else
          some (.conflict ("provider slot length (" ++ showFloat minutes ++
            " minutes) does not match executor slot length (" ++
            showFloat clock.slotMinutes ++ " minutes)"))

/-- `POST /admin/advance-slot`: the new time, and the clock after it. -/
def advanceSlot (body : AdvanceSlotBody) (clock : VirtualClock) :
    Except ApiError ℤ × VirtualClock :=
  match refusal showFloat body clock with
  | some error => (.error error, clock)
  | none =>
      if body.kind = "announce" then
        match body.slotStartUtc with
        | none => (.error internalServerError, clock)
        | some slotStartUtc =>
            match iso.fromisoformat slotStartUtc with
            | .error _ => (.error internalServerError, clock)
            | .ok newTime => (.ok newTime, clock.forceSet newTime)
      else
        (.ok clock.advanceToNextSlot.virtualNow, clock.advanceToNextSlot)

variable {iso : Provider.IsoFormat} {showFloat : ℚ → String}
variable {body : AdvanceSlotBody} {clock : VirtualClock}

/-- The configuration of the clock stays. -/
theorem advanceSlot_slotMinutes :
    (advanceSlot iso showFloat body clock).2.slotMinutes =
      clock.slotMinutes := by
  unfold advanceSlot
  split
  · rfl
  · split
    · split
      · rfl
      · split <;> rfl
    · rfl

/-- A refused message changes nothing. -/
theorem advanceSlot_refused {error : ApiError}
    (refused : (advanceSlot iso showFloat body clock).1 = .error error) :
    (advanceSlot iso showFloat body clock).2 = clock := by
  unfold advanceSlot at refused ⊢
  cases admitted : refusal showFloat body clock with
  | some _ => rfl
  | none =>
      rw [admitted] at refused
      dsimp only at refused ⊢
      by_cases announces : body.kind = "announce"
      · rw [if_pos announces] at refused ⊢
        cases slotStart : body.slotStartUtc with
        | none => rfl
        | some text =>
            rw [slotStart] at refused
            dsimp only at refused ⊢
            cases parsed : iso.fromisoformat text with
            | error _ => rfl
            | ok newTime =>
                rw [parsed] at refused
                cases refused
      · rw [if_neg announces] at refused
        cases refused

/-- A refusal is an error of the client or of the server. -/
theorem status_of_advanceSlot {error : ApiError}
    (refused : (advanceSlot iso showFloat body clock).1 = .error error) :
    300 ≤ error.status := by
  have blames : ∀ other, refusal showFloat body clock = some other →
      300 ≤ other.status := by
    intro other declined
    unfold refusal at declined
    split at declined
    · cases declined
      decide
    · split at declined
      · cases declined
      · split at declined
        · cases declined
        · cases declined
          exact (by decide : 300 ≤ 409)
  unfold advanceSlot at refused
  split at refused
  · rename_i other declined
    cases refused
    exact blames error declined
  · split at refused
    · split at refused
      · cases refused
        decide
      · split at refused
        · cases refused
          decide
        · cases refused
    · cases refused

/-- An accepted announcement sets the clock. -/
theorem virtualNow_of_announce {instant newTime : ℤ}
    (announces : body.kind = "announce")
    (start : body.slotStartUtc = some (iso.isoformat instant))
    (accepted : (advanceSlot iso showFloat body clock).1 = .ok newTime) :
    (advanceSlot iso showFloat body clock).2.virtualNow = instant := by
  unfold advanceSlot at accepted ⊢
  cases refused : refusal showFloat body clock with
  | some _ =>
      rw [refused] at accepted
      cases accepted
  | none =>
      dsimp only
      rw [if_pos announces, start]
      dsimp only
      rw [iso.reads]
      rfl

/-- Every other accepted message moves it by one slot. -/
theorem virtualNow_of_rollover {newTime : ℤ}
    (rolls : body.kind ≠ "announce")
    (accepted : (advanceSlot iso showFloat body clock).1 = .ok newTime) :
    (advanceSlot iso showFloat body clock).2.virtualNow =
      clock.virtualNow + Provider.timedelta clock.slotMinutes := by
  unfold advanceSlot at accepted ⊢
  cases refused : refusal showFloat body clock with
  | some _ =>
      rw [refused] at accepted
      cases accepted
  | none =>
      dsimp only
      rw [if_neg rolls]
      rfl

end Handler

end Executor

end Carbonshift
