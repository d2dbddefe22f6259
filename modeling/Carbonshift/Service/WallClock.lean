import Carbonshift.Service.State

/-!
# Alignment with the wall clock

In real time the engine starts in the middle of a global slot.  Both the slot
length and the elapsed time are cut to milliseconds.
-/

namespace Carbonshift

/-- Instants are nanoseconds after the Unix epoch. -/
structure WallClockAlignment where
  /-- Global slot of engine slot zero. -/
  globalSlot : ℤ
  slotStartUtc : ℤ
  elapsedInSlotMs : ℤ
  deriving DecidableEq, Repr

/-- An integer as an unsigned one of 64 bits. -/
def tryIntoU64 (value : ℤ) : Except String ℤ :=
  if 0 ≤ value ∧ value < 2 ^ 64 then
    .ok value
  else
    .error "out of range integral type conversion attempted"

/-- An integer as a signed one of 32 bits. -/
def tryIntoI32 (value : ℤ) : Except String ℤ :=
  if -2 ^ 31 ≤ value ∧ value < 2 ^ 31 then
    .ok value
  else
    .error "out of range integral type conversion attempted"

/-- The system clock counts seconds in 64 bits. -/
def systemTimeChecked (instant : ℤ) : Option ℤ :=
  if -2 ^ 63 ≤ instant / 1000000000 ∧ instant / 1000000000 < 2 ^ 63 then
    some instant
  else
    none

def wallClockAlignment (now epoch : ℤ) (slotDurationSecs : ℚ) :
    Except String WallClockAlignment := do
  let slotDuration ← (tryFromSecsF64 slotDurationSecs).mapError fun error =>
    "invalid slot duration: " ++ error
  let slotDurationMs ← (tryIntoU64 (slotDuration / 1000000)).mapError
    fun error => "slot duration is too large: " ++ error
  if slotDurationMs = 0 then
    throw "slot duration must be at least one millisecond"
  -- The elapsed time is positive, or there is none.
  if now < epoch then
    throw ("provider epoch is in the future: " ++
      "second time provided was later than self")
  let elapsedMs ← (tryIntoU64 ((now - epoch) / 1000000)).mapError
    fun error => "elapsed wall time is too large: " ++ error
  let globalSlot ← (tryIntoI32 (elapsedMs / slotDurationMs)).mapError
    fun error => "global slot does not fit the service index: " ++ error
  let slotOffsetMs ← (tryIntoU64 (globalSlot * slotDurationMs)).mapError
    fun _ => "slot boundary offset overflowed"
  match systemTimeChecked (epoch + slotOffsetMs * 1000000) with
  | none => throw "slot boundary is outside the system clock range"
  | some slotStartUtc =>
      return ⟨globalSlot, slotStartUtc, elapsedMs % slotDurationMs⟩

end Carbonshift
