import Carbonshift.Service.State

/-!
# The provider's clock

The provider owns the time of an emulation.  Its instant is frozen at a slot
boundary and moves by exactly one slot length.  Instants are microseconds.
-/

namespace Carbonshift

namespace Provider

/-- A duration in minutes, rounded to microseconds. -/
def timedelta (minutes : ℚ) : ℤ :=
  roundHalfEven (minutes * 60000000)

/-- The ISO 8601 form of an instant, as the date library prints and reads it. -/
structure IsoFormat where
  isoformat : ℤ → String
  fromisoformat : String → Except String ℤ
  reads : ∀ instant, fromisoformat (isoformat instant) = .ok instant

/-- A sign and as many zeros as the number counts. -/
def unary (number : ℤ) : String :=
  String.ofList ((if number < 0 then '-' else '+') ::
    List.replicate number.natAbs '0')

def readUnary (text : String) : Except String ℤ :=
  match text.toList with
  | '-' :: zeros => .ok (-zeros.length)
  | '+' :: zeros => .ok zeros.length
  | _ => .error ("Invalid isoformat string: " ++ text)

theorem readUnary_unary (number : ℤ) :
    readUnary (unary number) = .ok number := by
  unfold unary readUnary
  rw [String.toList_ofList]
  by_cases negative : number < 0
  · rw [if_pos negative]
    change Except.ok (-((List.replicate number.natAbs '0').length : ℤ)) = _
    rw [List.length_replicate]
    exact congrArg Except.ok (by omega)
  · rw [if_neg negative]
    change Except.ok ((List.replicate number.natAbs '0').length : ℤ) = _
    rw [List.length_replicate]
    exact congrArg Except.ok (by omega)

/-- Given forms of some instants; all others are printed in unary. -/
def IsoFormat.ofTable (table : List (ℤ × String))
    (distinct : (table.map Prod.snd).Nodup)
    (noNumber : ∀ entry ∈ table, (readUnary entry.2).toOption = none) :
    IsoFormat where
  isoformat instant := (table.lookup instant).getD (unary instant)
  fromisoformat text :=
    match table.find? fun entry => entry.2 == text with
    | some entry => .ok entry.1
    | none => readUnary text
  reads instant := by
    cases found : table.lookup instant with
    | none =>
        have absent :
            (table.find? fun entry => entry.2 == unary instant) = none := by
          rw [List.find?_eq_none]
          intro entry member same
          have none_ := noNumber entry member
          rw [eq_of_beq same, readUnary_unary] at none_
          cases none_
        rw [Option.getD_none, absent]
        exact readUnary_unary instant
    | some text =>
        obtain ⟨before, after, split, _⟩ := List.lookup_eq_some_iff.mp found
        have member : (instant, text) ∈ table := by
          rw [split]
          exact List.mem_append_right _ List.mem_cons_self
        rw [Option.getD_some]
        cases read : table.find? fun entry => entry.2 == text with
        | none =>
            have absent := List.find?_eq_none.mp read _ member
            exact absurd (beq_self_eq_true text) absent
        | some entry =>
            have chosen := List.find?_some read
            have same : entry.2 = text := eq_of_beq chosen
            have inside := List.mem_of_find?_eq_some read
            have unique := List.inj_on_of_nodup_map distinct inside member same
            dsimp only
            rw [unique]

/-- A slot length and the instant at which slot zero starts. -/
structure SlotGrid where
  slotMinutes : ℚ
  epoch : ℤ
  positive : 0 < timedelta slotMinutes

namespace SlotGrid

variable (grid : SlotGrid)

def delta : ℤ := timedelta grid.slotMinutes

/-- Start of the slot that an instant falls into. -/
def floorToSlot (instant : ℤ) : ℤ :=
  grid.epoch + (instant - grid.epoch) / grid.delta * grid.delta

/-- The global slot of an instant. -/
def slotOf (instant : ℤ) : ℤ :=
  (instant - grid.epoch).tdiv grid.delta

def slotStart (slot : ℤ) : ℤ :=
  grid.epoch + grid.delta * slot

theorem slotOf_slotStart (slot : ℤ) :
    grid.slotOf (grid.slotStart slot) = slot := by
  have positive : grid.delta ≠ 0 := ne_of_gt grid.positive
  rw [slotOf, slotStart, add_sub_cancel_left]
  exact Int.mul_tdiv_cancel_left slot positive

theorem slotStart_succ (slot : ℤ) :
    grid.slotStart (slot + 1) = grid.slotStart slot + grid.delta := by
  rw [slotStart, slotStart, mul_add, mul_one, add_assoc]

theorem floorToSlot_eq_slotStart (instant : ℤ) :
    grid.floorToSlot instant =
      grid.slotStart ((instant - grid.epoch) / grid.delta) := by
  rw [floorToSlot, slotStart, mul_comm]

/-- Slots of one hour, counted from the Unix epoch. -/
def hourly : SlotGrid where
  slotMinutes := 60
  epoch := 0
  positive := by decide +kernel

end SlotGrid

/-- One slot boundary that was crossed. -/
structure SlotTick where
  globalSlot : ℤ
  localStep : ℕ
  startedAtUtc : ℤ
  previousGlobalSlot : ℤ
  deriving DecidableEq, Repr

/-- The manual clock: its frozen instant is a slot boundary. -/
structure ProviderClock (grid : SlotGrid) where
  frozenNow : ℤ
  localStep : ℕ
  aligned : ∃ slot, frozenNow = grid.slotStart slot

namespace ProviderClock

variable {grid : SlotGrid}

/-- A clock that starts in the slot of an instant. -/
def startAt (grid : SlotGrid) (instant : ℤ) : ProviderClock grid where
  frozenNow := grid.floorToSlot instant
  localStep := 0
  aligned := ⟨_, grid.floorToSlot_eq_slotStart instant⟩

def currentSlot (clock : ProviderClock grid) : ℤ :=
  grid.slotOf clock.frozenNow

/-- Move to the next slot boundary. -/
def advance (clock : ProviderClock grid) : SlotTick × ProviderClock grid :=
  let moved : ProviderClock grid :=
    { frozenNow := clock.frozenNow + grid.delta
      localStep := clock.localStep + 1
      aligned := by
        obtain ⟨slot, start⟩ := clock.aligned
        exact ⟨slot + 1, by rw [start, grid.slotStart_succ]⟩ }
  ({ globalSlot := moved.currentSlot
     localStep := moved.localStep
     startedAtUtc := moved.frozenNow
     previousGlobalSlot := clock.currentSlot },
    moved)

theorem slotStart_currentSlot (clock : ProviderClock grid) :
    grid.slotStart clock.currentSlot = clock.frozenNow := by
  obtain ⟨slot, start⟩ := clock.aligned
  rw [currentSlot, start, grid.slotOf_slotStart]

/-- An advance moves the clock by exactly one slot. -/
@[simp]
theorem currentSlot_advance (clock : ProviderClock grid) :
    clock.advance.2.currentSlot = clock.currentSlot + 1 := by
  have moved : clock.advance.2.frozenNow =
      grid.slotStart (clock.currentSlot + 1) := by
    rw [grid.slotStart_succ, clock.slotStart_currentSlot]
    rfl
  rw [currentSlot, moved, grid.slotOf_slotStart]

@[simp]
theorem localStep_advance (clock : ProviderClock grid) :
    clock.advance.2.localStep = clock.localStep + 1 := rfl

@[simp]
theorem globalSlot_advance (clock : ProviderClock grid) :
    clock.advance.1.globalSlot = clock.currentSlot + 1 :=
  clock.currentSlot_advance

end ProviderClock

end Provider

end Carbonshift
