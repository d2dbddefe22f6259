import Carbonshift.Engine.ManualClock
import Carbonshift.Service.CloseSlot
import Mathlib.Tactic.FieldSimp

/-!
# How CarbonShift keeps time

With slots of whole eighths of a second, the counter of the virtual clock and
the slot of the engine move together.
-/

namespace Carbonshift

/-- Slots are whole eighths of a second; the horizon is not empty, and its
milliseconds are told apart. -/
structure WholeSlots (settings : ServiceSettings) : Prop where
  eighths : ∃ eighths : ℕ, 0 < eighths ∧
    settings.effectiveSlotDurationSecs = eighths / 8 ∧
      settings.engine.totalSlots * (125 * eighths) < 2 ^ 50
  horizon : 0 < settings.engine.totalSlots
  narrow : settings.engine.totalSlots < 2 ^ 31

namespace WholeSlots

variable {settings : ServiceSettings}

/-- The slots in eighths of a second and in milliseconds. -/
theorem exists_eighths (slots : WholeSlots settings) :
    ∃ eighths : ℕ, 0 < eighths ∧
      settings.effectiveSlotDurationSecs = eighths / 8 ∧
        slotMs settings = 125 * eighths ∧
          settings.engine.totalSlots * slotMs settings < 2 ^ 50 := by
  obtain ⟨eighths, someTime, duration, bounded⟩ := slots.eighths
  have single : (125 * eighths : ℤ) < 2 ^ 50 := by
    refine lt_of_le_of_lt ?_ bounded
    exact le_mul_of_one_le_left (by omega) slots.horizon
  have milliseconds : slotMs settings = 125 * eighths := by
    rw [slotMs, duration, wholeSlotMs_eighths (by omega)]
    push_cast
    rfl
  refine ⟨eighths, someTime, duration, milliseconds, ?_⟩
  rw [milliseconds]
  exact bounded

theorem whole (slots : WholeSlots settings) :
    settings.effectiveSlotDurationSecs * 1000 = slotMs settings := by
  obtain ⟨eighths, _, duration, milliseconds, _⟩ := slots.exists_eighths
  rw [duration, milliseconds]
  push_cast
  ring

theorem positive (slots : WholeSlots settings) : 0 < slotMs settings := by
  obtain ⟨eighths, someTime, _, milliseconds, _⟩ := slots.exists_eighths
  omega

theorem bounded (slots : WholeSlots settings) :
    settings.engine.totalSlots * slotMs settings < 2 ^ 50 := by
  obtain ⟨_, _, _, _, bounded⟩ := slots.exists_eighths
  exact bounded

end WholeSlots

/-- At the boundaries of the horizon the clock shows the slot that starts
there, or the last one. -/
theorem slotOfClock_mul {settings : ServiceSettings}
    (slots : WholeSlots settings) {slot : ℕ}
    (inside : (slot : ℤ) ≤ settings.engine.totalSlots) :
    slotOfClock settings (slot * (slotMs settings).toNat) =
      min (slot : ℤ) (settings.engine.totalSlots - 1) := by
  obtain ⟨eighths, someTime, duration, milliseconds, bounded⟩ :=
    slots.exists_eighths
  have narrow := slots.narrow
  have positive := slots.positive
  have single : slotMs settings < 2 ^ 50 :=
    lt_of_le_of_lt (le_mul_of_one_le_left positive.le slots.horizon) bounded
  have within : (slot * slotMs settings : ℤ) < 2 ^ 50 :=
    lt_of_le_of_lt (mul_le_mul_of_nonneg_right inside positive.le) bounded
  have count : (slotMs settings).toNat = 125 * eighths := by omega
  have small : slot * (slotMs settings).toNat + 125 * eighths < 2 ^ 51 := by
    rw [← count]
    zify
    rw [Int.toNat_of_nonneg positive.le]
    linarith
  have shown := clockSlot_eighths someTime small
  rw [← count, Nat.mul_div_cancel _ (by omega)] at shown
  rw [slotOfClock, duration, shown]
  omega

/-- At a boundary the clock shows the slot that starts there. -/
theorem slotOfClock_boundary {settings : ServiceSettings}
    (slots : WholeSlots settings) {slot : ℤ} (nonneg : 0 ≤ slot)
    (inside : slot < settings.engine.totalSlots) :
    slotOfClock settings (slot * slotMs settings).toNat = slot := by
  obtain ⟨count, rfl⟩ := Int.eq_ofNat_of_zero_le nonneg
  rw [Int.toNat_mul nonneg slots.positive.le, Int.toNat_natCast,
    slotOfClock_mul slots inside.le]
  omega

/-! ## The engine's advance -/

/-- The boundary after a slot of the horizon. -/
theorem AppState.nextBoundaryMs_eq {σ : Type} {settings : ServiceSettings}
    {state : AppState σ} (slots : WholeSlots settings)
    (nonneg : 0 ≤ state.currentSlot)
    (inside : state.currentSlot < settings.engine.totalSlots) :
    state.nextBoundaryMs settings =
      (state.currentSlot.toNat + 1) * (slotMs settings).toNat := by
  have positive := slots.positive
  have bound : (state.currentSlot + 1) * slotMs settings < 2 ^ 64 :=
    calc (state.currentSlot + 1) * slotMs settings
        ≤ settings.engine.totalSlots * slotMs settings :=
          mul_le_mul_of_nonneg_right (by omega) positive.le
      _ < 2 ^ 50 := slots.bounded
      _ < 2 ^ 64 := by norm_num
  rw [nextBoundaryMs, Int.emod_eq_of_lt
    (mul_nonneg (by omega) positive.le) bound,
    Int.toNat_mul (by omega) positive.le]
  congr 1
  omega

/-- The service advances the clock the way the exact clock of the engine
does. -/
theorem AppState.advanceToNextSlot_eq {σ : Type} {settings : ServiceSettings}
    {state : AppState σ} (slots : WholeSlots settings)
    (nonneg : 0 ≤ state.currentSlot)
    (inside : state.currentSlot < settings.engine.totalSlots) :
    SlotClock.mk (state.advanceToNextSlot settings).virtualElapsedMs
        (state.advanceToNextSlot settings).currentSlot =
      Carbonshift.advanceToNextSlot settings.engine.totalSlots
        settings.effectiveSlotDurationSecs
        ⟨state.virtualElapsedMs, state.currentSlot⟩ := by
  have positive := slots.positive
  have duration : 0 < settings.effectiveSlotDurationSecs := by
    have scaled : (0 : ℚ) < settings.effectiveSlotDurationSecs * 1000 := by
      rw [slots.whole]
      exact_mod_cast positive
    linarith
  have whole : settings.effectiveSlotDurationSecs * 1000 =
      ((slotMs settings).toNat : ℕ) := by
    rw [slots.whole]
    exact_mod_cast (Int.toNat_of_nonneg positive.le).symm
  have fits : settings.engine.totalSlots * ((slotMs settings).toNat : ℕ) <
      2 ^ 64 := by
    rw [Int.toNat_of_nonneg positive.le]
    exact slots.bounded.trans (by norm_num)
  have boundary := AppState.nextBoundaryMs_eq slots nonneg inside
  have engineMs : (Carbonshift.advanceToNextSlot settings.engine.totalSlots
      settings.effectiveSlotDurationSecs
        ⟨state.virtualElapsedMs, state.currentSlot⟩).virtualElapsedMs =
      state.nextBoundaryMs settings := by
    rw [boundary]
    refine advanceToNextSlot_elapsed whole (by omega) nonneg ?_
    exact lt_of_le_of_lt
      (mul_le_mul_of_nonneg_right (by dsimp only; omega) (by omega)) fits
  have engineSlot : (Carbonshift.advanceToNextSlot settings.engine.totalSlots
      settings.effectiveSlotDurationSecs
        ⟨state.virtualElapsedMs, state.currentSlot⟩).currentSlot =
      slotOfClock settings (state.nextBoundaryMs settings) := by
    refine (advanceToNextSlot_whole slots.narrow duration whole fits nonneg
      inside).trans ?_
    rw [boundary, slotOfClock_mul slots (by omega)]
    dsimp only
    omega
  exact congrArg₂ SlotClock.mk engineMs.symm engineSlot.symm

theorem isClientError_of_closingSlot {settings : ServiceSettings}
    {runtime : ServiceRuntime} {offset : Option ℤ} {body : CloseSlotBody}
    {error : ApiError}
    (refused : closingSlot settings runtime offset body = .error error) :
    error.isClientError = true := by
  unfold closingSlot at refused
  split at refused
  · cases refused
    rfl
  · split at refused
    · cases refused
      rfl
    · split at refused
      · cases refused
        rfl
      · dsimp only at refused
        split at refused
        · cases refused
          rfl
        · split at refused
          · cases refused
            rfl
          · cases refused

namespace AppState

variable {σ : Type} {settings : ServiceSettings} {runtime : ServiceRuntime}
variable {body : AdvanceSlotBody} {state : AppState σ}

/-- The clock and the slot offset are left alone. -/
def SameTime (before after : AppState σ) : Prop :=
  after.currentSlot = before.currentSlot ∧
    after.virtualElapsedMs = before.virtualElapsedMs ∧
      after.slotEpochOffset = before.slotEpochOffset

instance (before after : AppState σ) : Decidable (SameTime before after) :=
  inferInstanceAs (Decidable (_ ∧ _ ∧ _))

/-- Readings and forecasts do not move the clock. -/
theorem sameTime_readings (target offset : ℤ) (observed : Option ObservedPoint)
    (forecast : Option (List ForecastPoint)) :
    SameTime state
      ((state.recordObserved target observed).updateForecast offset
        forecast) := by
  unfold updateForecast recordObserved
  cases observed with
  | none => exact ⟨rfl, rfl, rfl⟩
  | some point => exact ⟨rfl, rfl, rfl⟩

/-- The counter stands at the start of the engine's slot. -/
structure Ticking (settings : ServiceSettings) (state : AppState σ) :
    Prop where
  nonneg : 0 ≤ state.currentSlot
  inside : state.currentSlot < settings.engine.totalSlots
  elapsed : state.virtualElapsedMs =
    (state.currentSlot * slotMs settings).toNat
  offset : ∀ offset, state.slotEpochOffset = some offset →
    -2 ^ 31 ≤ offset ∧ offset < 2 ^ 31

/-- The engine is in the slot of the provider. -/
def AtSlot (state : AppState σ) (slot : ℤ) : Prop :=
  ∃ offset, state.slotEpochOffset = some offset ∧
    state.currentSlot = slot - offset

theorem toI32_range (value : ℤ) :
    -2 ^ 31 ≤ toI32 value ∧ toI32 value < 2 ^ 31 := by
  have positive : 0 < 2 ^ 32 := by decide
  have low := Int.le_bmod (x := value) positive
  have high := Int.bmod_lt (x := value) positive
  unfold toI32
  omega

/-- A slot number is cut off from above only. -/
theorem toI32_le {value : ℤ} (low : -2 ^ 31 ≤ value) : toI32 value ≤ value := by
  have range := toI32_range value
  have multiple := Int.bmod_add_bdiv value (2 ^ 32)
  unfold toI32 at range ⊢
  omega

theorem ticking_new (slots : WholeSlots settings) (carbonForecast : List ℚ)
    (startedAt : ℤ) :
    Ticking settings (AppState.new settings carbonForecast startedAt :
      AppState σ) where
  nonneg := le_rfl
  inside := slots.horizon
  elapsed := by
    change 0 = ((0 : ℤ) * slotMs settings).toNat
    rw [zero_mul]
    rfl
  offset _ same := by cases same

/-- The main loop finds the slot that the engine is in. -/
theorem Ticking.slotOfClock_eq (ticking : Ticking settings state)
    (slots : WholeSlots settings) :
    slotOfClock settings state.virtualElapsedMs = state.currentSlot := by
  rw [ticking.elapsed]
  exact slotOfClock_boundary slots ticking.nonneg ticking.inside

/-- The next slot is inside the horizon, and its start fits the counter. -/
def hasNextSlot (settings : ServiceSettings) (state : AppState σ) : Bool :=
  decide (state.currentSlot + 1 < settings.engine.totalSlots) &&
    decide ((state.currentSlot + 1) * slotMs settings < 2 ^ 64)

/-- The next boundary is the start of the next slot. -/
theorem Ticking.slotOfClock_nextBoundaryMs (ticking : Ticking settings state)
    (slots : WholeSlots settings) (more : state.hasNextSlot settings = true) :
    state.nextBoundaryMs settings =
        ((state.currentSlot + 1) * slotMs settings).toNat ∧
      slotOfClock settings (state.nextBoundaryMs settings) =
        state.currentSlot + 1 := by
  obtain ⟨below, fits⟩ := (Bool.and_eq_true _ _).mp more
  have nonneg := ticking.nonneg
  have boundary : state.nextBoundaryMs settings =
      ((state.currentSlot + 1) * slotMs settings).toNat := by
    rw [nextBoundaryMs, Int.emod_eq_of_lt]
    · exact mul_nonneg (by omega) slots.positive.le
    · exact of_decide_eq_true fits
  refine ⟨boundary, ?_⟩
  rw [boundary]
  exact slotOfClock_boundary slots (by omega) (of_decide_eq_true below)

/-! ## Messages of the provider -/

/-- The engine stays where it is; its slot offset may be learned. -/
structure Stays (slot : ℤ) (before after : AppState σ) : Prop where
  currentSlot_eq : after.currentSlot = before.currentSlot
  elapsed_eq : after.virtualElapsedMs = before.virtualElapsedMs
  offset : after.slotEpochOffset = before.slotEpochOffset ∨
    after.slotEpochOffset = some (before.offsetFor slot)

theorem Stays.refl (slot : ℤ) (state : AppState σ) : Stays slot state state :=
  ⟨rfl, rfl, Or.inl rfl⟩

/-- An accepted message fixes the offset, and enters a slot unless it is an
announcement. -/
structure Accepts (settings : ServiceSettings) (kind : String) (slot : ℤ)
    (before after : AppState σ) : Prop where
  offset : after.slotEpochOffset = some (before.offsetFor slot)
  announced : kind = "announce" →
    after.currentSlot = before.currentSlot ∧
      after.virtualElapsedMs = before.virtualElapsedMs
  entered : kind ≠ "announce" →
    after.currentSlot =
        slotOfClock settings (before.nextBoundaryMs settings) ∧
      after.virtualElapsedMs = before.nextBoundaryMs settings

theorem advanceSlot_cases {slot : ℤ} (named : body.currentSlot = some slot) :
    (∃ error, (state.advanceSlot settings runtime body).1 = .error error ∧
        error.isClientError = true ∧
          Stays slot state (state.advanceSlot settings runtime body).2) ∨
      ∃ entered, (state.advanceSlot settings runtime body).1 = .ok entered ∧
        Accepts settings body.kind slot state
          (state.advanceSlot settings runtime body).2 := by
  unfold advanceSlot
  cases announced : announcedSlot settings runtime body with
  | error error =>
      exact Or.inl ⟨error, rfl, isClientError_of_announcedSlot announced,
        .refl slot state⟩
  | ok found =>
      have same : found = slot := by
        unfold announcedSlot at announced
        rw [named] at announced
        dsimp only at announced
        split at announced
        · cases announced
        · split at announced
          · exact (Except.ok.inj announced).symm
          · split at announced
            · exact (Except.ok.inj announced).symm
            · cases announced
      subst same
      dsimp only
      cases bounded :
          boundaryAnchor settings runtime (state.targetSlot found) body with
      | error error =>
          exact Or.inl ⟨error, rfl, isClientError_of_boundaryAnchor bounded,
            rfl, rfl, Or.inr rfl⟩
      | ok anchor =>
          dsimp only
          unfold enterSlot
          by_cases announces : body.kind = "announce"
          · rw [if_pos announces]
            by_cases here :
                ((state.updateSlotEpochOffset found).setSlotTimeAnchor
                  anchor).currentSlot = state.targetSlot found
            · rw [if_pos here]
              obtain ⟨slot_eq, elapsed_eq, offset_eq⟩ := @sameTime_readings σ
                ((state.updateSlotEpochOffset found).setSlotTimeAnchor anchor)
                (state.targetSlot found) (state.offsetFor found) body.observed
                body.forecast
              exact Or.inr ⟨_, rfl, offset_eq,
                fun _ => ⟨slot_eq, elapsed_eq⟩,
                fun rolls => absurd announces rolls⟩
            · rw [if_neg here]
              exact Or.inl ⟨_, rfl, rfl, rfl, rfl, Or.inr rfl⟩
          · rw [if_neg announces]
            obtain ⟨slot_eq, elapsed_eq, offset_eq⟩ := @sameTime_readings σ
              (((state.updateSlotEpochOffset found).setSlotTimeAnchor
                anchor).advanceToNextSlot settings)
              (state.targetSlot found) (state.offsetFor found) body.observed
              body.forecast
            exact Or.inr ⟨_, rfl, offset_eq,
              fun announced => absurd announced announces,
              fun _ => ⟨slot_eq, elapsed_eq⟩⟩

/-- A slot that can be closed is the engine's. -/
theorem atSlot_of_closingSlot {body : CloseSlotBody} {engineSlot : ℤ}
    (ticking : Ticking settings state)
    (fits : -2 ^ 63 ≤ body.currentSlot ∧ body.currentSlot < 2 ^ 63)
    (closing : closingSlot settings runtime state.slotEpochOffset body =
      .ok engineSlot)
    (here : state.currentSlot = engineSlot) :
    state.AtSlot body.currentSlot := by
  unfold closingSlot at closing
  split at closing
  · cases closing
  · split at closing
    · cases closing
    · split at closing
      · cases closing
      · rename_i offset known
        dsimp only at closing
        have range := ticking.offset offset known
        split at closing
        · cases closing
        · rename_i narrow
          split at closing
          · cases closing
          · cases closing
            refine ⟨offset, known, here.trans ?_⟩
            have multiple :=
              Int.bmod_add_bdiv (body.currentSlot - offset) (2 ^ 64)
            unfold subI64 at narrow ⊢
            omega

end AppState

end Carbonshift
