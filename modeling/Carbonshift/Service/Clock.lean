import Carbonshift.Engine.ClockSlots
import Carbonshift.Service.State

/-!
# Advancing the slot

The provider announces its slot once and then moves the manual clock slot by
slot.  The handler checks, learns the slot offset, parses the boundary,
re-anchors slot zero and enters the slot, in this order.
-/

namespace Carbonshift

/-- The measured intensity of an entered provider slot. -/
structure ObservedPoint where
  slot : ℤ
  observedAtSlot : ℤ
  actual : ℚ
  deriving DecidableEq, Repr

/-- A forecast value for a provider slot. -/
structure ForecastPoint where
  slot : ℤ
  forecast : ℚ
  deriving DecidableEq, Repr

/-- Message of the provider that announces or enters a slot. -/
structure AdvanceSlotBody where
  source : String
  kind : String
  currentSlot : Option ℤ
  slotStartUtc : Option String
  slotMinutes : Option ℚ
  observed : Option ObservedPoint
  forecast : Option (List ForecastPoint)
  deriving DecidableEq, Repr

/-! ## Checks -/

section Checks

variable (settings : ServiceSettings) (runtime : ServiceRuntime)

/-- The provider's slot is as long as ours, up to a microsecond. -/
def sameSlotLength (providerSlotMinutes : ℚ) : Bool :=
  decide (|providerSlotMinutes * 60 - settings.effectiveSlotDurationSecs| ≤
    1 / 1000000)

/-- The provider slot of a message, unless it is refused at once. -/
def announcedSlot (body : AdvanceSlotBody) : Except ApiError ℤ :=
  if settings.manualClock = false then
    .error (.conflict "MANUAL_CLOCK is not enabled on this instance")
  else
    match body.currentSlot with
    | none =>
        .error (.conflict "Current slot is not provided in the request body")
    | some slot =>
        match body.slotMinutes with
        | none => .ok slot
        | some minutes =>
            if sameSlotLength settings minutes then
              .ok slot
            else
              .error (.conflict ("provider slot length (" ++
                runtime.showF64 minutes ++
                " minutes) does not match CarbonShift slot duration (" ++
                runtime.showF64 settings.effectiveSlotDurationSecs ++
                " seconds)"))

/-- The start of slot zero that follows from the boundary of a message. -/
def boundaryAnchor (target : ℤ) (body : AdvanceSlotBody) :
    Except ApiError (Option ℤ) :=
  match body.slotStartUtc with
  | none => .ok none
  | some slotStartUtc =>
      match runtime.parseRfc3339 slotStartUtc with
      | .error message =>
          .error (.badRequest
            ("slot_start_utc must be an RFC 3339 timestamp: " ++ message))
      | .ok boundary =>
          match AppState.slotTimeAnchor settings runtime target boundary with
          | .error message => .error (.badRequest message)
          | .ok start => .ok (some start)

end Checks

/-! ## Clock and readings -/

/-- Milliseconds of a whole slot. -/
def slotMs (settings : ServiceSettings) : ℤ :=
  wholeSlotMs settings.effectiveSlotDurationSecs

/-- The slot of a virtual instant, clamped to the horizon. -/
def slotOfClock (settings : ServiceSettings) (elapsedMs : ℕ) : ℤ :=
  min (clockSlot settings.effectiveSlotDurationSecs elapsedMs)
    (settings.engine.totalSlots - 1)

namespace AppState

variable {σ : Type}

/-- The slot offset; the first message fixes it. -/
def offsetFor (state : AppState σ) (slot : ℤ) : ℤ :=
  state.slotEpochOffset.getD (toI32 (slot - state.currentSlot))

/-- The engine slot of a provider slot. -/
def targetSlot (state : AppState σ) (slot : ℤ) : ℤ :=
  toI32 (slot - state.offsetFor slot)

def updateSlotEpochOffset (state : AppState σ) (slot : ℤ) : AppState σ :=
  { state with slotEpochOffset := some (state.offsetFor slot) }

/-- Store a new start of slot zero, if the message gives one. -/
def setSlotTimeAnchor (state : AppState σ) (anchor : Option ℤ) : AppState σ :=
  { state with
    slotEpochStartUtc := anchor.getD state.slotEpochStartUtc }

/-- The next boundary of the virtual clock, in milliseconds. -/
def nextBoundaryMs (settings : ServiceSettings) (state : AppState σ) : ℕ :=
  ((state.currentSlot + 1) * slotMs settings % 2 ^ 64).toNat

/-- Move the virtual clock to the next boundary and enter its slot. -/
def advanceToNextSlot (settings : ServiceSettings) (state : AppState σ) :
    AppState σ :=
  let nextMs := state.nextBoundaryMs settings
  { state.withShared
      (state.engine.shared.setCurrentSlot (slotOfClock settings nextMs)) with
    virtualElapsedMs := nextMs }

/-- An announcement must name the slot the engine is in; every other message
enters the next slot. -/
def enterSlot (settings : ServiceSettings) (target : ℤ) (kind : String)
    (state : AppState σ) : Except ApiError (AppState σ) :=
  if kind = "announce" then
    if state.currentSlot = target then
      .ok state
    else
      .error (.conflict
        "engine slot does not match the target slot on announce")
  else
    .ok (state.advanceToNextSlot settings)

/-- Record the measured intensity of the entered slot. -/
def recordObserved (target : ℤ) (observed : Option ObservedPoint)
    (state : AppState σ) : AppState σ :=
  match observed with
  | none => state
  | some point =>
      { state with
        actualCarbonIntensity :=
          state.actualCarbonIntensity.insert target point.actual }

/-- Overwrite the forecast inside the horizon. -/
def updateForecast (offset : ℤ) (forecast : Option (List ForecastPoint))
    (state : AppState σ) : AppState σ :=
  { state with
    carbonForecast :=
      (forecast.getD []).foldl
        (fun values point =>
          modifySlot values (subI64 point.slot offset) fun _ => point.forecast)
        state.carbonForecast }

/-- `POST /v1/admin/advance-slot`: the answer, and the state after it. -/
def advanceSlot (settings : ServiceSettings) (runtime : ServiceRuntime)
    (body : AdvanceSlotBody) (state : AppState σ) :
    Except ApiError ℤ × AppState σ :=
  match announcedSlot settings runtime body with
  | .error error => (.error error, state)
  | .ok slot =>
      let offset := state.offsetFor slot
      let target := state.targetSlot slot
      let learned := state.updateSlotEpochOffset slot
      match boundaryAnchor settings runtime target body with
      | .error error => (.error error, learned)
      | .ok anchor =>
          let anchored := learned.setSlotTimeAnchor anchor
          match anchored.enterSlot settings target body.kind with
          | .error error => (.error error, anchored)
          | .ok entered =>
              (.ok entered.currentSlot,
                (entered.recordObserved target body.observed).updateForecast
                  offset body.forecast)

/-! ## Rejected messages -/

/-- Everything the handler may change agrees. -/
structure SameClock (before after : AppState σ) : Prop where
  slotEpochOffset_eq : after.slotEpochOffset = before.slotEpochOffset
  slotEpochStartUtc_eq : after.slotEpochStartUtc = before.slotEpochStartUtc
  virtualElapsedMs_eq : after.virtualElapsedMs = before.virtualElapsedMs
  currentSlot_eq : after.currentSlot = before.currentSlot
  carbonForecast_eq : after.carbonForecast = before.carbonForecast
  actualCarbonIntensity_eq :
    after.actualCarbonIntensity = before.actualCarbonIntensity

theorem SameClock.refl (state : AppState σ) : SameClock state state :=
  ⟨rfl, rfl, rfl, rfl, rfl, rfl⟩

/-- An answer that blames the client leaves everything as it was. -/
def RejectsAtomically (settings : ServiceSettings) (runtime : ServiceRuntime)
    (body : AdvanceSlotBody) (state : AppState σ) : Prop :=
  ∀ error, (state.advanceSlot settings runtime body).1 = .error error →
    error.isClientError = true →
      SameClock state (state.advanceSlot settings runtime body).2

/-- Where a message is refused late, there is nothing left to learn from it:
the offset is known, and a boundary that is accepted is the stored one. -/
def NothingToLearn (settings : ServiceSettings) (runtime : ServiceRuntime)
    (body : AdvanceSlotBody) (state : AppState σ) : Prop :=
  ∀ slot, announcedSlot settings runtime body = .ok slot →
    match boundaryAnchor settings runtime (state.targetSlot slot) body with
    | .error _ => state.slotEpochOffset ≠ none
    | .ok anchor =>
        body.kind = "announce" → state.currentSlot ≠ state.targetSlot slot →
          state.slotEpochOffset ≠ none ∧
            ∀ start, anchor = some start → start = state.slotEpochStartUtc

section Rejections

variable {settings : ServiceSettings} {runtime : ServiceRuntime}
variable {body : AdvanceSlotBody} {state : AppState σ}

theorem isClientError_of_announcedSlot {error : ApiError}
    (refused : announcedSlot settings runtime body = .error error) :
    error.isClientError = true := by
  unfold announcedSlot at refused
  split at refused
  · cases refused
    rfl
  · split at refused
    · cases refused
      rfl
    · split at refused
      · cases refused
      · split at refused
        · cases refused
        · cases refused
          rfl

theorem isClientError_of_boundaryAnchor {target : ℤ} {error : ApiError}
    (refused : boundaryAnchor settings runtime target body = .error error) :
    error.isClientError = true := by
  unfold boundaryAnchor at refused
  split at refused
  · cases refused
  · split at refused
    · cases refused
      rfl
    · split at refused
      · cases refused
        rfl
      · cases refused

/-- A message enters a slot unless it announces another one. -/
theorem enterSlot_cases (target : ℤ) (kind : String) :
    (kind = "announce" ∧ state.currentSlot ≠ target ∧
        ∃ error, state.enterSlot settings target kind = .error error ∧
          error.isClientError = true) ∨
      ((kind = "announce" → state.currentSlot = target) ∧
        ∃ entered, state.enterSlot settings target kind = .ok entered) := by
  unfold enterSlot
  by_cases announces : kind = "announce"
  · by_cases here : state.currentSlot = target
    · refine Or.inr ⟨fun _ => here, ?_⟩
      rw [if_pos announces, if_pos here]
      exact ⟨_, rfl⟩
    · refine Or.inl ⟨announces, here, ?_⟩
      rw [if_pos announces, if_neg here]
      exact ⟨_, rfl, rfl⟩
  · refine Or.inr ⟨fun announced => absurd announced announces, ?_⟩
    rw [if_neg announces]
    exact ⟨_, rfl⟩

/-- Learning a known offset changes nothing. -/
theorem sameClock_updateSlotEpochOffset_iff (slot : ℤ) :
    SameClock state (state.updateSlotEpochOffset slot) ↔
      state.slotEpochOffset ≠ none := by
  cases known : state.slotEpochOffset with
  | none =>
      refine iff_of_false (fun same => ?_) (fun someOffset => someOffset rfl)
      have learned := same.slotEpochOffset_eq
      rw [known] at learned
      cases learned
  | some offset =>
      refine iff_of_true ⟨?_, rfl, rfl, rfl, rfl, rfl⟩ (by simp)
      rw [updateSlotEpochOffset, offsetFor, known, Option.getD_some]

theorem sameClock_setSlotTimeAnchor_iff (slot : ℤ) (anchor : Option ℤ) :
    SameClock state
        ((state.updateSlotEpochOffset slot).setSlotTimeAnchor anchor) ↔
      state.slotEpochOffset ≠ none ∧
        ∀ start, anchor = some start → start = state.slotEpochStartUtc := by
  constructor
  · intro same
    refine ⟨(sameClock_updateSlotEpochOffset_iff slot).mp
      ⟨same.slotEpochOffset_eq, rfl, rfl, rfl, rfl, rfl⟩, fun start given => ?_⟩
    have stored := same.slotEpochStartUtc_eq
    rwa [given] at stored
  · rintro ⟨known, stored⟩
    have learned :=
      (@sameClock_updateSlotEpochOffset_iff _ state slot).mpr known
    refine ⟨learned.slotEpochOffset_eq, ?_, rfl, rfl, rfl, rfl⟩
    cases anchor with
    | none => rfl
    | some start => exact stored start rfl

/-- A refused message never moves the clock and never touches the readings;
only the offset and the start of slot zero may change. -/
theorem advanceSlot_refused {error : ApiError}
    (refused : (state.advanceSlot settings runtime body).1 = .error error) :
    (state.advanceSlot settings runtime body).2 = state ∨
      ∃ slot anchor,
        (state.advanceSlot settings runtime body).2 =
          (state.updateSlotEpochOffset slot).setSlotTimeAnchor anchor := by
  unfold advanceSlot at refused ⊢
  cases announced : announcedSlot settings runtime body with
  | error _ => exact Or.inl rfl
  | ok slot =>
      rw [announced] at refused
      dsimp only at refused ⊢
      cases bounded :
          boundaryAnchor settings runtime (state.targetSlot slot) body with
      | error _ => exact Or.inr ⟨slot, none, rfl⟩
      | ok anchor =>
          rw [bounded] at refused
          dsimp only at refused ⊢
          cases entered : enterSlot settings (state.targetSlot slot) body.kind
              ((state.updateSlotEpochOffset slot).setSlotTimeAnchor anchor) with
          | error _ => exact Or.inr ⟨slot, anchor, rfl⟩
          | ok next =>
              rw [entered] at refused
              cases refused

end Rejections

/-- The handler rejects atomically exactly where a late refusal has nothing
left to learn. -/
theorem rejects_atomically_iff
    (settings : ServiceSettings) (runtime : ServiceRuntime)
    (body : AdvanceSlotBody) (state : AppState σ) :
    RejectsAtomically settings runtime body state ↔
      NothingToLearn settings runtime body state := by
  unfold RejectsAtomically NothingToLearn advanceSlot
  cases announced : announcedSlot settings runtime body with
  | error error =>
      refine iff_of_true (fun _ _ _ => .refl state) (fun slot accepted => ?_)
      cases accepted
  | ok slot =>
      simp only [Except.ok.injEq, forall_eq']
      cases bounded :
          boundaryAnchor settings runtime (state.targetSlot slot) body with
      | error error =>
          have blames := isClientError_of_boundaryAnchor bounded
          dsimp only
          rw [← sameClock_updateSlotEpochOffset_iff slot]
          exact ⟨fun atomic => atomic error rfl blames,
            fun same _ _ _ => same⟩
      | ok anchor =>
          rcases @enterSlot_cases _ settings
              ((state.updateSlotEpochOffset slot).setSlotTimeAnchor anchor)
              (state.targetSlot slot) body.kind with
            ⟨announces, elsewhere, error, refused, blames⟩ |
              ⟨here, entered, accepted⟩
          · dsimp only
            rw [refused, ← sameClock_setSlotTimeAnchor_iff slot anchor]
            exact ⟨fun atomic _ _ => atomic error rfl blames,
              fun same _ _ _ => same announces elsewhere⟩
          · dsimp only
            rw [accepted]
            refine iff_of_true (fun error refused => ?_)
              (fun announces elsewhere => absurd (here announces) elsewhere)
            cases refused

/-- Only one instant can be parsed. -/
def epochOnly : ServiceRuntime where
  parseRfc3339 text :=
    if text = "1970-01-01T00:00:00Z" then
      .ok 0
    else
      .error "input contains invalid characters"
  toRfc3339 _ := "1970-01-01T00:00:00.000Z"
  representable _ := true
  parseUrl _ := .error "relative URL without a base"
  showF64 value := toString value.floor

/-- A manual clock with slots of one minute and no executor. -/
def manualSettings : ServiceSettings where
  engine := .default
  service :=
    { executorUrl := none
      selfBaseUrl := "http://localhost:8080"
      allowPrivateCallbacks := false
      executorMaxRetries := 3
      executorRetryBaseMs := 10
      executorRetryMaxMs := 100 }
  effectiveSlotDurationSecs := 60
  manualClock := true

/-- A first announcement whose boundary is no timestamp. -/
def garbledAnnouncement : AdvanceSlotBody where
  source := "provider"
  kind := "announce"
  currentSlot := some 100
  slotStartUtc := some "noon"
  slotMinutes := some 1
  observed := none
  forecast := none

/-- The garbled announcement is refused, but fixes the slot offset. -/
theorem garbled_announcement_fixes_offset :
    ¬ RejectsAtomically manualSettings epochOnly garbledAnnouncement
      (AppState.new manualSettings (List.replicate 24 1) 0 : AppState Unit) := by
  intro atomic
  have same := atomic
    (.badRequest ("slot_start_utc must be an RFC 3339 timestamp: " ++
      "input contains invalid characters")) (by decide +kernel) (by decide)
  have learned := same.slotEpochOffset_eq
  revert learned
  decide +kernel

end AppState

end Carbonshift
