import Carbonshift.Engine.BanditMerge
import Carbonshift.Service.ClockFrame

/-!
# Provider slots and engine slots

The first accepted advance-slot message fixes the difference of the two slot
numbers.  The first message that reaches the engine stores a difference, in 32
bits, even if it is refused afterwards.  Every handler that reads a provider
slot translates it through the stored difference, in 32 or 64 bits.
-/

namespace Carbonshift

/-- The provider's slot in a message, and the engine's slot when the message
reaches the offset. -/
structure Alignment where
  globalSlot : ℤ
  engineSlot : ℤ
  deriving DecidableEq, Repr

def Alignment.offset (alignment : Alignment) : ℤ :=
  alignment.globalSlot - alignment.engineSlot

/-! ## Machine differences -/

section Widths

def FitsI32 (value : ℤ) : Prop :=
  -2 ^ 31 ≤ value ∧ value < 2 ^ 31

def FitsI64 (value : ℤ) : Prop :=
  -2 ^ 63 ≤ value ∧ value < 2 ^ 63

instance (value : ℤ) : Decidable (FitsI32 value) :=
  inferInstanceAs (Decidable (_ ∧ _))

instance (value : ℤ) : Decidable (FitsI64 value) :=
  inferInstanceAs (Decidable (_ ∧ _))

theorem toI32_eq_self_iff {value : ℤ} :
    toI32 value = value ↔ FitsI32 value := by
  have low := Int.le_bmod (x := value) (m := 2 ^ 32) (by decide)
  have high := Int.bmod_lt (x := value) (m := 2 ^ 32) (by decide)
  have multiple := Int.bmod_add_bdiv value (2 ^ 32)
  unfold toI32 FitsI32
  constructor <;> omega

theorem subI64_eq_sub_iff {left right : ℤ} :
    subI64 left right = left - right ↔ FitsI64 (left - right) := by
  have low := Int.le_bmod (x := left - right) (m := 2 ^ 64) (by decide)
  have high := Int.bmod_lt (x := left - right) (m := 2 ^ 64) (by decide)
  have multiple := Int.bmod_add_bdiv (left - right) (2 ^ 64)
  unfold subI64 FitsI64
  constructor <;> omega

/-- A number that an operation computes, and the width it has for it. -/
inductive Difference where
  | i32 (value : ℤ)
  | i64 (value : ℤ)
  deriving DecidableEq, Repr

def Difference.Fits : Difference → Prop
  | .i32 value => FitsI32 value
  | .i64 value => FitsI64 value

instance : (difference : Difference) → Decidable difference.Fits
  | .i32 value => inferInstanceAs (Decidable (FitsI32 value))
  | .i64 value => inferInstanceAs (Decidable (FitsI64 value))

end Widths

/-! ## Exact translations -/

/-- The slot of the forecast that the last point for it gives. -/
def forecastFor (points : List ForecastPoint) (offset slot : ℤ) : Option ℚ :=
  (points.filter fun point =>
    decide (point.slot - offset = slot)).getLast?.map ForecastPoint.forecast

theorem forecastFor_concat (points : List ForecastPoint)
    (point : ForecastPoint) (offset slot : ℤ) :
    forecastFor (points ++ [point]) offset slot =
      if point.slot - offset = slot then
        some point.forecast
      else
        forecastFor points offset slot := by
  rw [forecastFor, List.filter_append, List.filter_singleton]
  by_cases here : point.slot - offset = slot
  · simp [here]
  · simp [here, forecastFor]

namespace AppState

variable {σ : Type}

/-- The offset is the exact one, an offset that is learned now is not cut, and
the slot is translated exactly. -/
structure AlignsExactly (state : AppState σ) (slot offset : ℤ) : Prop where
  difference : state.slotEpochOffset = none →
    toI32 (slot - state.currentSlot) = slot - state.currentSlot
  offset_eq : state.offsetFor slot = offset
  target_eq : state.targetSlot slot = slot - offset

/-- A close-slot request is for the exact slot, or is rejected because that
slot lies outside the horizon. -/
structure ClosesExactly (settings : ServiceSettings)
    (runtime : ServiceRuntime) (body : CloseSlotBody) (state : AppState σ)
    (offset : ℤ) : Prop where
  difference : ∀ known, state.slotEpochOffset = some known →
    subI64 body.currentSlot known = body.currentSlot - offset
  inside : 0 ≤ body.currentSlot - offset →
    body.currentSlot - offset < settings.engine.totalSlots →
      closingSlot settings runtime state.slotEpochOffset body =
        .ok (body.currentSlot - offset)
  outside : body.currentSlot - offset < 0 ∨
      settings.engine.totalSlots ≤ body.currentSlot - offset →
    ∃ error, closingSlot settings runtime state.slotEpochOffset body =
      .error error

/-- A submission is for the exact slot, or for the current one because that
slot lies outside the horizon. -/
structure ArrivesExactly (settings : ServiceSettings)
    (submission : Submission) (state : AppState σ) (global offset : ℤ) :
    Prop where
  difference : ∀ known, state.slotEpochOffset = some known →
    toI32 (global - known) = global - offset
  arrival : resolvedArrivalSlot settings state.slotEpochOffset
      submission.currentSlot submission.body =
    if 0 ≤ global - offset ∧ global - offset < settings.engine.totalSlots then
      global - offset
    else
      submission.currentSlot

/-- Every point of a forecast is written to its exact slot, or is skipped
because that slot lies outside the horizon. -/
structure ForecastsExactly (settings : ServiceSettings)
    (forecast : Option (List ForecastPoint)) (state : AppState σ)
    (known offset : ℤ) : Prop where
  difference : ∀ point ∈ forecast.getD [],
    subI64 point.slot known = point.slot - offset
  length : ((state.updateForecast known forecast).carbonForecast.length : ℤ) =
    settings.engine.totalSlots
  entry : ∀ slot : ℕ, (slot : ℤ) < settings.engine.totalSlots →
    (state.updateForecast known forecast).carbonForecast.getD slot 0 =
      (forecastFor (forecast.getD []) offset slot).getD
        (state.carbonForecast.getD slot 0)

end AppState

namespace Service

variable {σ : Type}

/-- The alignments of the messages so far, and that of the first message that
was accepted. -/
structure AlignmentRecord where
  received : Dictionary ℕ Alignment
  first : Option Alignment

/-- The first step of a message aligns it, the last one accepts it. -/
def observeAlignment (service : Service σ) (action : Action)
    (record : AlignmentRecord) : AlignmentRecord :=
  match action with
  | .handle handlerId _ =>
      match service.handlers.lookup handlerId with
      | some (.advance _ (.received slot)) =>
          { record with
            received := record.received.insert handlerId
              ⟨slot, service.app.currentSlot⟩ }
      | some (.advance _ (.observed _ _)) =>
          { record with
            first := record.first.or (record.received.lookup handlerId) }
      | _ => record
  | _ => record

/-- The alignment of the first message that is accepted in a run. -/
def firstAccepted (settings : ServiceSettings) (numerics : NumericRuntime σ)
    (runtime : ServiceRuntime) (start : Service σ) (actions : List Action) :
    Option Alignment :=
  (Transition.run
    (Transition.observed (step settings numerics runtime) observeAlignment)
    (start, ⟨∅, none⟩) actions).bind fun state => state.2.first

/-- Every provider slot that an action reads is translated exactly. -/
def TranslatesExactly (settings : ServiceSettings) (runtime : ServiceRuntime)
    (offset : ℤ) (service : Service σ) : Action → Prop
  | .closeSlot body =>
      service.app.slotEpochOffset ≠ none →
        sameSlotLength settings body.slotMinutes = true →
          service.app.ClosesExactly settings runtime body offset
  | .handle handlerId _ =>
      match service.handlers.lookup handlerId with
      | some (.advance _ (.received slot)) =>
          service.app.AlignsExactly slot offset
      | some (.advance body (.slotRead _ _ _)) =>
          ∀ point, body.observed = some point → toI32 point.slot = point.slot
      | some (.advance body (.observed known _)) =>
          service.app.ForecastsExactly settings body.forecast known offset
      | some (.submit submission .received) =>
          service.app.slotEpochOffset ≠ none →
            ∀ global, submission.body.arrivalSlotGlobal = some global →
              service.app.ArrivesExactly settings submission global offset
      | _ => True
  | _ => True

/-- The offset of the first accepted message translates every slot of the
run. -/
def SlotsTranslated (settings : ServiceSettings) (numerics : NumericRuntime σ)
    (runtime : ServiceRuntime) (start : Service σ) (actions : List Action) :
    Prop :=
  ∀ alignment,
    firstAccepted settings numerics runtime start actions = some alignment →
      Transition.Guarded (step settings numerics runtime)
        (TranslatesExactly settings runtime alignment.offset) start actions

/-- The exact difference that an action stores as the offset. -/
def learnedOffset (service : Service σ) (action : Action) : Option ℤ :=
  match service.advancing action, service.app.slotEpochOffset with
  | some (_, .received slot), none => some (slot - service.app.currentSlot)
  | _, _ => none

/-- The exact differences behind the translations of an action. -/
def differences (settings : ServiceSettings) (offset : ℤ)
    (service : Service σ) : Action → List Difference
  | .closeSlot body =>
      if service.app.slotEpochOffset ≠ none ∧
          sameSlotLength settings body.slotMinutes then
        [.i64 (body.currentSlot - offset)]
      else
        []
  | .handle handlerId _ =>
      match service.handlers.lookup handlerId with
      | some (.advance _ (.received slot)) =>
          [.i32 offset, .i32 (slot - offset)]
      | some (.advance body (.slotRead _ _ _)) =>
          body.observed.toList.map fun point => .i32 point.slot
      | some (.advance body (.observed _ _)) =>
          (body.forecast.getD []).map fun point => .i64 (point.slot - offset)
      | some (.submit submission .received) =>
          if service.app.slotEpochOffset ≠ none then
            submission.body.arrivalSlotGlobal.toList.map fun global =>
              .i32 (global - offset)
          else
            []
      | _ => []
  | _ => []

/-- The message that fixes the offset has the offset of the first accepted
one, and every difference fits the width of the operation that computes it. -/
def DifferencesFit (settings : ServiceSettings) (offset : ℤ)
    (service : Service σ) (action : Action) : Prop :=
  (∀ learned ∈ service.learnedOffset action, learned = offset) ∧
    ∀ difference ∈ differences settings offset service action, difference.Fits

instance (settings : ServiceSettings) (offset : ℤ) (service : Service σ) :
    DecidablePred (DifferencesFit settings offset service) :=
  fun action => inferInstanceAs
    (Decidable ((∀ learned ∈ service.learnedOffset action, learned = offset) ∧
      ∀ difference ∈ differences settings offset service action,
        difference.Fits))

/-- The offset of the first accepted message fits the run. -/
def SlotsFit (settings : ServiceSettings) (numerics : NumericRuntime σ)
    (runtime : ServiceRuntime) (start : Service σ) (actions : List Action) :
    Prop :=
  ∀ alignment,
    firstAccepted settings numerics runtime start actions = some alignment →
      Transition.Guarded (step settings numerics runtime)
        (DifferencesFit settings alignment.offset) start actions

end Service

/-! ## One translation -/

namespace AppState

variable {σ : Type} {settings : ServiceSettings} {runtime : ServiceRuntime}
variable {state : AppState σ} {offset : ℤ}

theorem length_foldl_forecast (index : ForecastPoint → ℤ)
    (points : List ForecastPoint) (values : List ℚ) :
    (points.foldl
      (fun values point =>
        modifySlot values (index point) fun _ => point.forecast)
      values).length = values.length := by
  induction points generalizing values with
  | nil => rfl
  | cons point rest inductionHypothesis =>
      rw [List.foldl_cons, inductionHypothesis, length_modifySlot]

theorem length_updateForecast (state : AppState σ) (offset : ℤ)
    (forecast : Option (List ForecastPoint)) :
    (state.updateForecast offset forecast).carbonForecast.length =
      state.carbonForecast.length :=
  length_foldl_forecast (fun point => subI64 point.slot offset) _ _

theorem alignsExactly_iff {slot : ℤ}
    (stored : ∀ known, state.slotEpochOffset = some known →
      known = offset ∧ FitsI32 offset) :
    state.AlignsExactly slot offset ↔
      (state.slotEpochOffset = none → slot - state.currentSlot = offset) ∧
        FitsI32 offset ∧ FitsI32 (slot - offset) := by
  constructor
  · rintro ⟨difference, learned, target⟩
    have first : state.slotEpochOffset = none →
        slot - state.currentSlot = offset := by
      intro unknown
      rw [← difference unknown, ← learned, offsetFor, unknown,
        Option.getD_none]
    refine ⟨first, ?_, ?_⟩
    · cases known : state.slotEpochOffset with
      | none =>
          rw [← first known]
          exact toI32_eq_self_iff.mp (difference known)
      | some value => exact (stored value known).2
    · rw [targetSlot, learned] at target
      exact toI32_eq_self_iff.mp target
  · rintro ⟨first, narrow, targetFits⟩
    have learned : state.offsetFor slot = offset := by
      unfold offsetFor
      cases known : state.slotEpochOffset with
      | none =>
          rw [Option.getD_none, first known]
          exact toI32_eq_self_iff.mpr narrow
      | some value => exact (stored value known).1
    refine ⟨?_, learned, ?_⟩
    · intro unknown
      rw [first unknown]
      exact toI32_eq_self_iff.mpr narrow
    · rw [targetSlot, learned]
      exact toI32_eq_self_iff.mpr targetFits

theorem closesExactly_iff {body : CloseSlotBody}
    (manual : settings.manualClock = true)
    (narrow : settings.engine.totalSlots < 2 ^ 31)
    (sameLength : sameSlotLength settings body.slotMinutes = true)
    (known : state.slotEpochOffset = some offset) :
    state.ClosesExactly settings runtime body offset ↔
      FitsI64 (body.currentSlot - offset) := by
  constructor
  · intro closes
    exact subI64_eq_sub_iff.mp (closes.difference offset known)
  · intro fits
    have difference := subI64_eq_sub_iff.mpr fits
    have closing : closingSlot settings runtime state.slotEpochOffset body =
        if body.currentSlot - offset < -2 ^ 31 ∨
            2 ^ 31 ≤ body.currentSlot - offset then
          .error (.conflict "provider slot is outside the engine range")
        else if body.currentSlot - offset < 0 ∨
            settings.engine.totalSlots ≤ body.currentSlot - offset then
          .error (.conflict "provider slot is outside the engine horizon")
        else
          .ok (body.currentSlot - offset) := by
      unfold closingSlot
      rw [if_neg (by simp [manual]), if_neg (by simp [sameLength]), known]
      dsimp only
      rw [difference]
    constructor
    · intro stored same
      rw [known] at same
      cases same
      exact difference
    · intro nonneg inside
      rw [closing, if_neg (by omega), if_neg (by omega)]
    · intro outside
      rw [closing]
      split
      · exact ⟨_, rfl⟩
      · exact ⟨_, rfl⟩

theorem arrivesExactly_iff {submission : Submission} {global : ℤ}
    (given : submission.body.arrivalSlotGlobal = some global)
    (known : state.slotEpochOffset = some offset) :
    state.ArrivesExactly settings submission global offset ↔
      FitsI32 (global - offset) := by
  constructor
  · intro arrives
    exact toI32_eq_self_iff.mp (arrives.difference offset known)
  · intro fits
    have difference := toI32_eq_self_iff.mpr fits
    constructor
    · intro stored same
      rw [known] at same
      cases same
      exact difference
    · unfold resolvedArrivalSlot
      rw [given, known]
      dsimp only
      rw [difference]
      by_cases inside : 0 ≤ global - offset ∧
          global - offset < settings.engine.totalSlots
      · rw [if_pos inside, if_neg (by omega)]
      · rw [if_neg inside, if_pos (by omega)]

/-- The last point for a slot wins. -/
theorem getD_foldl_forecast (points : List ForecastPoint)
    {values : List ℚ} {slot : ℕ} (inside : slot < values.length) :
    (points.foldl
        (fun values point =>
          modifySlot values (point.slot - offset) fun _ => point.forecast)
        values).getD slot 0 =
      (forecastFor points offset slot).getD (values.getD slot 0) := by
  induction points using List.reverseRecOn with
  | nil => rfl
  | append_singleton earlier point inductionHypothesis =>
      rw [List.foldl_append, List.foldl_cons, List.foldl_nil,
        getD_modifySlot _ _ _ (by rwa [length_foldl_forecast]),
        inductionHypothesis, forecastFor_concat]
      split <;> rfl

theorem forecastsExactly_iff {forecast : Option (List ForecastPoint)}
    (horizon : (state.carbonForecast.length : ℤ) =
      settings.engine.totalSlots) :
    state.ForecastsExactly settings forecast offset offset ↔
      ∀ point ∈ forecast.getD [], FitsI64 (point.slot - offset) := by
  constructor
  · intro exact_ point member
    exact subI64_eq_sub_iff.mp (exact_.difference point member)
  · intro fits
    have difference : ∀ point ∈ forecast.getD [],
        subI64 point.slot offset = point.slot - offset :=
      fun point member => subI64_eq_sub_iff.mpr (fits point member)
    have updated : (state.updateForecast offset forecast).carbonForecast =
        (forecast.getD []).foldl
          (fun values point =>
            modifySlot values (point.slot - offset) fun _ => point.forecast)
          state.carbonForecast :=
      List.foldl_ext _ _ _ fun values point member => by
        rw [difference point member]
    refine ⟨difference, ?_, fun slot inside => ?_⟩
    · rw [← horizon]
      exact congrArg Nat.cast (length_updateForecast state offset forecast)
    · rw [updated]
      exact getD_foldl_forecast _ (by omega)

end AppState

/-! ## Runs -/

/-- The offset that an advance-slot request goes on with. -/
def AdvancePhase.offset : AdvancePhase → Option ℤ
  | .received _ => none
  | .learned offset _ => some offset
  | .anchored offset _ => some offset
  | .stepping offset _ _ => some offset
  | .clocked offset _ _ => some offset
  | .entered offset _ => some offset
  | .slotRead offset _ _ => some offset
  | .observed offset _ => some offset
  | .answered _ => none

/-- A request learns the offset in its first step and keeps it. -/
theorem AppState.advanceStep_offset
    {σ : Type} {settings : ServiceSettings} {runtime : ServiceRuntime}
    {body : AdvanceSlotBody} {state : AppState σ} {phase : AdvancePhase}
    {moved : AdvancePhase × AppState σ}
    (taken : state.advanceStep settings runtime body phase = some moved) :
    (∃ slot, phase = .received slot ∧
        moved = (.learned (state.offsetFor slot) (state.targetSlot slot),
          state.updateSlotEpochOffset slot)) ∨
      ((∀ slot, phase ≠ .received slot) ∧
        moved.2.slotEpochOffset = state.slotEpochOffset ∧
          moved.2.carbonForecast.length = state.carbonForecast.length ∧
            ∀ offset, moved.1.offset = some offset →
              phase.offset = some offset) := by
  cases phase with
  | received slot =>
      cases taken
      exact Or.inl ⟨slot, rfl, rfl⟩
  | learned offset target =>
      right
      simp only [advanceStep] at taken
      split at taken <;>
      · cases taken
        exact ⟨fun _ => AdvancePhase.noConfusion, rfl, rfl, by
          simp [AdvancePhase.offset]⟩
  | anchored offset target =>
      right
      simp only [advanceStep] at taken
      split at taken
      · split at taken <;>
        · cases taken
          exact ⟨fun _ => AdvancePhase.noConfusion, rfl, rfl, by
            simp [AdvancePhase.offset]⟩
      · cases taken
        exact ⟨fun _ => AdvancePhase.noConfusion, rfl, rfl, fun _ => id⟩
  | stepping offset target nextMs =>
      cases taken
      exact Or.inr ⟨fun _ => AdvancePhase.noConfusion, rfl, rfl, fun _ => id⟩
  | clocked offset target newSlot =>
      cases taken
      exact Or.inr ⟨fun _ => AdvancePhase.noConfusion, rfl, rfl, fun _ => id⟩
  | entered offset target =>
      cases taken
      exact Or.inr ⟨fun _ => AdvancePhase.noConfusion, rfl, rfl, fun _ => id⟩
  | slotRead offset target currSlot =>
      cases taken
      dsimp only [recordObserved]
      split <;>
      exact Or.inr ⟨fun _ => AdvancePhase.noConfusion, rfl, rfl, fun _ => id⟩
  | observed offset currSlot =>
      cases taken
      refine Or.inr ⟨fun _ => AdvancePhase.noConfusion, rfl,
        length_updateForecast state offset body.forecast, ?_⟩
      intro _ none
      cases none
  | answered answer => cases taken

namespace Service

variable {σ : Type} {settings : ServiceSettings}
variable {numerics : NumericRuntime σ} {runtime : ServiceRuntime}

/-- A stored offset and those of the requests are the exact one. -/
structure Aligned (settings : ServiceSettings) (offset : ℤ)
    (service : Service σ) : Prop where
  stored : ∀ known, service.app.slotEpochOffset = some known →
    known = offset ∧ FitsI32 offset
  carried : ∀ handlerId body phase known,
    service.handlers.lookup handlerId = some (.advance body phase) →
      phase.offset = some known → known = offset
  horizon : (service.app.carbonForecast.length : ℤ) =
    settings.engine.totalSlots

theorem advancing_handle {service : Service σ} {handlerId : ℕ}
    {body : AdvanceSlotBody} {phase : AdvancePhase}
    (found : service.handlers.lookup handlerId = some (.advance body phase))
    (choice : HandlerChoice) :
    service.advancing (.handle handlerId choice) = some (body, phase) := by
  rw [advancing, found]

/-- Only the first step of a message stores an offset. -/
theorem learnedOffset_eq_none {service : Service σ} {action : Action}
    (late : ∀ body slot,
      service.advancing action ≠ some (body, .received slot)) :
    service.learnedOffset action = none := by
  unfold learnedOffset
  split
  · rename_i body slot received _
    exact absurd received (late body slot)
  · rfl

theorem learnedOffset_received {service : Service σ} {handlerId : ℕ}
    {body : AdvanceSlotBody} {slot offset : ℤ}
    (found : service.handlers.lookup handlerId =
      some (.advance body (.received slot)))
    (choice : HandlerChoice) :
    (∀ learned ∈ service.learnedOffset (.handle handlerId choice),
        learned = offset) ↔
      (service.app.slotEpochOffset = none →
        slot - service.app.currentSlot = offset) := by
  unfold learnedOffset
  rw [advancing_handle found]
  cases service.app.slotEpochOffset <;> simp

variable {service : Service σ} {offset : ℤ}

/-- Where the offsets are exact, a translation is exact if and only if its
differences fit. -/
theorem translatesExactly_iff_differencesFit
    (manual : settings.manualClock = true)
    (narrow : settings.engine.totalSlots < 2 ^ 31)
    (aligned : Aligned settings offset service) (action : Action) :
    TranslatesExactly settings runtime offset service action ↔
      DifferencesFit settings offset service action := by
  have known : service.app.slotEpochOffset ≠ none →
      service.app.slotEpochOffset = some offset := by
    intro learned
    obtain ⟨value, stored⟩ := Option.ne_none_iff_exists'.mp learned
    rw [stored, (aligned.stored value stored).1]
  unfold TranslatesExactly DifferencesFit differences
  cases action with
  | closeSlot body =>
      rw [learnedOffset_eq_none (by simp [advancing])]
      by_cases reads : service.app.slotEpochOffset ≠ none ∧
          sameSlotLength settings body.slotMinutes = true
      · simp [reads, Difference.Fits,
          AppState.closesExactly_iff manual narrow reads.2 (known reads.1)]
      · dsimp only
        rw [if_neg reads]
        refine iff_of_true ?_ (by simp)
        intro learned sameLength
        exact absurd ⟨learned, sameLength⟩ reads
  | handle handlerId choice =>
      dsimp only
      cases found : service.handlers.lookup handlerId with
      | none =>
          rw [learnedOffset_eq_none (by simp [advancing, found])]
          simp
      | some handler =>
          cases handler with
          | submit submission phase =>
              rw [learnedOffset_eq_none (by simp [advancing, found])]
              cases phase with
              | received =>
                  by_cases learned : service.app.slotEpochOffset ≠ none
                  · dsimp only
                    rw [if_pos learned, forall_prop_of_true learned]
                    simp only [Option.not_mem_none, false_implies, implies_true,
                      true_and, List.mem_map, Option.mem_toList,
                      forall_exists_index, and_imp,
                      forall_apply_eq_imp_iff₂, Difference.Fits]
                    exact forall₂_congr fun global given =>
                      AppState.arrivesExactly_iff given (known learned)
                  · simp [learned]
              | _ => simp
          | callback requestId body phase =>
              rw [learnedOffset_eq_none (by simp [advancing, found])]
              simp
          | close body phase =>
              rw [learnedOffset_eq_none (by simp [advancing, found])]
              simp
          | advance body phase =>
              cases phase with
              | received slot =>
                  rw [learnedOffset_received found]
                  dsimp only
                  rw [AppState.alignsExactly_iff aligned.stored]
                  simp [Difference.Fits]
              | slotRead carried target currSlot =>
                  rw [learnedOffset_eq_none (by simp [advancing, found])]
                  simp only [Option.not_mem_none, false_implies,
                    implies_true, true_and, List.mem_map,
                    Option.mem_toList, forall_exists_index, and_imp,
                    forall_apply_eq_imp_iff₂, Difference.Fits]
                  exact forall₂_congr fun point given => toI32_eq_self_iff
              | observed carried currSlot =>
                  rw [learnedOffset_eq_none (by simp [advancing, found])]
                  cases aligned.carried handlerId body _ carried found rfl
                  simp only [Option.not_mem_none, false_implies,
                    implies_true, true_and, List.mem_map,
                    forall_exists_index, and_imp,
                    forall_apply_eq_imp_iff₂, Difference.Fits]
                  exact AppState.forecastsExactly_iff aligned.horizon
              | _ =>
                  rw [learnedOffset_eq_none (by simp [advancing, found])]
                  simp
  | _ =>
      rw [learnedOffset_eq_none (by simp [advancing])]
      simp

variable {next : Service σ}

/-- A step that leaves the offsets alone keeps them exact. -/
private theorem Aligned.of_same (aligned : Aligned settings offset service)
    (offset_eq : next.app.slotEpochOffset = service.app.slotEpochOffset)
    (length_eq : next.app.carbonForecast.length =
      service.app.carbonForecast.length)
    (kept : ∀ handlerId body phase known,
      next.handlers.lookup handlerId = some (.advance body phase) →
        phase.offset = some known →
          ∃ earlier, service.handlers.lookup handlerId =
              some (.advance body earlier) ∧
            earlier.offset = some known) :
    Aligned settings offset next where
  stored known same := aligned.stored known (offset_eq ▸ same)
  carried handlerId body phase known found carries := by
    obtain ⟨earlier, before, carried⟩ :=
      kept handlerId body phase known found carries
    exact aligned.carried handlerId body earlier known before carried
  horizon := by
    rw [length_eq]
    exact aligned.horizon

/-- Exact steps keep the offsets exact. -/
theorem Aligned.of_step {action : Action}
    (aligned : Aligned settings offset service)
    (translates : TranslatesExactly settings runtime offset service action)
    (taken : step settings numerics runtime service action = some next) :
    Aligned settings offset next := by
  cases step_clock taken with
  | aside app loop advances quiet =>
      exact aligned.of_same app.slotEpochOffset_eq
        (congrArg List.length app.carbonForecast_eq)
        fun handlerId body phase known found carries =>
          ⟨phase, advances.before handlerId body phase found, carries⟩
  | arrived announced =>
      refine aligned.of_same rfl rfl ?_
      intro handlerId body phase known found carries
      dsimp only [start] at found
      by_cases fresh : handlerId = service.started
      · rw [fresh, AList.lookup_insert] at found
        cases found
        cases carries
      · rw [AList.lookup_insert_ne fresh] at found
        exact ⟨phase, found, carries⟩
  | @advanced handlerId choice body phase after found stepped =>
      have place : ∀ other otherBody otherPhase,
          (service.handlers.insert handlerId
              (.advance body after.1)).lookup other =
            some (.advance otherBody otherPhase) →
          (other = handlerId ∧ otherBody = body ∧ otherPhase = after.1) ∨
            service.handlers.lookup other =
              some (.advance otherBody otherPhase) := by
        intro other otherBody otherPhase stored
        by_cases own : other = handlerId
        · rw [own, AList.lookup_insert] at stored
          cases stored
          exact Or.inl ⟨own, rfl, rfl⟩
        · rw [AList.lookup_insert_ne own] at stored
          exact Or.inr stored
      rcases AppState.advanceStep_offset stepped with
        ⟨slot, rfl, rfl⟩ | ⟨late, offset_eq, length_eq, keeps⟩
      · simp only [TranslatesExactly, found] at translates
        have fits :=
          ((AppState.alignsExactly_iff aligned.stored).mp translates).2.1
        constructor
        · intro known same
          cases same
          exact ⟨translates.offset_eq, fits⟩
        · intro other otherBody otherPhase known stored carries
          rcases place other otherBody otherPhase stored with
            ⟨rfl, rfl, rfl⟩ | before
          · cases carries
            exact translates.offset_eq
          · exact
              aligned.carried other otherBody otherPhase known before carries
        · exact aligned.horizon
      · refine aligned.of_same offset_eq length_eq ?_
        intro other otherBody otherPhase known stored carries
        rcases place other otherBody otherPhase stored with
          ⟨rfl, rfl, rfl⟩ | before
        · exact ⟨phase, found, keeps known carries⟩
        · exact ⟨otherPhase, before, carries⟩
  | clockRead idle elapsed =>
      exact aligned.of_same rfl rfl
        fun _ _ phase _ found carries => ⟨phase, found, carries⟩
  | slotStored read =>
      exact aligned.of_same rfl rfl
        fun _ _ phase _ found carries => ⟨phase, found, carries⟩

theorem aligned_new {carbonForecast : List ℚ}
    (horizon : (carbonForecast.length : ℤ) = settings.engine.totalSlots)
    (startedAt offset : ℤ) :
    Aligned settings offset
      (new settings carbonForecast startedAt : Service σ) where
  stored _ same := by cases same
  carried _ _ _ _ found := by cases found
  horizon := horizon

/-- In manual mode the offset of the first accepted message translates every
slot of a run exactly if and only if the message that fixes the stored offset
has that offset too, and every difference of the run fits its width. -/
theorem translations_exact_iff
    (settings : ServiceSettings) (numerics : NumericRuntime σ)
    (runtime : ServiceRuntime) (carbonForecast : List ℚ) (startedAt : ℤ)
    (manual : settings.manualClock = true)
    (narrow : settings.engine.totalSlots < 2 ^ 31)
    (horizon : (carbonForecast.length : ℤ) = settings.engine.totalSlots)
    (actions : List Action) :
    SlotsTranslated settings numerics runtime
        (new settings carbonForecast startedAt) actions ↔
      SlotsFit settings numerics runtime
        (new settings carbonForecast startedAt) actions := by
  refine forall₂_congr fun alignment _ => ?_
  exact Transition.guarded_iff_of_invariant
    (Aligned settings alignment.offset)
    (fun _ action aligned =>
      translatesExactly_iff_differencesFit manual narrow aligned action)
    (fun _ _ _ aligned translates taken => aligned.of_step translates taken)
    (aligned_new horizon startedAt alignment.offset) actions

section Examples

/-- An announcement of a provider slot, and its handler's first steps. -/
private def announcement (slot : ℤ) : AdvanceSlotBody where
  source := "provider"
  kind := "announce"
  currentSlot := some slot
  slotStartUtc := none
  slotMinutes := some 1
  observed := none
  forecast := some [⟨slot + 1, 2⟩]

private def atOnce : HandlerChoice := ⟨0, false⟩

/-- The announcement of a slot, and a request to close it. -/
private def announceAndClose (slot : ℤ) : List Action :=
  [.advanceSlot (announcement slot), .handle 0 atOnce, .handle 0 atOnce,
    .handle 0 atOnce, .handle 0 atOnce, .handle 0 atOnce, .handle 0 atOnce,
    .closeSlot ⟨slot, 1⟩]

theorem translations_exact_of_announced :
    firstAccepted AppState.manualSettings NumericRuntime.least
        AppState.epochOnly
        (new AppState.manualSettings
          (List.replicate AppState.manualSettings.engine.totalSlots.toNat 1) 0)
        (announceAndClose 100) = some ⟨100, 0⟩ ∧
      SlotsTranslated AppState.manualSettings NumericRuntime.least
        AppState.epochOnly
        (new AppState.manualSettings
          (List.replicate AppState.manualSettings.engine.totalSlots.toNat 1) 0)
        (announceAndClose 100) := by
  have accepted : firstAccepted AppState.manualSettings NumericRuntime.least
      AppState.epochOnly
      (new AppState.manualSettings
        (List.replicate AppState.manualSettings.engine.totalSlots.toNat 1) 0)
      (announceAndClose 100) = some ⟨100, 0⟩ := by
    decide +kernel
  refine ⟨accepted, (translations_exact_iff AppState.manualSettings .least
    AppState.epochOnly
    (List.replicate AppState.manualSettings.engine.totalSlots.toNat 1) 0
    (by decide) (by decide) (by decide) (announceAndClose 100)).mpr ?_⟩
  intro alignment same
  rw [accepted] at same
  cases same
  decide +kernel

/-- Far from the engine's slot the stored offset is cut to 32 bits, and the
slot that was just announced cannot be closed. -/
theorem translation_truncates :
    firstAccepted AppState.manualSettings NumericRuntime.least
        AppState.epochOnly (new AppState.manualSettings (List.replicate 24 1) 0)
        (announceAndClose 3000000000) = some ⟨3000000000, 0⟩ ∧
      (∃ service : Service Unit,
        Transition.run
            (step AppState.manualSettings NumericRuntime.least
              AppState.epochOnly)
            (new AppState.manualSettings (List.replicate 24 1) 0)
            ((announceAndClose 3000000000).take 7) = some service ∧
          service.app.slotEpochOffset = some (-1294967296) ∧
            service.app.currentSlot = 0 ∧
              closingSlot AppState.manualSettings AppState.epochOnly
                  service.app.slotEpochOffset ⟨3000000000, 1⟩ =
                .error (.conflict
                  "provider slot is outside the engine range")) ∧
        ¬ SlotsTranslated AppState.manualSettings NumericRuntime.least
          AppState.epochOnly
          (new AppState.manualSettings (List.replicate 24 1) 0)
          (announceAndClose 3000000000) := by
  have accepted : firstAccepted AppState.manualSettings NumericRuntime.least
      AppState.epochOnly (new AppState.manualSettings (List.replicate 24 1) 0)
      (announceAndClose 3000000000) = some ⟨3000000000, 0⟩ := by
    decide +kernel
  refine ⟨accepted, ?_, ?_⟩
  · have computed :
        (Transition.run
            (step AppState.manualSettings NumericRuntime.least
              AppState.epochOnly)
            (new AppState.manualSettings (List.replicate 24 1) 0)
            ((announceAndClose 3000000000).take 7)).map (fun service =>
          (service.app.slotEpochOffset, service.app.currentSlot)) =
          some (some (-1294967296), 0) := by
      decide +kernel
    obtain ⟨service, reached, values⟩ := Option.map_eq_some_iff.mp computed
    have offset := congrArg Prod.fst values
    refine ⟨service, reached, offset, congrArg Prod.snd values, ?_⟩
    dsimp only at offset
    rw [offset]
    decide +kernel
  · intro translated
    have announced : announcedSlot AppState.manualSettings AppState.epochOnly
        (announcement 3000000000) = .ok 3000000000 := by
      decide +kernel
    have started : Transition.run
        (step AppState.manualSettings NumericRuntime.least AppState.epochOnly)
        (new AppState.manualSettings (List.replicate 24 1) 0)
        [.advanceSlot (announcement 3000000000)] =
          some ((new AppState.manualSettings (List.replicate 24 1) 0).start
            (.advance (announcement 3000000000) (.received 3000000000))
            (AppState.new AppState.manualSettings (List.replicate 24 1) 0)) := by
      simp only [Transition.run, step, announced]
      rfl
    have aligns := translated _ accepted
      [.advanceSlot (announcement 3000000000)] (.handle 0 atOnce)
      ((announceAndClose 3000000000).drop 2) rfl _ started
    have truncated : toI32 3000000000 ≠ 3000000000 := by decide
    exact truncated (aligns.difference rfl)

/-- The first announcement is refused because its boundary is no timestamp,
the rollover after it is accepted. -/
private def garbledThenRollover : List Action :=
  [.advanceSlot AppState.garbledAnnouncement, .handle 0 atOnce,
    .handle 0 atOnce,
    .advanceSlot { announcement 101 with kind := "rollover" },
    .handle 1 atOnce, .handle 1 atOnce, .handle 1 atOnce, .handle 1 atOnce,
    .handle 1 atOnce, .handle 1 atOnce, .handle 1 atOnce, .handle 1 atOnce]

-- The first accepted message has the offset 101, that of the refused one stays.
example :
    (firstAccepted AppState.manualSettings NumericRuntime.least
          AppState.epochOnly
          (new AppState.manualSettings (List.replicate 24 1) 0)
          garbledThenRollover).map Alignment.offset = some 101 ∧
      (Transition.run
          (step AppState.manualSettings NumericRuntime.least
            AppState.epochOnly)
          (new AppState.manualSettings (List.replicate 24 1) 0)
          garbledThenRollover).bind (fun service =>
            service.app.slotEpochOffset) = some 100 := by
  decide +kernel

end Examples

end Service

end Carbonshift
