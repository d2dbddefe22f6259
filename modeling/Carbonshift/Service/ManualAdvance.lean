import Carbonshift.Service.ClockFrame
import Carbonshift.Service.TimeKeeping

/-!
# Manual advances against the main loop

A call reads the published slot, moves the virtual clock to the end of that
slot, and publishes the next one.  The main loop reads the clock and publishes
its slot.  Both write without looking at what the other has written.
-/

namespace Carbonshift

/-- Between reading the published slot and publishing the next one. -/
def AdvancePhase.isCalling : AdvancePhase → Bool
  | .stepping _ _ _ => true
  | .clocked _ _ _ => true
  | _ => false

/-- The clock is moved, and the new slot is not published yet. -/
def AdvancePhase.isClocked : AdvancePhase → Bool
  | .clocked _ _ _ => true
  | _ => false

namespace Service

variable {σ : Type}

/-- Some advance-slot request is in such a phase. -/
def someAdvance (service : Service σ) (holds : AdvancePhase → Bool) : Bool :=
  service.handlers.values.any fun handler =>
    match handler with
    | .advance _ phase => holds phase
    | _ => false

theorem someAdvance_iff {service : Service σ} {holds : AdvancePhase → Bool} :
    service.someAdvance holds = true ↔
      ∃ handlerId body phase,
        service.handlers.lookup handlerId = some (.advance body phase) ∧
          holds phase = true := by
  unfold someAdvance
  rw [List.any_eq_true]
  constructor
  · rintro ⟨handler, member, found⟩
    obtain ⟨handlerId, stored⟩ := Dictionary.mem_values_iff.mp member
    cases handler with
    | advance body phase => exact ⟨handlerId, body, phase, stored, found⟩
    | _ => cases found
  · rintro ⟨handlerId, body, phase, stored, found⟩
    exact ⟨_, Dictionary.mem_values_iff.mpr ⟨handlerId, stored⟩, found⟩

section Conditions

variable (settings : ServiceSettings) (service : Service σ)

/-- The action starts a call. -/
def startsCall (action : Action) : Bool :=
  match service.advancing action with
  | some (body, .anchored _ _) => decide (body.kind ≠ "announce")
  | _ => false

/-- Calls are made one after another: none starts during another. -/
def CallsInTurn (action : Action) : Prop :=
  service.startsCall action = true →
    service.someAdvance AdvancePhase.isCalling = false

instance : DecidablePred (CallsInTurn service) :=
  fun action => inferInstanceAs (Decidable
    (service.startsCall action = true →
      service.someAdvance AdvancePhase.isCalling = false))

/-- The published slot does not decrease, and a call below the last slot moves
the clock by exactly the duration of a slot. -/
def AdvancesExactly (numerics : NumericRuntime σ) (runtime : ServiceRuntime)
    (action : Action) : Prop :=
  ∀ next, step settings numerics runtime service action = some next →
    service.app.currentSlot ≤ next.app.currentSlot ∧
      ∀ body offset target nextMs,
        service.advancing action =
            some (body, .stepping offset target nextMs) →
          service.app.currentSlot < settings.engine.totalSlots - 1 →
            (next.app.virtualElapsedMs : ℚ) =
              service.app.virtualElapsedMs +
                settings.effectiveSlotDurationSecs * 1000

/-- The main loop is about to publish a slot that it read before a call that
has published since. -/
def storesStale : Action → Bool
  | .loop .storeSlot =>
      match service.loop with
      | .clockRead elapsedMs =>
          decide (slotOfClock settings elapsedMs ≠
              slotOfClock settings service.app.virtualElapsedMs) &&
            !(service.someAdvance AdvancePhase.isClocked &&
              decide (service.app.virtualElapsedMs =
                elapsedMs + (slotMs settings).toNat))
      | _ => false
  | _ => false

end Conditions

end Service

namespace AppState

variable {σ : Type} {settings : ServiceSettings} {runtime : ServiceRuntime}
variable {body : AdvanceSlotBody} {state : AppState σ}

/-- What a step of an advance-slot request does to the clock. -/
inductive CallEffect (settings : ServiceSettings) (body : AdvanceSlotBody)
    (state : AppState σ) :
    AdvancePhase → AdvancePhase → AppState σ → Prop where
  | aside {phase after : AdvancePhase} {next : AppState σ}
      (before : phase.isCalling = false) (later : after.isCalling = false)
      (elapsed_eq : next.virtualElapsedMs = state.virtualElapsedMs)
      (slot_eq : next.currentSlot = state.currentSlot) :
      CallEffect settings body state phase after next
  | called {offset target : ℤ} (enters : body.kind ≠ "announce") :
      CallEffect settings body state (.anchored offset target)
        (.stepping offset target (state.nextBoundaryMs settings)) state
  | moved {offset target : ℤ} {nextMs : ℕ} :
      CallEffect settings body state (.stepping offset target nextMs)
        (.clocked offset target (slotOfClock settings nextMs))
        { state with virtualElapsedMs := nextMs }
  | published {offset target newSlot : ℤ} :
      CallEffect settings body state (.clocked offset target newSlot)
        (.entered offset target)
        (state.withShared (state.engine.shared.setCurrentSlot newSlot))

theorem advanceStep_call {phase : AdvancePhase}
    {moved : AdvancePhase × AppState σ}
    (taken : state.advanceStep settings runtime body phase = some moved) :
    CallEffect settings body state phase moved.1 moved.2 := by
  cases phase with
  | received slot =>
      cases taken
      exact .aside rfl rfl rfl rfl
  | learned offset target =>
      simp only [advanceStep] at taken
      split at taken <;>
      · cases taken
        exact .aside rfl rfl rfl rfl
  | anchored offset target =>
      simp only [advanceStep] at taken
      split at taken
      · split at taken <;>
        · cases taken
          exact .aside rfl rfl rfl rfl
      · rename_i enters
        cases taken
        exact .called enters
  | stepping offset target nextMs =>
      cases taken
      exact .moved
  | clocked offset target newSlot =>
      cases taken
      exact .published
  | entered offset target =>
      cases taken
      exact .aside rfl rfl rfl rfl
  | slotRead offset target currSlot =>
      cases taken
      dsimp only [recordObserved]
      split <;> exact .aside rfl rfl rfl rfl
  | observed offset currSlot =>
      cases taken
      exact .aside rfl rfl rfl rfl
  | answered answer => cases taken

end AppState

namespace Service

variable {σ : Type} {settings : ServiceSettings}
variable {numerics : NumericRuntime σ} {runtime : ServiceRuntime}
variable {service next : Service σ}

/-- Clock and published slot agree, up to the call in progress. -/
structure OnTime (settings : ServiceSettings) (service : Service σ) :
    Prop where
  numbered : service.Numbered
  boundary : ∃ slot : ℕ, (slot : ℤ) ≤ settings.engine.totalSlots ∧
    service.app.virtualElapsedMs = slot * (slotMs settings).toNat
  nonneg : 0 ≤ service.app.currentSlot
  inside : service.app.currentSlot < settings.engine.totalSlots
  alone : ∀ handlerId body phase otherId otherBody otherPhase,
    service.handlers.lookup handlerId = some (.advance body phase) →
      phase.isCalling = true →
        service.handlers.lookup otherId =
            some (.advance otherBody otherPhase) →
          otherPhase.isCalling = true → handlerId = otherId
  published : service.someAdvance AdvancePhase.isClocked = false →
    service.app.currentSlot =
      slotOfClock settings service.app.virtualElapsedMs
  stepping : ∀ handlerId body offset target nextMs,
    service.handlers.lookup handlerId =
        some (.advance body (.stepping offset target nextMs)) →
      nextMs =
        (service.app.currentSlot.toNat + 1) * (slotMs settings).toNat
  clocked : ∀ handlerId body offset target newSlot,
    service.handlers.lookup handlerId =
        some (.advance body (.clocked offset target newSlot)) →
      newSlot = slotOfClock settings service.app.virtualElapsedMs ∧
        (service.app.virtualElapsedMs =
            (service.app.currentSlot.toNat + 1) * (slotMs settings).toNat ∨
          service.app.currentSlot =
              slotOfClock settings service.app.virtualElapsedMs ∧
            ∀ elapsedMs, service.loop = .clockRead elapsedMs →
              slotOfClock settings elapsedMs =
                slotOfClock settings service.app.virtualElapsedMs)
  read : ∀ elapsedMs, service.loop = .clockRead elapsedMs →
    elapsedMs ≤ service.app.virtualElapsedMs ∧
      ∃ slot : ℕ, elapsedMs = slot * (slotMs settings).toNat

/-- A call that has moved the clock is a call. -/
theorem isCalling_of_isClocked {phase : AdvancePhase}
    (clocked : phase.isClocked = true) : phase.isCalling = true := by
  cases phase with
  | clocked offset target newSlot => rfl
  | _ => cases clocked

/-- The clock stands, and the calls in progress stay as they are. -/
structure Rests (service next : Service σ) : Prop where
  elapsed_eq : next.app.virtualElapsedMs = service.app.virtualElapsedMs
  slot_eq : next.app.currentSlot = service.app.currentSlot
  loop : next.loop = service.loop ∨ ∀ ms, next.loop ≠ .clockRead ms
  before : ∀ handlerId body phase,
    next.handlers.lookup handlerId = some (.advance body phase) →
      phase.isCalling = true →
        service.handlers.lookup handlerId = some (.advance body phase)
  after : ∀ handlerId body phase,
    service.handlers.lookup handlerId = some (.advance body phase) →
      phase.isCalling = true →
        next.handlers.lookup handlerId = some (.advance body phase)

theorem Rests.read {elapsedMs : ℕ} (rests : Rests service next)
    (read : next.loop = .clockRead elapsedMs) :
    service.loop = .clockRead elapsedMs := by
  rcases rests.loop with same | other
  · rw [← same, read]
  · exact absurd read (other elapsedMs)

theorem OnTime.of_rests (onTime : OnTime settings service)
    (rests : Rests service next) (numbered : next.Numbered) :
    OnTime settings next where
  numbered := numbered
  boundary := by
    rw [rests.elapsed_eq]
    exact onTime.boundary
  nonneg := by
    rw [rests.slot_eq]
    exact onTime.nonneg
  inside := by
    rw [rests.slot_eq]
    exact onTime.inside
  alone handlerId body phase otherId otherBody otherPhase found calling
      otherFound otherCalling :=
    onTime.alone handlerId body phase otherId otherBody otherPhase
      (rests.before handlerId body phase found calling) calling
      (rests.before otherId otherBody otherPhase otherFound otherCalling)
      otherCalling
  published none_ := by
    rw [rests.slot_eq, rests.elapsed_eq]
    refine onTime.published (Bool.eq_false_iff.mpr fun some_ => ?_)
    obtain ⟨handlerId, body, phase, found, clocked⟩ := someAdvance_iff.mp some_
    rw [Bool.eq_false_iff] at none_
    exact none_ (someAdvance_iff.mpr ⟨handlerId, body, phase,
      rests.after handlerId body phase found (isCalling_of_isClocked clocked),
      clocked⟩)
  stepping handlerId body offset target nextMs found := by
    rw [rests.slot_eq]
    exact onTime.stepping handlerId body offset target nextMs
      (rests.before handlerId body _ found rfl)
  clocked handlerId body offset target newSlot found := by
    rw [rests.slot_eq, rests.elapsed_eq]
    obtain ⟨same, ahead | ⟨here, reads⟩⟩ :=
      onTime.clocked handlerId body offset target newSlot
        (rests.before handlerId body _ found rfl)
    · exact ⟨same, Or.inl ahead⟩
    · exact ⟨same, Or.inr ⟨here, fun elapsedMs read =>
        reads elapsedMs (rests.read read)⟩⟩
  read elapsedMs read := by
    rw [rests.elapsed_eq]
    exact onTime.read elapsedMs (rests.read read)

/-- Milliseconds of a slot, as a positive count. -/
private theorem slotMs_toNat_pos (slots : WholeSlots settings) :
    0 < (slotMs settings).toNat := by
  have positive := slots.positive
  omega

/-- The published slot is the clock's, unless a call has moved the clock. -/
theorem OnTime.slot_cases (onTime : OnTime settings service) :
    service.app.currentSlot =
        slotOfClock settings service.app.virtualElapsedMs ∨
      service.someAdvance AdvancePhase.isClocked = true ∧
        service.app.virtualElapsedMs =
          (service.app.currentSlot.toNat + 1) * (slotMs settings).toNat := by
  by_cases clocked : service.someAdvance AdvancePhase.isClocked = true
  · obtain ⟨handlerId, body, phase, found, isClocked⟩ :=
      someAdvance_iff.mp clocked
    cases phase with
    | clocked offset target newSlot =>
        obtain ⟨_, ahead | ⟨here, _⟩⟩ :=
          onTime.clocked handlerId body offset target newSlot found
        · exact Or.inr ⟨clocked, ahead⟩
        · exact Or.inl here
    | _ => cases isClocked
  · exact Or.inl (onTime.published (Bool.eq_false_iff.mpr clocked))

theorem OnTime.slot_le (onTime : OnTime settings service)
    (slots : WholeSlots settings) :
    service.app.currentSlot ≤
      slotOfClock settings service.app.virtualElapsedMs := by
  have nonneg := onTime.nonneg
  have inside := onTime.inside
  rcases onTime.slot_cases with here | ⟨_, ahead⟩
  · exact here.le
  · rw [ahead, slotOfClock_mul slots (by omega)]
    omega

/-- The clock is at most one slot ahead of the published slot. -/
theorem OnTime.elapsed_le (onTime : OnTime settings service)
    (slots : WholeSlots settings) :
    service.app.virtualElapsedMs ≤
      (service.app.currentSlot.toNat + 1) * (slotMs settings).toNat := by
  rcases onTime.slot_cases with here | ⟨_, ahead⟩
  · obtain ⟨slot, bound, elapsed⟩ := onTime.boundary
    rw [elapsed, slotOfClock_mul slots bound] at here
    rw [elapsed]
    exact Nat.mul_le_mul_right _ (by omega)
  · exact ahead.le

/-- A slot that is not stale is the published one or the clock's. -/
theorem OnTime.slot_of_fresh (onTime : OnTime settings service)
    (slots : WholeSlots settings) {elapsedMs : ℕ}
    (read : service.loop = .clockRead elapsedMs)
    (fresh : storesStale settings service (.loop .storeSlot) = false) :
    slotOfClock settings elapsedMs = service.app.currentSlot ∨
      slotOfClock settings elapsedMs =
        slotOfClock settings service.app.virtualElapsedMs := by
  simp only [storesStale, read, Bool.and_eq_false_iff,
    decide_eq_false_iff_not, not_not, Bool.not_eq_false',
    Bool.and_eq_true, decide_eq_true_eq] at fresh
  rcases fresh with same | ⟨clocked, ahead⟩
  · exact Or.inr same
  · obtain ⟨handlerId, body, phase, found, isClocked⟩ :=
      someAdvance_iff.mp clocked
    cases phase with
    | clocked offset target newSlot =>
        obtain ⟨_, next | ⟨_, reads⟩⟩ :=
          onTime.clocked handlerId body offset target newSlot found
        · left
          have nonneg := onTime.nonneg
          have inside := onTime.inside
          have before : elapsedMs =
              service.app.currentSlot.toNat * (slotMs settings).toNat := by
            rw [Nat.add_mul, Nat.one_mul, ahead] at next
            exact Nat.add_right_cancel next
          rw [before, slotOfClock_mul slots (by omega)]
          omega
        · exact Or.inr (reads elapsedMs read)
    | _ => cases isClocked

/-- The loop lowers the published slot exactly when it is stale. -/
theorem OnTime.slot_le_iff (onTime : OnTime settings service)
    (slots : WholeSlots settings) {elapsedMs : ℕ}
    (read : service.loop = .clockRead elapsedMs) :
    service.app.currentSlot ≤ slotOfClock settings elapsedMs ↔
      storesStale settings service (.loop .storeSlot) = false := by
  constructor
  · intro keeps
    simp only [storesStale, read, Bool.and_eq_false_iff,
      decide_eq_false_iff_not, not_not, Bool.not_eq_false',
      Bool.and_eq_true, decide_eq_true_eq]
    by_contra stale
    rw [not_or] at stale
    obtain ⟨other, notAhead⟩ := stale
    obtain ⟨slot, bound, elapsed⟩ := onTime.boundary
    obtain ⟨earlier, early, rfl⟩ := onTime.read elapsedMs read
    rw [elapsed] at earlier
    have order : early ≤ slot :=
      Nat.le_of_mul_le_mul_right earlier (slotMs_toNat_pos slots)
    have nonneg := onTime.nonneg
    rw [slotOfClock_mul slots (by omega)] at keeps other
    rcases onTime.slot_cases with here | ⟨clocked, ahead⟩
    · rw [elapsed, slotOfClock_mul slots bound] at here other
      omega
    · have last : slot = service.app.currentSlot.toNat + 1 := by
        rw [elapsed] at ahead
        exact Nat.eq_of_mul_eq_mul_right (slotMs_toNat_pos slots) ahead
      rw [elapsed, slotOfClock_mul slots bound] at other
      have before : slot = early + 1 := by omega
      refine notAhead ⟨clocked, ?_⟩
      rw [elapsed, before, Nat.add_mul, Nat.one_mul]
  · intro fresh
    rcases onTime.slot_of_fresh slots read fresh with same | same
    · exact same.ge
    · rw [same]
      exact onTime.slot_le slots

/-! ## Steps -/

/-- Requests after one of them has moved. -/
private theorem lookup_insert_advance
    {handlers : Dictionary ℕ Handler} {handlerId otherId : ℕ}
    {body otherBody : AdvanceSlotBody} {phase otherPhase : AdvancePhase}
    (found : (handlers.insert handlerId (.advance body phase)).lookup otherId =
      some (.advance otherBody otherPhase)) :
    (otherId = handlerId ∧ otherBody = body ∧ otherPhase = phase) ∨
      (otherId ≠ handlerId ∧
        handlers.lookup otherId = some (.advance otherBody otherPhase)) := by
  by_cases own : otherId = handlerId
  · rw [own, AList.lookup_insert] at found
    cases found
    exact Or.inl ⟨own, rfl, rfl⟩
  · rw [AList.lookup_insert_ne own] at found
    exact Or.inr ⟨own, found⟩

/-- No call moves while another one is in progress. -/
private theorem OnTime.unclocked (onTime : OnTime settings service)
    {handlerId : ℕ} {body : AdvanceSlotBody} {phase : AdvancePhase}
    (found : service.handlers.lookup handlerId = some (.advance body phase))
    (calling : phase.isCalling = true) (early : phase.isClocked = false) :
    service.someAdvance AdvancePhase.isClocked = false := by
  refine Bool.eq_false_iff.mpr fun clocked => ?_
  obtain ⟨otherId, otherBody, otherPhase, there, isClocked⟩ :=
    someAdvance_iff.mp clocked
  have same := onTime.alone _ _ _ _ _ _ found calling there
    (isCalling_of_isClocked isClocked)
  subst same
  rw [found] at there
  cases there
  rw [isClocked] at early
  cases early

section Handled

variable {handlerId : ℕ} {body : AdvanceSlotBody}
variable {phase after : AdvancePhase} {app : AppState σ}

/-- The service after a step of an advance-slot request. -/
private def afterAdvance (service : Service σ) (handlerId : ℕ)
    (body : AdvanceSlotBody) (after : AdvancePhase) (app : AppState σ) :
    Service σ :=
  { service with
    app := app
    handlers := service.handlers.insert handlerId (.advance body after) }

/-- The request that calls is the only one. -/
private theorem OnTime.calls_alone (onTime : OnTime settings service)
    (found : service.handlers.lookup handlerId = some (.advance body phase))
    (calling : phase.isCalling = true) (after : AdvancePhase)
    (app : AppState σ) (otherId : ℕ) (otherBody : AdvanceSlotBody)
    (otherPhase : AdvancePhase)
    (stored : (afterAdvance service handlerId body after
      app).handlers.lookup otherId = some (.advance otherBody otherPhase))
    (otherCalling : otherPhase.isCalling = true) :
    otherId = handlerId ∧ otherPhase = after := by
  rcases lookup_insert_advance stored with ⟨same, _, rfl⟩ | ⟨other, there⟩
  · exact ⟨same, rfl⟩
  · exact absurd
      (onTime.alone _ _ _ _ _ _ there otherCalling found calling) other

private theorem OnTime.of_call (onTime : OnTime settings service)
    (slots : WholeSlots settings)
    (found : service.handlers.lookup handlerId = some (.advance body phase))
    (turn : ∀ offset target, phase = .anchored offset target →
      body.kind ≠ "announce" →
        service.someAdvance AdvancePhase.isCalling = false)
    (effect : AppState.CallEffect settings body service.app phase after app)
    (numbered : (afterAdvance service handlerId body after app).Numbered) :
    OnTime settings (afterAdvance service handlerId body after app) := by
  cases effect with
  | aside before later elapsed_eq slot_eq =>
      refine onTime.of_rests
        { elapsed_eq := elapsed_eq
          slot_eq := slot_eq
          loop := Or.inl rfl
          before := ?_
          after := ?_ } numbered
      · intro otherId otherBody otherPhase stored calling
        rcases lookup_insert_advance stored with ⟨_, _, rfl⟩ | ⟨_, there⟩
        · rw [later] at calling
          cases calling
        · exact there
      · intro otherId otherBody otherPhase stored calling
        have elsewhere : otherId ≠ handlerId := by
          rintro rfl
          rw [found] at stored
          cases stored
          rw [before] at calling
          cases calling
        dsimp only [afterAdvance]
        rwa [AList.lookup_insert_ne elsewhere]
  | @called offset target enters =>
      have free := turn offset target rfl enters
      have none_ : ∀ otherId otherBody otherPhase,
          service.handlers.lookup otherId =
              some (.advance otherBody otherPhase) →
            otherPhase.isCalling ≠ true := by
        intro otherId otherBody otherPhase there calling
        rw [Bool.eq_false_iff] at free
        exact free (someAdvance_iff.mpr
          ⟨otherId, otherBody, otherPhase, there, calling⟩)
      have own : ∀ otherId otherBody otherPhase,
          (afterAdvance service handlerId body
              (.stepping offset target
                (service.app.nextBoundaryMs settings))
              service.app).handlers.lookup otherId =
            some (.advance otherBody otherPhase) →
          otherPhase.isCalling = true →
            otherId = handlerId ∧
              otherPhase = .stepping offset target
                (service.app.nextBoundaryMs settings) := by
        intro otherId otherBody otherPhase stored calling
        rcases lookup_insert_advance stored with ⟨same, _, rfl⟩ | ⟨_, there⟩
        · exact ⟨same, rfl⟩
        · exact absurd calling (none_ otherId otherBody otherPhase there)
      exact
        { numbered := numbered
          boundary := onTime.boundary
          nonneg := onTime.nonneg
          inside := onTime.inside
          alone := fun _ _ _ _ _ _ left leftCalling right rightCalling =>
            (own _ _ _ left leftCalling).1.trans
              (own _ _ _ right rightCalling).1.symm
          published := fun _ => onTime.published <|
            Bool.eq_false_iff.mpr fun clocked => by
              obtain ⟨otherId, otherBody, otherPhase, there, isClocked⟩ :=
                someAdvance_iff.mp clocked
              exact none_ otherId otherBody otherPhase there
                (isCalling_of_isClocked isClocked)
          stepping := fun otherId otherBody _ _ nextMs stored => by
            have same := (own otherId otherBody _ stored rfl).2
            cases same
            exact AppState.nextBoundaryMs_eq slots onTime.nonneg onTime.inside
          clocked := fun otherId otherBody _ _ newSlot stored => by
            have same := (own otherId otherBody _ stored rfl).2
            cases same
          read := onTime.read }
  | @moved offset target nextMs =>
      have own := onTime.calls_alone found rfl
        (.clocked offset target (slotOfClock settings nextMs))
        { service.app with virtualElapsedMs := nextMs }
      have next := onTime.stepping _ _ _ _ _ found
      have nonneg := onTime.nonneg
      have inside := onTime.inside
      exact
        { numbered := numbered
          boundary := ⟨service.app.currentSlot.toNat + 1, by omega, next⟩
          nonneg := nonneg
          inside := inside
          alone := fun _ _ _ _ _ _ left leftCalling right rightCalling =>
            (own _ _ _ left leftCalling).1.trans
              (own _ _ _ right rightCalling).1.symm
          published := fun none_ => by
            rw [Bool.eq_false_iff] at none_
            exact absurd (someAdvance_iff.mpr
              ⟨handlerId, body, _, AList.lookup_insert _, rfl⟩) none_
          stepping := fun otherId otherBody _ _ _ stored => by
            have same := (own otherId otherBody _ stored rfl).2
            cases same
          clocked := fun otherId otherBody _ _ newSlot stored => by
            have same := (own otherId otherBody _ stored rfl).2
            cases same
            exact ⟨rfl, Or.inl next⟩
          read := fun elapsedMs read => by
            obtain ⟨earlier, boundary⟩ := onTime.read elapsedMs read
            refine ⟨?_, boundary⟩
            dsimp only [afterAdvance]
            rw [next]
            exact earlier.trans (onTime.elapsed_le slots) }
  | @published offset target newSlot =>
      have own := onTime.calls_alone found rfl (.entered offset target)
        (service.app.withShared
          (service.app.engine.shared.setCurrentSlot newSlot))
      have none_ : ∀ otherId otherBody otherPhase,
          (afterAdvance service handlerId body (.entered offset target)
              (service.app.withShared
                (service.app.engine.shared.setCurrentSlot
                  newSlot))).handlers.lookup otherId =
            some (.advance otherBody otherPhase) →
          otherPhase.isCalling ≠ true := by
        intro otherId otherBody otherPhase stored calling
        obtain ⟨_, rfl⟩ := own otherId otherBody otherPhase stored calling
        cases calling
      have same := (onTime.clocked _ _ _ _ _ found).1
      obtain ⟨slot, bound, elapsed⟩ := onTime.boundary
      have horizon := slots.horizon
      have value : newSlot = min (slot : ℤ)
          (settings.engine.totalSlots - 1) := by
        rw [same, elapsed, slotOfClock_mul slots bound]
      have published : (service.app.withShared
          (service.app.engine.shared.setCurrentSlot newSlot)).currentSlot =
            newSlot := rfl
      exact
        { numbered := numbered
          boundary := ⟨slot, bound, elapsed⟩
          nonneg := by
            dsimp only [afterAdvance]
            rw [published]
            omega
          inside := by
            dsimp only [afterAdvance]
            rw [published]
            omega
          alone := fun _ _ _ _ _ _ left leftCalling _ _ =>
            absurd leftCalling (none_ _ _ _ left)
          published := fun _ => same
          stepping := fun _ _ _ _ _ stored => absurd rfl (none_ _ _ _ stored)
          clocked := fun _ _ _ _ _ stored => absurd rfl (none_ _ _ _ stored)
          read := onTime.read }

end Handled

/-- Fresh steps keep the clock and the published slot together. -/
theorem OnTime.of_step {action : Action}
    (onTime : OnTime settings service) (slots : WholeSlots settings)
    (manual : settings.manualClock = true)
    (turn : CallsInTurn service action)
    (fresh : storesStale settings service action = false)
    (taken : step settings numerics runtime service action = some next) :
    OnTime settings next := by
  have numbered := onTime.numbered.of_step taken
  cases step_clock taken with
  | aside app loop advances quiet =>
      exact onTime.of_rests
        { elapsed_eq := app.virtualElapsedMs_eq
          slot_eq := app.currentSlot_eq
          loop := loop
          before := fun handlerId body phase found _ =>
            advances.before handlerId body phase found
          after := fun handlerId body phase found _ =>
            advances.after onTime.numbered handlerId body phase found }
        numbered
  | @arrived body slot announced =>
      refine onTime.of_rests
        { elapsed_eq := rfl
          slot_eq := rfl
          loop := Or.inl rfl
          before := ?_
          after := ?_ } numbered
      · intro handlerId otherBody phase found calling
        rcases lookup_insert_advance found with ⟨_, _, rfl⟩ | ⟨_, there⟩
        · cases calling
        · exact there
      · intro handlerId otherBody phase found calling
        have earlier := onTime.numbered _ _ found
        dsimp only [start]
        rwa [AList.lookup_insert_ne (ne_of_lt earlier)]
  | @advanced handlerId choice body phase after found stepped =>
      refine onTime.of_call slots found ?_
        (AppState.advanceStep_call stepped) numbered
      intro offset target anchored enters
      subst anchored
      refine turn ?_
      rw [startsCall, advancing, found]
      exact decide_eq_true enters
  | @clockRead passedMs idle elapsedMs elapsed =>
      rw [if_pos manual] at elapsed
      subst elapsed
      have reads : ∀ ms, LoopPhase.clockRead service.app.virtualElapsedMs =
          .clockRead ms → ms = service.app.virtualElapsedMs := by
        intro ms same
        cases same
        rfl
      obtain ⟨slot, _, boundary⟩ := onTime.boundary
      exact
        { numbered := numbered
          boundary := onTime.boundary
          nonneg := onTime.nonneg
          inside := onTime.inside
          alone := onTime.alone
          published := onTime.published
          stepping := onTime.stepping
          clocked := fun handlerId body offset target newSlot found => by
            obtain ⟨same, ahead | ⟨here, _⟩⟩ :=
              onTime.clocked handlerId body offset target newSlot found
            · exact ⟨same, Or.inl ahead⟩
            · exact ⟨same, Or.inr ⟨here, fun ms read => by
                rw [reads ms read]⟩⟩
          read := fun ms read => by
            rw [reads ms read]
            exact ⟨le_rfl, slot, boundary⟩ }
  | @slotStored elapsedMs read =>
      have restarted : ∀ ms,
          LoopPhase.slotStored elapsedMs ≠ .clockRead ms := by
        intro ms same
        cases same
      by_cases kept :
          slotOfClock settings elapsedMs = service.app.currentSlot
      · exact onTime.of_rests
          { elapsed_eq := rfl
            slot_eq := kept
            loop := Or.inr restarted
            before := fun _ _ _ found _ => found
            after := fun _ _ _ found _ => found } numbered
      · have current := (onTime.slot_of_fresh slots read fresh).resolve_left
          kept
        have published : (service.app.withShared
            (service.app.engine.shared.setCurrentSlot
              (slotOfClock settings elapsedMs))).currentSlot =
            slotOfClock settings service.app.virtualElapsedMs := current
        obtain ⟨slot, bound, elapsed⟩ := onTime.boundary
        have horizon := slots.horizon
        have value := slotOfClock_mul slots bound
        rw [← elapsed] at value
        exact
          { numbered := numbered
            boundary := ⟨slot, bound, elapsed⟩
            nonneg := by
              dsimp only
              rw [published]
              omega
            inside := by
              dsimp only
              rw [published]
              omega
            alone := onTime.alone
            published := fun _ => published
            stepping := fun handlerId body offset target nextMs found => by
              have here := onTime.published
                (onTime.unclocked found rfl rfl)
              exact absurd (current.trans here.symm) kept
            clocked := fun handlerId body offset target newSlot found =>
              ⟨(onTime.clocked handlerId body offset target newSlot found).1,
                Or.inr ⟨published, fun ms again =>
                  absurd again (restarted ms)⟩⟩
            read := fun ms again => absurd again (restarted ms) }

/-- A call below the last slot moves the clock by the duration of a slot. -/
theorem OnTime.elapsed_of_call (onTime : OnTime settings service)
    (slots : WholeSlots settings) {handlerId : ℕ} {body : AdvanceSlotBody}
    {offset target : ℤ} {nextMs : ℕ}
    (found : service.handlers.lookup handlerId =
      some (.advance body (.stepping offset target nextMs)))
    (below : service.app.currentSlot < settings.engine.totalSlots - 1) :
    (nextMs : ℚ) =
      service.app.virtualElapsedMs +
        settings.effectiveSlotDurationSecs * 1000 := by
  have here := onTime.published (onTime.unclocked found rfl rfl)
  obtain ⟨slot, bound, elapsed⟩ := onTime.boundary
  rw [elapsed, slotOfClock_mul slots bound] at here
  have same : service.app.currentSlot.toNat = slot := by omega
  have next := onTime.stepping _ _ _ _ _ found
  have duration : ((slotMs settings).toNat : ℚ) =
      settings.effectiveSlotDurationSecs * 1000 := by
    rw [slots.whole]
    exact_mod_cast Int.toNat_of_nonneg slots.positive.le
  rw [next, same, elapsed, ← duration]
  push_cast
  ring

/-- On time, a step advances exactly unless it publishes a stale slot. -/
theorem OnTime.advancesExactly_iff {action : Action}
    (onTime : OnTime settings service) (slots : WholeSlots settings) :
    AdvancesExactly settings service numerics runtime action ↔
      storesStale settings service action = false := by
  constructor
  · intro exact_
    cases action with
    | loop move =>
        cases move with
        | storeSlot =>
            cases read : service.loop with
            | clockRead elapsedMs =>
                refine (onTime.slot_le_iff slots read).mp ?_
                exact (exact_ _ (by
                  simp only [step, loopStep, read, engineStep, Engine.step,
                    Option.map_some]
                  rfl)).1
            | _ => simp only [storesStale, read]
        | _ => rfl
    | _ => rfl
  · intro fresh next taken
    cases step_clock taken with
    | aside app loop advances quiet =>
        refine ⟨app.currentSlot_eq.ge, ?_⟩
        intro body offset target nextMs stepping
        rw [quiet] at stepping
        cases stepping
    | arrived announced =>
        refine ⟨le_rfl, ?_⟩
        intro body offset target nextMs stepping
        cases stepping
    | @advanced handlerId choice body phase after found stepped =>
        have effect := AppState.advanceStep_call stepped
        have advancing_eq : service.advancing (.handle handlerId choice) =
            some (body, phase) := by
          rw [advancing, found]
        rw [advancing_eq]
        rcases after with ⟨after, app⟩
        dsimp only at effect ⊢
        cases effect with
        | aside before later elapsed_eq slot_eq =>
            refine ⟨slot_eq.ge, ?_⟩
            intro otherBody offset target nextMs same
            cases same
            cases before
        | called enters =>
            refine ⟨le_rfl, ?_⟩
            intro otherBody offset target nextMs same
            cases same
        | moved =>
            refine ⟨le_rfl, ?_⟩
            intro otherBody offset target nextMs same below
            cases same
            exact onTime.elapsed_of_call slots found below
        | published =>
            refine ⟨?_, ?_⟩
            · have same := (onTime.clocked _ _ _ _ _ found).1
              have le := onTime.slot_le slots
              rw [← same] at le
              exact le
            · intro otherBody offset target nextMs same
              cases same
    | clockRead idle elapsed =>
        refine ⟨le_rfl, ?_⟩
        intro body offset target nextMs stepping
        cases stepping
    | slotStored read =>
        refine ⟨(onTime.slot_le_iff slots read).mpr fresh, ?_⟩
        intro body offset target nextMs stepping
        cases stepping

theorem onTime_new (slots : WholeSlots settings) (carbonForecast : List ℚ)
    (startedAt : ℤ) :
    OnTime settings (new settings carbonForecast startedAt : Service σ) := by
  have ticking : AppState.Ticking settings
      (new settings carbonForecast startedAt : Service σ).app :=
    AppState.ticking_new slots carbonForecast startedAt
  exact
    { numbered := fun _ _ found => by cases found
      boundary := by
        refine ⟨0, by exact_mod_cast slots.horizon.le, ?_⟩
        rw [Nat.zero_mul]
        rfl
      nonneg := ticking.nonneg
      inside := ticking.inside
      alone := fun _ _ _ _ _ _ found => by cases found
      published := fun _ => (ticking.slotOfClock_eq slots).symm
      stepping := fun _ _ _ _ _ found => by cases found
      clocked := fun _ _ _ _ _ found => by cases found
      read := fun _ read => by cases read }

/-- In manual mode, with calls made in turn and slots of whole eighths of a
second, a run advances exactly if and only if the loop never publishes a stale slot. -/
theorem advances_exactly_iff
    (settings : ServiceSettings) (numerics : NumericRuntime σ)
    (runtime : ServiceRuntime) (carbonForecast : List ℚ) (startedAt : ℤ)
    (manual : settings.manualClock = true)
    (slots : WholeSlots settings)
    (actions : List Action)
    (turns : Transition.Guarded (step settings numerics runtime) CallsInTurn
      (new settings carbonForecast startedAt) actions) :
    Transition.Guarded (step settings numerics runtime)
        (fun service action =>
          AdvancesExactly settings service numerics runtime action)
        (new settings carbonForecast startedAt) actions ↔
      Transition.Guarded (step settings numerics runtime)
        (fun service action => storesStale settings service action = false)
        (new settings carbonForecast startedAt) actions := by
  have both := @Transition.guarded_iff_of_invariant _ _
    (step settings numerics runtime)
    (new settings carbonForecast startedAt)
    (fun service action => CallsInTurn service action ∧
      AdvancesExactly settings service numerics runtime action)
    (fun service action => CallsInTurn service action ∧
      storesStale settings service action = false)
    (OnTime settings)
    (fun _ _ onTime => and_congr_right fun _ =>
      onTime.advancesExactly_iff slots)
    (fun _ _ _ onTime allowed taken =>
      onTime.of_step slots manual allowed.1
        ((onTime.advancesExactly_iff slots).mp allowed.2) taken)
    (onTime_new slots carbonForecast startedAt) actions
  rw [Transition.guarded_and_iff, Transition.guarded_and_iff] at both
  exact and_congr_right_iff.mp both turns

section Examples

open AppState (manualSettings epochOnly)

/-- A message that enters a slot. -/
private def rollover (slot : ℤ) : AdvanceSlotBody where
  source := "provider"
  kind := "rollover"
  currentSlot := some slot
  slotStartUtc := none
  slotMinutes := some 1
  observed := none
  forecast := none

/-- The five steps of a request up to the end of its call. -/
private def callSteps (handlerId : ℕ) : List Action :=
  List.replicate 5 (.handle handlerId ⟨0, false⟩)

/-- The service before the first request. -/
private def startOfDay : Service Unit :=
  new manualSettings (List.replicate 24 1) 0

/-- The loop publishes what it has read before the next call starts. -/
private def freshRun : List Action :=
  [.loop (.readClock 0), .loop .storeSlot, .advanceSlot (rollover 1)] ++
    callSteps 0 ++
      [.loop .readForecast, .loop .finish, .loop (.readClock 0),
        .advanceSlot (rollover 2), .loop .storeSlot] ++ callSteps 1

/-- The loop reads the clock before a call and publishes after it. -/
private def staleRun : List Action :=
  [.loop (.readClock 0), .advanceSlot (rollover 1)] ++ callSteps 0

/-- Slots of a minute are whole eighths of a second. -/
private theorem wholeSlots_manualSettings : WholeSlots manualSettings where
  eighths := ⟨480, by decide +kernel⟩
  horizon := by decide
  narrow := by decide

theorem advances_exactly_of_fresh :
    Transition.Guarded (step manualSettings NumericRuntime.least epochOnly)
      (fun service action =>
        AdvancesExactly manualSettings service NumericRuntime.least epochOnly
          action)
      startOfDay freshRun :=
  (advances_exactly_iff manualSettings .least epochOnly (List.replicate 24 1) 0
    rfl wholeSlots_manualSettings freshRun (by decide +kernel)).mpr (by decide +kernel)

/-- The published slot goes back from 1 to 0, and the second call leaves the
clock where the first one has put it. -/
theorem advance_lost_to_main_loop :
    (Transition.run (step manualSettings NumericRuntime.least epochOnly)
          startOfDay staleRun).map (fun service =>
        (service.app.currentSlot, service.app.virtualElapsedMs)) =
        some (1, 60000) ∧
      (Transition.run (step manualSettings NumericRuntime.least epochOnly)
          startOfDay (staleRun ++ [.loop .storeSlot])).map (fun service =>
        (service.app.currentSlot, service.app.virtualElapsedMs)) =
        some (0, 60000) ∧
      (Transition.run (step manualSettings NumericRuntime.least epochOnly)
          startOfDay
          (staleRun ++ [.loop .storeSlot, .advanceSlot (rollover 2)] ++
            callSteps 1)).map (fun service =>
        (service.app.currentSlot, service.app.virtualElapsedMs)) =
        some (1, 60000) ∧
      Transition.Guarded (step manualSettings NumericRuntime.least epochOnly)
        CallsInTurn startOfDay
        (staleRun ++ [.loop .storeSlot, .advanceSlot (rollover 2)] ++
          callSteps 1) ∧
      ¬ Transition.Guarded (step manualSettings NumericRuntime.least epochOnly)
        (fun service action =>
          AdvancesExactly manualSettings service NumericRuntime.least epochOnly
            action)
        startOfDay (staleRun ++ [.loop .storeSlot]) := by
  have published :
      (Transition.run (step manualSettings NumericRuntime.least epochOnly)
          startOfDay staleRun).map (fun service =>
        (service.app.currentSlot, service.app.virtualElapsedMs)) =
        some (1, 60000) := by
    decide +kernel
  have lowered :
      (Transition.run (step manualSettings NumericRuntime.least epochOnly)
          startOfDay (staleRun ++ [.loop .storeSlot])).map (fun service =>
        (service.app.currentSlot, service.app.virtualElapsedMs)) =
        some (0, 60000) := by
    decide +kernel
  refine ⟨published, lowered, by decide +kernel, by decide +kernel,
    fun exact_ => ?_⟩
  obtain ⟨service, reached, values⟩ := Option.map_eq_some_iff.mp published
  obtain ⟨next, stored, after⟩ := Option.map_eq_some_iff.mp lowered
  obtain ⟨middle, before, taken⟩ := Transition.run_concat_eq_some_iff.mp stored
  rw [reached] at before
  cases before
  have keeps := (exact_ staleRun _ [] rfl service reached next taken).1
  have one := congrArg Prod.fst values
  have zero := congrArg Prod.fst after
  dsimp only at one zero
  omega

end Examples

end Service

end Carbonshift
