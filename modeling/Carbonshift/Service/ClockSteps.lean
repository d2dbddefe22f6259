import Carbonshift.Service.Clock

/-!
# The critical sections of advancing a slot

The handler takes one lock after another, so other handlers may act between
its steps.  Taken without interruption, the steps are the handler.
-/

namespace Carbonshift

/-- How far an advance-slot request is. -/
inductive AdvancePhase where
  | received (slot : ℤ)
  | learned (offset target : ℤ)
  | anchored (offset target : ℤ)
  | stepping (offset target : ℤ) (nextMs : ℕ)
  | clocked (offset target newSlot : ℤ)
  | entered (offset target : ℤ)
  | slotRead (offset target currSlot : ℤ)
  | observed (offset currSlot : ℤ)
  | answered (answer : Except ApiError ℤ)

namespace AppState

variable {σ : Type}

/-- The next critical section of an advance-slot request. -/
def advanceStep (settings : ServiceSettings) (runtime : ServiceRuntime)
    (body : AdvanceSlotBody) (state : AppState σ) :
    AdvancePhase → Option (AdvancePhase × AppState σ)
  | .received slot =>
      some
        (.learned (state.offsetFor slot) (state.targetSlot slot),
          state.updateSlotEpochOffset slot)
  | .learned offset target =>
      match boundaryAnchor settings runtime target body with
      | .error error => some (.answered (.error error), state)
      | .ok anchor =>
          some (.anchored offset target, state.setSlotTimeAnchor anchor)
  | .anchored offset target =>
      if body.kind = "announce" then
        if state.currentSlot = target then
          some (.entered offset target, state)
        else
          some
            (.answered (.error (.conflict
              "engine slot does not match the target slot on announce")),
              state)
      else
        some (.stepping offset target (state.nextBoundaryMs settings), state)
  | .stepping offset target nextMs =>
      some
        (.clocked offset target (slotOfClock settings nextMs),
          { state with virtualElapsedMs := nextMs })
  | .clocked offset target newSlot =>
      some
        (.entered offset target,
          state.withShared (state.engine.shared.setCurrentSlot newSlot))
  | .entered offset target =>
      some (.slotRead offset target state.currentSlot, state)
  | .slotRead offset target currSlot =>
      some
        (.observed offset currSlot, state.recordObserved target body.observed)
  | .observed offset currSlot =>
      some
        (.answered (.ok currSlot), state.updateForecast offset body.forecast)
  | .answered _ => none

/-- So many steps without interruption. -/
def advanceSteps (settings : ServiceSettings) (runtime : ServiceRuntime)
    (body : AdvanceSlotBody) :
    ℕ → AdvancePhase × AppState σ → AdvancePhase × AppState σ
  | 0, progress => progress
  | steps + 1, progress =>
      match progress.2.advanceStep settings runtime body progress.1 with
      | none => progress
      | some next => advanceSteps settings runtime body steps next

/-- Without interruption, the steps are the handler. -/
theorem advanceSteps_eq_advanceSlot
    {settings : ServiceSettings} {runtime : ServiceRuntime}
    {body : AdvanceSlotBody} {slot : ℤ}
    (announced : announcedSlot settings runtime body = .ok slot)
    (state : AppState σ) :
    advanceSteps settings runtime body 8 (.received slot, state) =
      (.answered (state.advanceSlot settings runtime body).1,
        (state.advanceSlot settings runtime body).2) := by
  rw [advanceSlot, announced]
  dsimp only
  simp only [advanceSteps, advanceStep]
  cases boundaryAnchor settings runtime (state.targetSlot slot) body with
  | error error => rfl
  | ok anchor =>
      dsimp only
      unfold enterSlot
      by_cases announces : body.kind = "announce"
      · rw [if_pos announces, if_pos announces]
        by_cases here : ((state.updateSlotEpochOffset slot).setSlotTimeAnchor
            anchor).currentSlot = state.targetSlot slot
        · rw [if_pos here, if_pos here]
        · rw [if_neg here, if_neg here]
      · rw [if_neg announces, if_neg announces]
        rfl

end AppState

end Carbonshift
