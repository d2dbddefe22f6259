import Carbonshift.Engine.OnlineSwarm
import Carbonshift.Engine.Preparation
import Carbonshift.Library.CheckedInt

/-!
# Window arithmetic in 32 bits

The engine forms the bounds of its error windows, the slots it looks back to
and the size of a virtual history in 32-bit integers.  The functions below
repeat these computations with their range checks; when they succeed, they
return what the unbounded model computes.

Validation refuses negative windows only.  The ends of a window are clamped to
the horizon after the addition, so a long enough window overflows first.
-/

namespace Carbonshift

open CheckedInt (Fits)

/-! ## The computations -/

section Computations

variable (policy : AssignmentPolicy) (currentSlot : ℤ)

/-- Window bounds of `prepare_solve`. -/
def prepareWindowI32 : Option (ℤ × ℤ) := do
  let start ← CheckedInt.sub 32 currentSlot policy.errorWindowPast
  let stop ← CheckedInt.add 32 currentSlot policy.errorWindowFuture
  let last ← CheckedInt.sub 32 policy.totalSlots 1
  return (max start 0, min stop last)

/-- Window bounds and assignment cap of `solve_batch`. -/
def DpSolver.solveBatchWindowI32 (solver : DpSolver)
    (input : SolveBatchInput) : Option (ℤ × ℤ × ℤ) := do
  let start ← CheckedInt.sub 32 input.currentSlot input.errorWindowPast
  let stop ← CheckedInt.add 32 input.currentSlot input.errorWindowFuture
  let last ← CheckedInt.sub 32 solver.windowSize 1
  let cap := max (min (input.assignmentMaxSlot.getD last) last)
    input.currentSlot
  return (max start 0, min stop last, cap)

/-- The slots `augment_with_decayed_past` looks back to. -/
def decayedSlotsI32 : Option (List ℤ) :=
  (List.range policy.errorWindowPastDecaySlots.toNat).mapM
    fun (offset : ℕ) => do
      let start ← CheckedInt.sub 32 currentSlot policy.errorWindowPast
      CheckedInt.sub 32 start (offset + 1)

/-- Requests of one virtual slot. -/
def virtualCount {σ : Type} (runtime : NumericRuntime σ)
    (simulation : SimulationConfig) (recovery : InfeasibilityConfig)
    (missing offset : ℤ) : ℤ :=
  let rate := simulation.predictedRequestsPerSlot
  let sigma := max (rate * simulation.requestRateStdFactor) 1
  if recovery.prehistoryStochasticCounts then
    max (CheckedInt.saturate 32 (runtime.sampleNormal rate sigma
      (prehistorySeed currentSlot recovery.prehistoryRandomSeed missing
        offset))) 1
  else
    CheckedInt.saturate 32 (max (roundHalfAway rate) 1)

/-- The counts of the virtual slots before startup. -/
def virtualCounts {σ : Type} (runtime : NumericRuntime σ)
    (simulation : SimulationConfig) (recovery : InfeasibilityConfig) :
    List ℤ :=
  let missing := max (policy.errorWindowPast - currentSlot) 0
  (List.range missing.toNat).map fun (offset : ℕ) =>
    virtualCount currentSlot runtime simulation recovery missing offset

/-- The size of the virtual history in `augment_with_virtual_prehistory`. -/
def virtualRequestsI32 {σ : Type} (runtime : NumericRuntime σ)
    (simulation : SimulationConfig) (recovery : InfeasibilityConfig) :
    Option ℤ := do
  if recovery.prehistoryUseVirtualPast then
    let _ ← CheckedInt.sub 32 policy.errorWindowPast currentSlot
    CheckedInt.sum 32
      (virtualCounts policy currentSlot runtime simulation recovery)
  else
    return 0

/-- Window bounds of `get_profile_window_error_stats`. -/
def profileWindowI32 (centerSlot windowPast windowFuture : ℤ) :
    Option (ℤ × ℤ) := do
  let start ← CheckedInt.sub 32 centerSlot windowPast
  let stop ← CheckedInt.add 32 centerSlot windowFuture
  return (start, stop)

/-- Window bounds of `pick_feasible_flavour` for a slot. -/
def pickWindowI32 (slot : ℤ) : Option (ℤ × ℤ) := do
  let start ← CheckedInt.sub 32 slot policy.errorWindowPast
  let stop ← CheckedInt.add 32 slot policy.errorWindowFuture
  return (start, stop)

end Computations

/-! ## What they compute -/

section Agreement

variable {policy : AssignmentPolicy} {currentSlot : ℤ}

private theorem sub_eq_some {left right result : ℤ}
    (taken : CheckedInt.sub 32 left right = some result) :
    left - right = result :=
  (CheckedInt.check_eq_some_iff.mp taken).2

private theorem add_eq_some {left right result : ℤ}
    (taken : CheckedInt.add 32 left right = some result) :
    left + right = result :=
  (CheckedInt.check_eq_some_iff.mp taken).2

theorem prepareWindowI32_agrees {σ : Type} (runtime : NumericRuntime σ)
    (order : IterationOrder Assignment) (input : BatchSolveContext)
    {bounds : ℤ × ℤ}
    (taken : prepareWindowI32 input.assignment input.currentSlot =
      some bounds) :
    bounds = ((prepareSolve runtime order input).1.windowStart,
      (prepareSolve runtime order input).1.windowEnd) := by
  obtain ⟨start, first, taken⟩ := Option.bind_eq_some_iff.mp taken
  obtain ⟨stop, second, taken⟩ := Option.bind_eq_some_iff.mp taken
  obtain ⟨last, third, same⟩ := Option.bind_eq_some_iff.mp taken
  rw [← Option.some.inj same, ← sub_eq_some first, ← add_eq_some second,
    ← sub_eq_some third]
  rfl

theorem solveBatchWindowI32_agrees (solver : DpSolver)
    (input : SolveBatchInput) {bounds : ℤ × ℤ × ℤ}
    (taken : solver.solveBatchWindowI32 input = some bounds) :
    bounds = (DpSolver.windowStart input, solver.windowEnd input,
      solver.assignmentCap input) := by
  obtain ⟨start, first, taken⟩ := Option.bind_eq_some_iff.mp taken
  obtain ⟨stop, second, taken⟩ := Option.bind_eq_some_iff.mp taken
  obtain ⟨last, third, same⟩ := Option.bind_eq_some_iff.mp taken
  rw [← Option.some.inj same, ← sub_eq_some first, ← add_eq_some second,
    ← sub_eq_some third]
  rfl

theorem decayedSlotsI32_agrees {slots : List ℤ}
    (taken : decayedSlotsI32 policy currentSlot = some slots) :
    slots = (List.range policy.errorWindowPastDecaySlots.toNat).map
      fun (offset : ℕ) =>
        currentSlot - policy.errorWindowPast - ((offset : ℤ) + 1) := by
  refine CheckedInt.mapM_eq_some_map (fun offset _ slot found => ?_) taken
  obtain ⟨start, first, second⟩ := Option.bind_eq_some_iff.mp found
  rw [sub_eq_some first, sub_eq_some second]

theorem profileWindowI32_agrees
    {centerSlot windowPast windowFuture : ℤ} {bounds : ℤ × ℤ}
    (taken : profileWindowI32 centerSlot windowPast windowFuture =
      some bounds)
    (profileId : QosProfileId) (exclude : List ℕ) (assignment : Assignment) :
    SolverSnapshot.inProfileWindow profileId centerSlot windowPast windowFuture
        exclude assignment =
      (decide (assignment.qosProfileId = profileId) &&
        !exclude.contains assignment.requestId &&
        decide (bounds.1 ≤ assignment.scheduledSlot) &&
        decide (assignment.scheduledSlot ≤ bounds.2)) := by
  obtain ⟨start, first, taken⟩ := Option.bind_eq_some_iff.mp taken
  obtain ⟨stop, second, same⟩ := Option.bind_eq_some_iff.mp taken
  rw [← Option.some.inj same, ← sub_eq_some first, ← add_eq_some second]
  rfl

theorem pickWindowI32_agrees {slot : ℤ} {bounds : ℤ × ℤ}
    (taken : pickWindowI32 policy slot = some bounds) :
    bounds = (slot - policy.errorWindowPast,
      slot + policy.errorWindowFuture) := by
  obtain ⟨start, first, taken⟩ := Option.bind_eq_some_iff.mp taken
  obtain ⟨stop, second, same⟩ := Option.bind_eq_some_iff.mp taken
  rw [← Option.some.inj same, ← sub_eq_some first, ← add_eq_some second]

section Prehistory

variable {σ : Type} {runtime : NumericRuntime σ}
variable {simulation : SimulationConfig} {recovery : InfeasibilityConfig}

theorem virtualCount_pos (missing offset : ℤ) :
    0 < virtualCount currentSlot runtime simulation recovery missing
      offset := by
  unfold virtualCount
  dsimp only
  split
  · exact lt_of_lt_of_le (by decide) (le_max_right _ _)
  · unfold CheckedInt.saturate
    have atLeast : 1 ≤ max (roundHalfAway
        simulation.predictedRequestsPerSlot) 1 := le_max_right _ _
    omega

theorem virtualCounts_nonneg {count : ℤ}
    (member : count ∈
      virtualCounts policy currentSlot runtime simulation recovery) :
    0 ≤ count := by
  obtain ⟨offset, _, rfl⟩ := List.mem_map.mp member
  exact (virtualCount_pos _ _).le

/-- A checked history has the size of the modelled one, when no count
exceeds the type. -/
theorem virtualRequestsI32_agrees {requests : ℤ}
    (taken : virtualRequestsI32 policy currentSlot runtime simulation
      recovery = some requests)
    (rate_fits : Fits 32
      (max (roundHalfAway simulation.predictedRequestsPerSlot) 1))
    (draws_fit : ∀ mean deviation seed,
      Fits 32 (runtime.sampleNormal mean deviation seed))
    (baseline : ErrorBaseline) :
    augmentWithVirtualPrehistory currentSlot baseline policy runtime
        simulation recovery =
      if requests ≤ 0 then
        baseline
      else
        .new
          (baseline.errorSum + requests * (policy.maxErrorThreshold *
            recovery.prehistoryErrorRatioOfThreshold))
          (baseline.requestCount + requests) := by
  unfold virtualRequestsI32 at taken
  cases enabled : recovery.prehistoryUseVirtualPast with
  | false =>
      rw [enabled, if_neg Bool.false_ne_true] at taken
      rw [← Option.some.inj taken, if_pos le_rfl]
      simp [augmentWithVirtualPrehistory, enabled]
  | true =>
      rw [enabled, if_pos rfl] at taken
      obtain ⟨_, _, total⟩ := Option.bind_eq_some_iff.mp taken
      rw [CheckedInt.sum_of_nonneg fun _ => virtualCounts_nonneg,
        CheckedInt.check_eq_some_iff] at total
      rw [← total.2]
      simp only [virtualCounts, virtualCount,
        CheckedInt.saturate_of_fits rate_fits,
        CheckedInt.saturate_of_fits (draws_fit _ _ _)]
      unfold augmentWithVirtualPrehistory
      by_cases missing : max (policy.errorWindowPast - currentSlot) 0 = 0
      · simp [missing]
      · simp [enabled, missing]

end Prehistory

end Agreement

/-! ## When they succeed -/

section Range

variable {σ : Type} (runtime : NumericRuntime σ) (cfg : Config)
variable (policy : AssignmentPolicy) (currentSlot slot : ℤ)

/-- No window computation of a solve at a slot overflows, nor does one for the
window around another slot of the horizon. -/
structure WindowArithmeticInRange : Prop where
  prepare : (prepareWindowI32 policy currentSlot).isSome
  solveBatch : ∀ (solver : DpSolver) (input : SolveBatchInput),
    solver.windowSize = policy.totalSlots →
      input.currentSlot = currentSlot →
      input.errorWindowPast = policy.errorWindowPast →
      input.errorWindowFuture = policy.errorWindowFuture →
      (solver.solveBatchWindowI32 input).isSome
  decayedPast : (decayedSlotsI32 policy currentSlot).isSome
  prehistory : (virtualRequestsI32 policy currentSlot runtime cfg.simulation
    cfg.infeasibility).isSome
  profileWindow : (profileWindowI32 currentSlot policy.errorWindowPast
    policy.errorWindowFuture).isSome
  profileWindowAt : (profileWindowI32 slot policy.errorWindowPast
    policy.errorWindowFuture).isSome
  pick : (pickWindowI32 policy slot).isSome

/-- The windows reach no further than the integers do, and neither does a
virtual history: at its constant rate, or with the counts that are drawn. -/
structure WindowsFit : Prop where
  future : currentSlot + policy.errorWindowFuture < 2 ^ 31
  futureAt : slot + policy.errorWindowFuture < 2 ^ 31
  past : -2 ^ 31 ≤
    currentSlot - policy.errorWindowPast - policy.errorWindowPastDecaySlots
  constantRate : cfg.infeasibility.prehistoryUseVirtualPast = true →
    cfg.infeasibility.prehistoryStochasticCounts = false →
      (policy.errorWindowPast - currentSlot) * CheckedInt.saturate 32
        (max (roundHalfAway cfg.simulation.predictedRequestsPerSlot) 1) <
          2 ^ 31
  drawnCounts : cfg.infeasibility.prehistoryUseVirtualPast = true →
    cfg.infeasibility.prehistoryStochasticCounts = true →
      (virtualCounts policy currentSlot runtime cfg.simulation
        cfg.infeasibility).sum < 2 ^ 31

/-- What the types and validation say about a solve at a slot: the fields are
32-bit integers, the windows are not negative and the slots lie in the
horizon. -/
structure InHorizon : Prop where
  total_fits : Fits 32 policy.totalSlots
  past_fits : Fits 32 policy.errorWindowPast
  future_fits : Fits 32 policy.errorWindowFuture
  decay_fits : Fits 32 policy.errorWindowPastDecaySlots
  past_nonneg : 0 ≤ policy.errorWindowPast
  future_nonneg : 0 ≤ policy.errorWindowFuture
  decay_nonneg : 0 ≤ policy.errorWindowPastDecaySlots
  current_nonneg : 0 ≤ currentSlot
  current_lt : currentSlot < policy.totalSlots
  slot_nonneg : 0 ≤ slot
  slot_lt : slot < policy.totalSlots

end Range

section Iff

variable {σ : Type} {runtime : NumericRuntime σ} {cfg : Config}
variable {policy : AssignmentPolicy} {currentSlot slot : ℤ}

private theorem fits32_iff {value : ℤ} :
    Fits 32 value ↔ -2 ^ 31 ≤ value ∧ value < 2 ^ 31 := Iff.rfl

theorem InHorizon.fits_total_sub_one
    (inside : InHorizon policy currentSlot slot) :
    Fits 32 (policy.totalSlots - 1) := by
  have total := fits32_iff.mp inside.total_fits
  have lower := inside.current_nonneg
  have upper := inside.current_lt
  rw [fits32_iff]
  omega

theorem InHorizon.fits_sub_past (inside : InHorizon policy currentSlot slot) :
    Fits 32 (currentSlot - policy.errorWindowPast) ∧
      Fits 32 (slot - policy.errorWindowPast) := by
  have total := fits32_iff.mp inside.total_fits
  have past := fits32_iff.mp inside.past_fits
  have past_nonneg := inside.past_nonneg
  have lower := inside.current_nonneg
  have upper := inside.current_lt
  have slot_lower := inside.slot_nonneg
  have slot_upper := inside.slot_lt
  rw [fits32_iff, fits32_iff]
  omega

theorem InHorizon.fits_add_future_iff
    (inside : InHorizon policy currentSlot slot) :
    (Fits 32 (currentSlot + policy.errorWindowFuture) ↔
        currentSlot + policy.errorWindowFuture < 2 ^ 31) ∧
      (Fits 32 (slot + policy.errorWindowFuture) ↔
        slot + policy.errorWindowFuture < 2 ^ 31) :=
  ⟨CheckedInt.fits_of_nonneg
      (add_nonneg inside.current_nonneg inside.future_nonneg),
    CheckedInt.fits_of_nonneg
      (add_nonneg inside.slot_nonneg inside.future_nonneg)⟩

/-- The window bounds fit when the addition does. -/
theorem isSome_prepareWindowI32_iff
    (inside : InHorizon policy currentSlot slot) :
    (prepareWindowI32 policy currentSlot).isSome ↔
      currentSlot + policy.errorWindowFuture < 2 ^ 31 := by
  have bounds :
      (prepareWindowI32 policy currentSlot).isSome ↔
        Fits 32 (currentSlot - policy.errorWindowPast) ∧
          Fits 32 (currentSlot + policy.errorWindowFuture) ∧
            Fits 32 (policy.totalSlots - 1) ∧ True :=
    CheckedInt.isSome_check_bind.trans (and_congr_right fun _ =>
      CheckedInt.isSome_check_bind.trans (and_congr_right fun _ =>
        CheckedInt.isSome_check_bind.trans (by simp)))
  rw [bounds, inside.fits_add_future_iff.1]
  simp [inside.fits_sub_past.1, inside.fits_total_sub_one]

theorem isSome_solveBatchWindowI32 (inside : InHorizon policy currentSlot slot)
    (fits : currentSlot + policy.errorWindowFuture < 2 ^ 31)
    {solver : DpSolver} {input : SolveBatchInput}
    (horizon : solver.windowSize = policy.totalSlots)
    (current : input.currentSlot = currentSlot)
    (past : input.errorWindowPast = policy.errorWindowPast)
    (future : input.errorWindowFuture = policy.errorWindowFuture) :
    (solver.solveBatchWindowI32 input).isSome := by
  refine CheckedInt.isSome_check_bind.mpr ⟨?_,
    CheckedInt.isSome_check_bind.mpr ⟨?_,
      CheckedInt.isSome_check_bind.mpr ⟨?_, rfl⟩⟩⟩
  · rw [current, past]
    exact inside.fits_sub_past.1
  · rw [current, future]
    exact inside.fits_add_future_iff.1.mpr fits
  · rw [horizon]
    exact inside.fits_total_sub_one

/-- The lowest slot looked back to is the last one. -/
theorem isSome_decayedSlotsI32_iff
    (inside : InHorizon policy currentSlot slot) :
    (decayedSlotsI32 policy currentSlot).isSome ↔
      -2 ^ 31 ≤ currentSlot - policy.errorWindowPast -
        policy.errorWindowPastDecaySlots := by
  have start := inside.fits_sub_past.1
  have startFits := fits32_iff.mp start
  have decay := inside.decay_nonneg
  have each : (decayedSlotsI32 policy currentSlot).isSome ↔
      ∀ offset ∈ List.range policy.errorWindowPastDecaySlots.toNat,
        Fits 32 (currentSlot - policy.errorWindowPast -
          ((offset : ℤ) + 1)) :=
    CheckedInt.isSome_mapM_iff.trans (forall₂_congr fun offset _ =>
      CheckedInt.isSome_check_bind.trans
        ⟨fun both => CheckedInt.isSome_check.mp both.2, fun fits =>
          ⟨start, CheckedInt.isSome_check.mpr fits⟩⟩)
  rw [each]
  constructor
  · intro all
    by_cases none : policy.errorWindowPastDecaySlots = 0
    · omega
    · have last := fits32_iff.mp (all
        (policy.errorWindowPastDecaySlots.toNat - 1)
        (List.mem_range.mpr (by omega)))
      omega
  · intro low offset member
    have before := List.mem_range.mp member
    rw [fits32_iff]
    omega

theorem isSome_virtualRequestsI32_iff
    (inside : InHorizon policy currentSlot slot) :
    (virtualRequestsI32 policy currentSlot runtime cfg.simulation
        cfg.infeasibility).isSome ↔
      (cfg.infeasibility.prehistoryUseVirtualPast = true →
        (virtualCounts policy currentSlot runtime cfg.simulation
          cfg.infeasibility).sum < 2 ^ 31) := by
  have missing : Fits 32 (policy.errorWindowPast - currentSlot) := by
    have total := fits32_iff.mp inside.total_fits
    have past := fits32_iff.mp inside.past_fits
    have past_nonneg := inside.past_nonneg
    have lower := inside.current_nonneg
    have upper := inside.current_lt
    rw [fits32_iff]
    omega
  cases enabled : cfg.infeasibility.prehistoryUseVirtualPast with
  | false => simp [virtualRequestsI32, enabled]
  | true =>
      have checked : virtualRequestsI32 policy currentSlot runtime
            cfg.simulation cfg.infeasibility =
          (CheckedInt.sub 32 policy.errorWindowPast currentSlot).bind
            fun _ => CheckedInt.sum 32 (virtualCounts policy currentSlot
              runtime cfg.simulation cfg.infeasibility) := by
        rw [virtualRequestsI32, enabled, if_pos rfl]
        rfl
      rw [checked, CheckedInt.sub, CheckedInt.isSome_check_bind,
        CheckedInt.sum_of_nonneg fun _ => virtualCounts_nonneg,
        CheckedInt.isSome_check, CheckedInt.fits_of_nonneg
          (List.sum_nonneg fun _ => virtualCounts_nonneg)]
      simp [missing]

/-- At a constant rate every virtual slot has the same count. -/
theorem sum_virtualCounts_of_constantRate
    (constant : cfg.infeasibility.prehistoryStochasticCounts = false) :
    (virtualCounts policy currentSlot runtime cfg.simulation
        cfg.infeasibility).sum =
      max (policy.errorWindowPast - currentSlot) 0 * CheckedInt.saturate 32
        (max (roundHalfAway cfg.simulation.predictedRequestsPerSlot) 1) := by
  have counts : virtualCounts policy currentSlot runtime cfg.simulation
        cfg.infeasibility =
      (List.range (max (policy.errorWindowPast - currentSlot) 0).toNat).map
        fun _ => CheckedInt.saturate 32
          (max (roundHalfAway cfg.simulation.predictedRequestsPerSlot) 1) := by
    refine List.map_congr_left fun offset _ => ?_
    simp [virtualCount, constant]
  rw [counts, List.map_const', List.sum_replicate, List.length_range,
    nsmul_eq_mul, Int.natCast_toNat_eq_self.mpr (le_max_right _ _)]

theorem sum_virtualCounts_lt_iff
    (constant : cfg.infeasibility.prehistoryStochasticCounts = false) :
    (virtualCounts policy currentSlot runtime cfg.simulation
        cfg.infeasibility).sum < 2 ^ 31 ↔
      (policy.errorWindowPast - currentSlot) * CheckedInt.saturate 32
        (max (roundHalfAway cfg.simulation.predictedRequestsPerSlot) 1) <
          2 ^ 31 := by
  have positive : 0 < CheckedInt.saturate 32
      (max (roundHalfAway cfg.simulation.predictedRequestsPerSlot) 1) := by
    have atLeast := le_max_right
      (roundHalfAway cfg.simulation.predictedRequestsPerSlot) 1
    unfold CheckedInt.saturate
    omega
  rw [sum_virtualCounts_of_constantRate constant]
  rcases le_total 0 (policy.errorWindowPast - currentSlot) with behind | ahead
  · rw [max_eq_left behind]
  · rw [max_eq_right ahead, zero_mul]
    refine iff_of_true (by decide) ?_
    calc (policy.errorWindowPast - currentSlot) * _ ≤ 0 :=
          mul_nonpos_of_nonpos_of_nonneg ahead positive.le
      _ < 2 ^ 31 := by decide

theorem isSome_profileWindowI32_iff {center past future : ℤ}
    (past_fits : Fits 32 (center - past)) :
    (profileWindowI32 center past future).isSome ↔
      Fits 32 (center + future) :=
  CheckedInt.isSome_check_bind.trans
    ⟨fun both => (CheckedInt.isSome_check_bind.mp both.2).1, fun fits =>
      ⟨past_fits, CheckedInt.isSome_check_bind.mpr ⟨fits, rfl⟩⟩⟩

theorem windowArithmeticInRange_iff
    (inside : InHorizon policy currentSlot slot) :
    WindowArithmeticInRange runtime cfg policy currentSlot slot ↔
      WindowsFit runtime cfg policy currentSlot slot := by
  constructor
  · intro range
    have history := (isSome_virtualRequestsI32_iff inside).mp range.prehistory
    exact
      { future := (isSome_prepareWindowI32_iff inside).mp range.prepare
        futureAt := inside.fits_add_future_iff.2.mp
          ((isSome_profileWindowI32_iff inside.fits_sub_past.2).mp
            range.profileWindowAt)
        past := (isSome_decayedSlotsI32_iff inside).mp range.decayedPast
        constantRate := fun enabled constant =>
          (sum_virtualCounts_lt_iff constant).mp (history enabled)
        drawnCounts := fun enabled _ => history enabled }
  · intro fit
    have history : cfg.infeasibility.prehistoryUseVirtualPast = true →
        (virtualCounts policy currentSlot runtime cfg.simulation
          cfg.infeasibility).sum < 2 ^ 31 := by
      intro enabled
      cases counts : cfg.infeasibility.prehistoryStochasticCounts with
      | false =>
          exact (sum_virtualCounts_lt_iff counts).mpr
            (fit.constantRate enabled counts)
      | true => exact fit.drawnCounts enabled counts
    have here := inside.fits_add_future_iff.1.mpr fit.future
    have there := inside.fits_add_future_iff.2.mpr fit.futureAt
    exact
      { prepare := (isSome_prepareWindowI32_iff inside).mpr fit.future
        solveBatch := fun _ _ => isSome_solveBatchWindowI32 inside fit.future
        decayedPast := (isSome_decayedSlotsI32_iff inside).mpr fit.past
        prehistory := (isSome_virtualRequestsI32_iff inside).mpr history
        profileWindow :=
          (isSome_profileWindowI32_iff inside.fits_sub_past.1).mpr here
        profileWindowAt :=
          (isSome_profileWindowI32_iff inside.fits_sub_past.2).mpr there
        pick := (isSome_profileWindowI32_iff inside.fits_sub_past.2).mpr
          there }

end Iff

/-! ## Accepted profiles -/

section Profiles

variable {σ : Type} (runtime : NumericRuntime σ) (cfg : Config)
variable {profile : QosProfile} {currentSlot slot : ℤ}

/-- A profile's windows overflow nowhere if and only if the far ends of the
windows and the virtual history stay within 32 bits. -/
theorem accepted_window_arithmetic_iff
    (valid : profile.validate = .ok ())
    (total_fits : Fits 32 cfg.totalSlots)
    (past_fits : Fits 32 profile.errorWindow.pastSlots)
    (future_fits : Fits 32 profile.errorWindow.futureSlots)
    (decay_fits : Fits 32 profile.errorWindow.pastDecaySlots)
    (current_inside : 0 ≤ currentSlot ∧ currentSlot < cfg.totalSlots)
    (slot_inside : 0 ≤ slot ∧ slot < cfg.totalSlots) :
    WindowArithmeticInRange runtime cfg
        (cfg.assignmentPolicyForProfile profile) currentSlot slot ↔
      WindowsFit runtime cfg (cfg.assignmentPolicyForProfile profile)
        currentSlot slot := by
  have accepted := QosProfile.accepted_of_validate valid
  exact windowArithmeticInRange_iff
    { total_fits := total_fits
      past_fits := past_fits
      future_fits := future_fits
      decay_fits := decay_fits
      past_nonneg := accepted.past_nonneg
      future_nonneg := accepted.future_nonneg
      decay_nonneg := accepted.decay_nonneg
      current_nonneg := current_inside.1
      current_lt := current_inside.2
      slot_nonneg := slot_inside.1
      slot_lt := slot_inside.2 }

/-- An accepted profile whose window reaches the given number of slots
ahead. -/
def farSightedProfile (futureSlots : ℤ) : QosProfile where
  profileId := .defaultProfile
  taskKind := ⟨"translation"⟩
  flavours := [{ name := "only", error := 1, duration := 10 }]
  errorSemantics := "word-overlap-f1-v1"
  maxErrorThreshold := 5
  errorWindow :=
    { pastSlots := 12, futureSlots := futureSlots, pastDecaySlots := 0 }
  cumulativeError := { enabled := false, hard := false }

/-- An ordinary window overflows nowhere. -/
theorem short_window_in_range :
    WindowArithmeticInRange .least .default
      (Config.default.assignmentPolicyForProfile (farSightedProfile 14))
      3 5 := by
  refine (accepted_window_arithmetic_iff .least .default
    (by decide +kernel) (by decide) (by decide) (by decide) (by decide)
    (by decide) (by decide)).mpr ?_
  exact
    { future := by decide
      futureAt := by decide
      past := by decide
      constantRate := by decide
      drawnCounts := by decide }

/-- A longest window is accepted and overflows from the second slot on. -/
theorem longest_window_overflows :
    (farSightedProfile (2 ^ 31 - 1)).validate = .ok () ∧
      Fits 32 (2 ^ 31 - 1) ∧
      prepareWindowI32
        (Config.default.assignmentPolicyForProfile
          (farSightedProfile (2 ^ 31 - 1))) 1 = none ∧
      ¬ WindowArithmeticInRange .least .default
        (Config.default.assignmentPolicyForProfile
          (farSightedProfile (2 ^ 31 - 1))) 1 1 := by
  have overflow : prepareWindowI32
      (Config.default.assignmentPolicyForProfile
        (farSightedProfile (2 ^ 31 - 1))) 1 = none := by
    decide +kernel
  refine ⟨by decide +kernel, by decide, overflow, fun range => ?_⟩
  have bounds := range.prepare
  rw [overflow] at bounds
  cases bounds

end Profiles

end Carbonshift
