import Carbonshift.Service.CapacityLadders

/-!
# The slot report

The report of a slot searches the capacity ladder on its own, and takes the
dearest tier that covers the slot's occupancy instead of the first one.
-/

namespace Carbonshift

/-- Answer of `GET /v1/slots/{slot}`. -/
structure SlotDetailResponse where
  slot : ℤ
  totalRequests : ℕ
  flavourCounts : Dictionary String ℕ
  totalCarbonCost : ℚ
  capacityMultiplier : ℚ
  forecastCarbonIntensity : Option ℚ
  actualCarbonIntensity : Option ℚ

/-- The committed assignments of a slot. -/
def SharedState.getRequestsInSlot (state : SharedState) (slot : ℤ) :
    List Assignment :=
  state.assignments.values.filter fun assignment =>
    decide (assignment.scheduledSlot = slot)

/-- The ladder in force, or none before it is set. -/
def SharedState.capacityTiersSnapshot (state : SharedState) :
    List CapacityTier :=
  state.capacityTiers.getD []

/-- The largest multiplier of the tiers that cover the occupancy. -/
def slotDetailMultiplier (tiers : List CapacityTier) (occupancy : ℤ) : ℚ :=
  ((tiers.filter (·.covers occupancy)).map
    CapacityTier.multiplier).max?.getD 1

/-- Handler of `GET /v1/slots/{slot}`. -/
def AppState.getSlotDetail {σ : Type} (settings : ServiceSettings)
    (state : AppState σ) (slot : ℤ) : Except ApiError SlotDetailResponse :=
  let horizon := max
    (state.currentSlot + settings.engine.assignmentMaxFutureSlots)
    state.carbonForecast.length
  if slot < 0 then
    .error (.badRequest "Slot cannot be negative")
  else if horizon ≤ slot then
    .error (.badRequest "Slot exceeds horizon")
  else
    let assignments := state.engine.shared.getRequestsInSlot slot
    .ok
      { slot := slot
        totalRequests := assignments.length
        flavourCounts :=
          assignments.foldl
            (fun counts assignment =>
              counts.upsert assignment.flavourName 0 (· + 1)) ∅
        totalCarbonCost := (assignments.map Assignment.carbonCost).sum
        capacityMultiplier :=
          slotDetailMultiplier state.engine.shared.capacityTiersSnapshot
            assignments.length
        forecastCarbonIntensity := slotEntry state.carbonForecast slot
        actualCarbonIntensity := state.actualCarbonIntensity.lookup slot }

/-! ## The dearest tier -/

section Dearest

variable {tiers : List CapacityTier} {occupancy : ℤ}

/-- The report shows the multiplier of a covering tier that no covering tier
exceeds. -/
theorem slotDetailMultiplier_eq_iff {multiplier : ℚ}
    (covered : ∃ tier ∈ tiers, tier.covers occupancy = true) :
    slotDetailMultiplier tiers occupancy = multiplier ↔
      (∃ tier ∈ tiers, tier.covers occupancy = true ∧
        tier.multiplier = multiplier) ∧
      ∀ tier ∈ tiers, tier.covers occupancy = true →
        tier.multiplier ≤ multiplier := by
  have member_iff : ∀ value,
      value ∈ (tiers.filter (·.covers occupancy)).map CapacityTier.multiplier ↔
        ∃ tier ∈ tiers, tier.covers occupancy = true ∧
          tier.multiplier = value := by
    intro value
    simp only [List.mem_map, List.mem_filter, and_assoc]
  unfold slotDetailMultiplier
  cases dearest : ((tiers.filter (·.covers occupancy)).map
      CapacityTier.multiplier).max? with
  | none =>
      rw [List.max?_eq_none_iff, List.map_eq_nil_iff,
        List.filter_eq_nil_iff] at dearest
      obtain ⟨tier, member, covers⟩ := covered
      exact absurd covers (dearest tier member)
  | some value =>
      rw [List.max?_eq_some_iff] at dearest
      obtain ⟨attained, bound⟩ := dearest
      rw [Option.getD_some]
      constructor
      · rintro rfl
        refine ⟨(member_iff value).mp attained, fun tier member covers => ?_⟩
        exact bound tier.multiplier
          ((member_iff _).mpr ⟨tier, member, covers, rfl⟩)
      · rintro ⟨shown, above⟩
        obtain ⟨tier, member, covers, rfl⟩ := (member_iff value).mp attained
        exact le_antisymm (above tier member covers)
          (bound multiplier ((member_iff multiplier).mpr shown))

/-- The occupancy is beyond every bound below the dearest tier. -/
def ReachesTop (tiers : List CapacityTier) (occupancy : ℤ) : Prop :=
  ∀ tier ∈ tiers, tier.covers occupancy = true →
    ∀ other ∈ tiers, other.multiplier ≤ tier.multiplier

theorem slotDetailMultiplier_eq_getCapacityMultiplier_iff
    (accepted : validateCapacityTiers tiers = .ok ()) :
    slotDetailMultiplier tiers occupancy =
        getCapacityMultiplier tiers occupancy ↔
      ReachesTop tiers occupancy := by
  obtain ⟨_, ladder⟩ := ladderAfter_of_accepted accepted
  obtain ⟨first, found⟩ := exists_covers_of_accepted accepted occupancy
  obtain ⟨top, topMember, topCovers, highest⟩ := exists_top_of_accepted accepted
  have firstMember := List.mem_of_find?_eq_some found
  have firstCovers : first.covers occupancy = true := by
    have holds := List.find?_some found
    exact holds
  have priced : getCapacityMultiplier tiers occupancy = first.multiplier := by
    rw [getCapacityMultiplier, found]
  rw [priced, slotDetailMultiplier_eq_iff ⟨first, firstMember, firstCovers⟩]
  constructor
  · rintro ⟨_, bound⟩ tier member covers other otherMember
    calc
      other.multiplier ≤ top.multiplier := highest other otherMember
      _ ≤ first.multiplier := bound top topMember (topCovers occupancy)
      _ ≤ tier.multiplier :=
          multiplier_le_of_find? ladder.nonDecreasing found member covers
  · intro reaches
    exact ⟨⟨first, firstMember, firstCovers, rfl⟩,
      fun tier member _ => reaches first firstMember firstCovers tier member⟩

end Dearest

/-- The reported multiplier is the one used for pricing exactly if the slot is
filled up to the dearest tier. -/
theorem reported_multiplier_iff {σ : Type} (settings : ServiceSettings)
    (state : AppState σ) (slot : ℤ) {detail : SlotDetailResponse}
    (accepted :
      validateCapacityTiers state.engine.shared.capacityTiersSnapshot = .ok ())
    (answered : state.getSlotDetail settings slot = .ok detail) :
    (detail.totalRequests =
        slotOccupancy state.engine.shared.assignments.values slot) ∧
      (detail.capacityMultiplier =
          getCapacityMultiplier state.engine.shared.capacityTiersSnapshot
            detail.totalRequests ↔
        ReachesTop state.engine.shared.capacityTiersSnapshot
          (slotOccupancy state.engine.shared.assignments.values slot)) := by
  have occupancy : (state.engine.shared.getRequestsInSlot slot).length =
      slotOccupancy state.engine.shared.assignments.values slot := by
    rw [SharedState.getRequestsInSlot, slotOccupancy,
      List.countP_eq_length_filter]
  unfold AppState.getSlotDetail at answered
  dsimp only at answered
  split at answered
  · cases answered
  · split at answered
    · cases answered
    · cases answered
      dsimp only
      rw [occupancy]
      exact ⟨rfl, slotDetailMultiplier_eq_getCapacityMultiplier_iff accepted⟩

/-- The service with three tiers and nothing committed. -/
def threeTierService : AppState Unit :=
  (AppState.new AppState.manualSettings (List.replicate 24 1) 0).withShared
    (SharedState.new.replaceCapacityTiers threeTiers)

/-- The report of an empty slot shows the overflow tier. -/
theorem empty_slot_reports_overflow :
    validateCapacityTiers
        threeTierService.engine.shared.capacityTiersSnapshot = .ok () ∧
      ∃ detail,
        threeTierService.getSlotDetail AppState.manualSettings 3 = .ok detail ∧
          detail.totalRequests = 0 ∧
            detail.capacityMultiplier = 5 ∧
              getCapacityMultiplier
                  threeTierService.engine.shared.capacityTiersSnapshot 0 =
                1 := by
  refine ⟨by decide +kernel, _, rfl, ?_, ?_, ?_⟩ <;> decide +kernel

/-- Slot three holds three requests, more than the cheaper tiers cover. -/
def filledService : AppState Unit :=
  (AppState.new AppState.manualSettings (List.replicate 24 1) 0).withShared
    ((SharedState.new.replaceCapacityTiers
      [{ maxRequests := some 1, multiplier := 1 },
        { maxRequests := some 2, multiplier := 3 / 2 },
        { maxRequests := none, multiplier := 5 }]).addAssignments
      ([7, 8, 9].map fun requestId =>
        .new requestId 3 "Fast" (1 / 180) 5 20 (some 0) (some 3)))

/-- A slot that is filled up to the overflow tier is reported as it is
priced. -/
theorem filled_slot_reported :
    ∃ detail,
      filledService.getSlotDetail AppState.manualSettings 3 = .ok detail ∧
        detail.totalRequests = 3 ∧
          detail.capacityMultiplier =
            getCapacityMultiplier
              filledService.engine.shared.capacityTiersSnapshot
              detail.totalRequests := by
  refine ⟨_, rfl, by decide +kernel, ?_⟩
  refine (reported_multiplier_iff AppState.manualSettings filledService 3
    (by decide +kernel) rfl).2.mpr ?_
  unfold ReachesTop
  decide +kernel

end Carbonshift
