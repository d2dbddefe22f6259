import Carbonshift.Service.System

/-!
# Accepted capacity ladders

A ladder that was accepted starts at the baseline, never gets cheaper and ends
in an overflow tier, so every position is priced by a tier of its own.
-/

namespace Carbonshift

/-- What the checks of a ladder leave of it, after the multiplier before. -/
structure LadderAfter (previousMultiplier : Option ℚ)
    (tiers : List CapacityTier) : Prop where
  above : ∀ previous, previousMultiplier = some previous →
    ∀ tier ∈ tiers, previous ≤ tier.multiplier
  nonDecreasing : NonDecreasingLadder tiers
  baseline : previousMultiplier = none →
    ∀ tier, tiers.head? = some tier → tier.multiplier = 1
  overflow : ∀ last, tiers.getLast? = some last → last.maxRequests = none

/-- Only the last tier may be unbounded, and it has to be. -/
theorem validateBound_last {previous bound next : Option ℤ}
    (accepted : validateBound true previous bound = .ok next) :
    bound = none := by
  cases bound with
  | none => rfl
  | some maxRequests =>
      rw [validateBound] at accepted
      split at accepted
      · cases accepted
      · rw [if_pos rfl] at accepted
        cases accepted

theorem ladderAfter_of_validateTiers {tiers : List CapacityTier}
    {previousBound : Option ℤ} {previousMultiplier : Option ℚ}
    (accepted :
      validateTiers previousBound previousMultiplier tiers = .ok ()) :
    LadderAfter previousMultiplier tiers := by
  induction tiers generalizing previousBound previousMultiplier with
  | nil =>
      exact
        { above := fun _ _ tier member => by cases member
          nonDecreasing := List.Pairwise.nil
          baseline := fun _ tier first => by cases first
          overflow := fun last final => by cases final }
  | cons tier rest inductionHypothesis =>
      rw [validateTiers] at accepted
      split at accepted
      · cases accepted
      rename_i positive
      split at accepted
      · cases accepted
      rename_i base
      split at accepted
      · cases accepted
      rename_i rising
      cases checked :
          validateBound rest.isEmpty previousBound tier.maxRequests with
      | error refused =>
          rw [checked] at accepted
          cases accepted
      | ok bound =>
          rw [checked] at accepted
          have later := inductionHypothesis accepted
          have above := later.above tier.multiplier rfl
          exact
            { above := by
                rintro previous rfl other member
                have first : previous ≤ tier.multiplier := by
                  simpa using rising
                rcases List.mem_cons.mp member with rfl | behind
                · exact first
                · exact first.trans (above other behind)
              nonDecreasing := List.pairwise_cons.mpr
                ⟨above, later.nonDecreasing⟩
              baseline := by
                rintro rfl other first
                cases first
                simpa using base
              overflow := by
                intro last final
                cases rest with
                | nil =>
                    cases final
                    exact validateBound_last checked
                | cons next others =>
                    rw [List.getLast?_cons_cons] at final
                    exact later.overflow last final }

section Accepted

variable {tiers : List CapacityTier}

theorem ladderAfter_of_accepted
    (accepted : validateCapacityTiers tiers = .ok ()) :
    tiers ≠ [] ∧ LadderAfter none tiers := by
  unfold validateCapacityTiers at accepted
  split at accepted
  · cases accepted
  · rename_i nonempty
    refine ⟨?_, ladderAfter_of_validateTiers accepted⟩
    rintro rfl
    exact nonempty rfl

/-- The last tier covers every position and is the dearest one. -/
theorem exists_top_of_accepted
    (accepted : validateCapacityTiers tiers = .ok ()) :
    ∃ top ∈ tiers, (∀ position, top.covers position = true) ∧
      ∀ tier ∈ tiers, tier.multiplier ≤ top.multiplier := by
  obtain ⟨nonempty, ladder⟩ := ladderAfter_of_accepted accepted
  have split := List.dropLast_append_getLast nonempty
  have final := List.getLast?_eq_getLast_of_ne_nil nonempty
  refine ⟨tiers.getLast nonempty, List.getLast_mem nonempty, ?_, ?_⟩
  · intro position
    rw [CapacityTier.covers, ladder.overflow _ final]
  · have pairs := ladder.nonDecreasing
    rw [← split] at pairs
    intro tier member
    rw [← split] at member
    rcases List.mem_append.mp member with front | last
    · exact (List.pairwise_append.mp pairs).2.2 tier front _
        (List.mem_singleton_self _)
    · rw [List.mem_singleton.mp last]

/-- Some tier of the ladder covers the position. -/
theorem exists_covers_of_accepted
    (accepted : validateCapacityTiers tiers = .ok ()) (position : ℤ) :
    ∃ tier, tiers.find? (·.covers position) = some tier := by
  obtain ⟨top, member, covers, _⟩ := exists_top_of_accepted accepted
  exact Option.isSome_iff_exists.mp
    (List.find?_isSome.mpr ⟨top, member, covers position⟩)

/-- The first covering tier is the cheapest one. -/
theorem multiplier_le_of_find?
    (ladder : NonDecreasingLadder tiers) {position : ℤ} {first : CapacityTier}
    (found : tiers.find? (·.covers position) = some first)
    {tier : CapacityTier} (member : tier ∈ tiers)
    (covers : tier.covers position = true) :
    first.multiplier ≤ tier.multiplier := by
  induction tiers with
  | nil => cases member
  | cons head rest inductionHypothesis =>
      obtain ⟨above, later⟩ := List.pairwise_cons.mp ladder
      rw [List.find?_cons] at found
      cases here : head.covers position with
      | true =>
          rw [here] at found
          cases found
          rcases List.mem_cons.mp member with rfl | behind
          · exact le_rfl
          · exact above tier behind
      | false =>
          rw [here] at found
          rcases List.mem_cons.mp member with rfl | behind
          · rw [here] at covers
            cases covers
          · exact inductionHypothesis later found behind

/-- No tier is cheaper than the baseline. -/
theorem one_le_multiplier_of_accepted
    (accepted : validateCapacityTiers tiers = .ok ())
    {tier : CapacityTier} (member : tier ∈ tiers) : 1 ≤ tier.multiplier := by
  obtain ⟨_, ladder⟩ := ladderAfter_of_accepted accepted
  cases tiers with
  | nil => cases member
  | cons first rest =>
      have base := ladder.baseline rfl first rfl
      rcases List.mem_cons.mp member with rfl | behind
      · exact base.ge
      · rw [← base]
        exact (List.pairwise_cons.mp ladder.nonDecreasing).1 tier behind

/-- A lookup of the multiplier of a position: it finds a tier that covers the
position, and later positions are not cheaper. -/
structure SoundLookup (tiers : List CapacityTier) (lookup : ℤ → ℚ) :
    Prop where
  explicit : ∀ position, ∃ tier ∈ tiers,
    tiers.find? (·.covers position) = some tier ∧
      lookup position = tier.multiplier
  baseline : ∀ position, 1 ≤ lookup position
  mono : ∀ {position later}, position ≤ later →
    lookup position ≤ lookup later

theorem soundLookup_getCapacityMultiplier
    (accepted : validateCapacityTiers tiers = .ok ()) :
    SoundLookup tiers (getCapacityMultiplier tiers) := by
  have explicit : ∀ position, ∃ tier ∈ tiers,
      tiers.find? (·.covers position) = some tier ∧
        getCapacityMultiplier tiers position = tier.multiplier := by
    intro position
    obtain ⟨tier, found⟩ := exists_covers_of_accepted accepted position
    refine ⟨tier, List.mem_of_find?_eq_some found, found, ?_⟩
    rw [getCapacityMultiplier, found]
  refine ⟨explicit, fun position => ?_, fun ordered => ?_⟩
  · obtain ⟨tier, member, _, priced⟩ := explicit position
    rw [priced]
    exact one_le_multiplier_of_accepted accepted member
  · exact getCapacityMultiplier_mono
      (ladderAfter_of_accepted accepted).2.nonDecreasing ordered

/-- On an accepted ladder every copy of the lookup is sound, and they agree. -/
theorem accepted_ladder_lookups
    (accepted : validateCapacityTiers tiers = .ok ()) :
    SoundLookup tiers (getCapacityMultiplier tiers) ∧
      SoundLookup tiers (fun position =>
        capacityMultiplierForCount position tiers) ∧
      SoundLookup tiers (capacityMult tiers) ∧
      ∀ position,
        capacityMultiplierForCount position tiers =
            getCapacityMultiplier tiers position ∧
          capacityMult tiers position =
            getCapacityMultiplier tiers position := by
  have sound := soundLookup_getCapacityMultiplier accepted
  exact ⟨sound, sound, sound, fun _ => ⟨rfl, rfl⟩⟩

/-- Three tiers. -/
def threeTiers : List CapacityTier :=
  [{ maxRequests := some 100, multiplier := 1 },
    { maxRequests := some 200, multiplier := 3 / 2 },
    { maxRequests := none, multiplier := 5 }]

theorem threeTiers_lookups :
    SoundLookup threeTiers (getCapacityMultiplier threeTiers) ∧
      SoundLookup threeTiers (fun position =>
        capacityMultiplierForCount position threeTiers) ∧
      SoundLookup threeTiers (capacityMult threeTiers) ∧
      ∀ position,
        capacityMultiplierForCount position threeTiers =
            getCapacityMultiplier threeTiers position ∧
          capacityMult threeTiers position =
            getCapacityMultiplier threeTiers position :=
  accepted_ladder_lookups (by decide +kernel)

end Accepted

end Carbonshift
